import Mathlib.Data.List.Basic
import LineShell.Input.Line

/-!
# Lines between newlines

The lines of an input can be read off the parts between its newlines: every
part but the last is ended by a newline, and the last part is a line if there
is anything in it.  What is decoded of a line is what is left when a newline
and then a carriage return are taken off its end.
-/

namespace LineShell.Input

open Text (Bytes)

/-- The lines of an input, put together from the parts between newlines. -/
def linesOf (bytes : Bytes) : List Bytes :=
  let parts := bytes.splitOn newline
  parts.dropLast.map (· ++ [newline]) ++
    parts.getLast?.toList.filter (· ≠ [])

/-- Cutting input after every newline yields the lines between newlines. -/
theorem cutLines_eq_linesOf (bytes : Bytes) :
    cutLines bytes = linesOf bytes := by
  induction bytes with
  | nil => rfl
  | cons byte rest induction =>
      obtain ⟨part, parts, split⟩ :=
        List.exists_cons_of_ne_nil (rest.splitOn_ne_nil newline)
      rw [linesOf, split] at induction
      rw [cutLines, linesOf, List.splitOn_cons_eq_if_modifyHead, split]
      by_cases ending : byte = newline
      · subst ending
        simp [induction]
      · rw [if_neg ending, if_neg (by simpa using ending), induction,
          List.modifyHead_cons]
        cases parts with
        | nil => cases part <;> simp
        | cons next parts => simp

/-- A line without a byte at its end, if the byte stands there. -/
def without (byte : UInt8) (line : Bytes) : Bytes :=
  (line.dropSuffix? [byte]).getD line

theorem dropFinal_eq_without (byte : UInt8) (line : Bytes) :
    dropFinal byte line = without byte line := by
  unfold dropFinal without
  by_cases final : line.getLast? = some byte
  · obtain ⟨earlier, rfl⟩ := List.getLast?_eq_some_iff.mp final
    have dropped : (earlier ++ [byte]).dropSuffix? [byte] = some earlier :=
      List.dropSuffix?_eq_some_iff.mpr ⟨[byte], rfl, by simp⟩
    rw [if_pos final, dropped]
    simp
  · have kept : line.dropSuffix? [byte] = none := by
      rw [Option.eq_none_iff_forall_ne_some]
      intro earlier dropped
      obtain ⟨suffix, rfl, same⟩ := List.dropSuffix?_eq_some_iff.mp dropped
      rw [eq_of_beq same] at final
      simp at final
    rw [if_neg final, kept]
    rfl

theorem content_eq_without (line : Bytes) :
    content line = without carriageReturn (without newline line) := by
  simp only [content, dropFinal_eq_without]

end LineShell.Input
