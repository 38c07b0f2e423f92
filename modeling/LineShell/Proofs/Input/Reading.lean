import Mathlib.Data.List.DropRight
import Mathlib.Data.List.TakeDrop
import LineShell.Input.Session

/-!
# Reading line by line

Lines are read one at a time: each attempt reads up to a newline, or to where
the bytes run out.  What is read until then is a line if the input ends there,
and lost if reading fails.  `Yields` collects what the attempts come to, and
the sources of lines are what they yield (`yields_none_iff`,
`yields_some_iff`).
-/

namespace LineShell.Input

open Text (Bytes)

/-- What an attempt to read a line comes to. -/
inductive Reading where
  | line (line rest : Bytes)
  | ended
  | broken (failure : Failure)

/-- Reads up to a newline, from bytes that the end of the input follows, or a
failure if there is one. -/
def readLine (failure : Option Failure) (bytes : Bytes) : Reading :=
  match bytes.span (· ≠ newline) with
  | (before, final :: rest) => .line (before ++ [final]) rest
  | (before, []) =>
      match failure with
      | some failure => .broken failure
      | none => if before = [] then .ended else .line before []

/-- The lines that attempt after attempt comes to, and the failure that ends
them if there is one. -/
inductive Yields (failure : Option Failure) : Bytes → Source → Prop where
  | line {bytes line rest : Bytes} {source : Source} :
      readLine failure bytes = .line line rest →
      Yields failure rest source →
      Yields failure bytes ⟨line :: source.lines, source.failure⟩
  | ended {bytes : Bytes} :
      readLine failure bytes = .ended →
      Yields failure bytes ⟨[], none⟩
  | broken {bytes : Bytes} {reason : Failure} :
      readLine failure bytes = .broken reason →
      Yields failure bytes ⟨[], some reason⟩

/-- The part of an input up to its last newline, which is included. -/
def finished (bytes : Bytes) : Bytes :=
  bytes.rdropWhile (· ≠ newline)

/-- Input is some lines that end in a newline and a part without one. -/
@[elab_as_elim]
theorem byLine {motive : Bytes → Prop}
    (unfinished : ∀ bytes, newline ∉ bytes → motive bytes)
    (line : ∀ before rest, newline ∉ before → motive rest →
      motive (before ++ newline :: rest)) (bytes : Bytes) : motive bytes := by
  induction size : bytes.length using Nat.strongRecOn generalizing bytes with
  | ind size induction =>
      by_cases member : newline ∈ bytes
      · obtain ⟨before, rest, rfl, absent⟩ :=
          List.eq_append_cons_of_mem member
        refine line before rest absent (induction rest.length ?_ rest rfl)
        rw [← size, List.length_append, List.length_cons]
        omega
      · exact unfinished bytes member

section Cuts

variable {before rest bytes : Bytes}

theorem passes_of_absent (absent : newline ∉ bytes) :
    ∀ byte ∈ bytes, decide (byte ≠ newline) = true := by
  intro byte member
  apply decide_eq_true
  rintro rfl
  exact absent member

theorem readLine_line (failure : Option Failure) (absent : newline ∉ before) :
    readLine failure (before ++ newline :: rest) =
      .line (before ++ [newline]) rest := by
  have passes := passes_of_absent absent
  unfold readLine
  rw [List.span_eq_takeWhile_dropWhile, List.takeWhile_append_of_pos passes,
    List.dropWhile_append_of_pos passes, List.takeWhile_cons_of_neg (by simp),
    List.dropWhile_cons_of_neg (by simp), List.append_nil]

theorem readLine_unfinished (failure : Option Failure)
    (absent : newline ∉ bytes) :
    readLine failure bytes =
      match failure with
      | some failure => .broken failure
      | none => if bytes = [] then .ended else .line bytes [] := by
  have passes := passes_of_absent absent
  unfold readLine
  rw [List.span_eq_takeWhile_dropWhile, List.takeWhile_eq_self_iff.mpr passes,
    List.dropWhile_eq_nil_iff.mpr passes]

theorem cutLines_line (absent : newline ∉ before) :
    cutLines (before ++ newline :: rest) =
      (before ++ [newline]) :: cutLines rest := by
  induction before with
  | nil => simp [cutLines]
  | cons byte before induction =>
      rw [List.mem_cons, not_or] at absent
      have different : byte ≠ newline := Ne.symm absent.1
      rw [List.cons_append, cutLines, if_neg different, induction absent.2]
      rfl

theorem cutLines_unfinished (absent : newline ∉ bytes) :
    cutLines bytes = if bytes = [] then [] else [bytes] := by
  induction bytes with
  | nil => rfl
  | cons byte bytes induction =>
      rw [List.mem_cons, not_or] at absent
      have different : byte ≠ newline := Ne.symm absent.1
      rw [cutLines, if_neg different, induction absent.2]
      cases bytes <;> simp

theorem finished_line (before rest : Bytes) :
    finished (before ++ newline :: rest) =
      before ++ newline :: finished rest := by
  unfold finished
  -- Bytes are dropped from the end, so they are added there.
  induction rest using List.reverseRecOn with
  | nil => exact List.rdropWhile_concat_neg _ before newline (by simp)
  | append_singleton rest byte induction =>
      rw [List.rdropWhile_concat, ← List.cons_append, ← List.append_assoc,
        List.rdropWhile_concat]
      split
      · exact induction
      · simp

theorem finished_unfinished (absent : newline ∉ bytes) :
    finished bytes = [] := by
  unfold finished
  rw [List.rdropWhile_eq_nil_iff]
  exact passes_of_absent absent

theorem completeLines_line (absent : newline ∉ before) :
    completeLines (before ++ newline :: rest) =
      (before ++ [newline]) :: completeLines rest := by
  unfold completeLines
  rw [cutLines_line absent, List.filter_cons_of_pos]
  simp [isComplete]

theorem completeLines_unfinished (absent : newline ∉ bytes) :
    completeLines bytes = [] := by
  have incomplete : isComplete bytes = false := by
    rw [isComplete, beq_eq_false_iff_ne]
    intro final
    exact absent (List.mem_of_getLast? final)
  unfold completeLines
  rw [cutLines_unfinished absent]
  split
  · rfl
  · rw [List.filter_singleton, incomplete]
    rfl

theorem cutLines_finished (bytes : Bytes) :
    cutLines (finished bytes) = completeLines bytes := by
  induction bytes using byLine with
  | unfinished bytes absent =>
      rw [finished_unfinished absent, completeLines_unfinished absent]
      rfl
  | line before rest absent induction =>
      rw [finished_line, cutLines_line absent, completeLines_line absent,
        induction]

theorem dropFinal_subset (byte : UInt8) (line : Bytes) :
    dropFinal byte line ⊆ line := by
  unfold dropFinal
  split
  · exact List.dropLast_subset line
  · exact List.Subset.refl line

theorem newline_not_mem_content {bytes line : Bytes}
    (member : line ∈ cutLines bytes) : newline ∉ content line := by
  have kept (other : Bytes) (absent : newline ∉ dropFinal newline other) :
      newline ∉ content other :=
    fun found => absent (dropFinal_subset _ _ found)
  induction bytes using byLine with
  | unfinished bytes absent =>
      rw [cutLines_unfinished absent] at member
      split at member
      · cases member
      · rw [List.mem_singleton.mp member]
        exact kept _ fun found => absent (dropFinal_subset _ _ found)
  | line before rest absent ih =>
      rw [cutLines_line absent] at member
      rcases List.mem_cons.mp member with rfl | later
      · apply kept
        simpa [dropFinal] using absent
      · exact ih later

end Cuts

theorem Yields.unique {failure : Option Failure} {bytes : Bytes}
    {source other : Source} (yields : Yields failure bytes source)
    (again : Yields failure bytes other) : other = source := by
  induction yields generalizing other with
  | line reading _ induction =>
      cases again with
      | line same later =>
          rw [reading, Reading.line.injEq] at same
          obtain ⟨rfl, rfl⟩ := same
          rw [induction later]
      | ended same | broken same =>
          rw [reading] at same
          cases same
  | ended reading =>
      cases again with
      | ended => rfl
      | line same | broken same =>
          rw [reading] at same
          cases same
  | broken reading =>
      cases again with
      | broken same =>
          rw [reading, Reading.broken.injEq] at same
          rw [same]
      | line same | ended same =>
          rw [reading] at same
          cases same

theorem yields_none_iff {bytes : Bytes} {source : Source} :
    Yields none bytes source ↔ source = .ofBytes bytes := by
  have yields : Yields none bytes (.ofBytes bytes) := by
    induction bytes using byLine with
    | unfinished bytes absent =>
        have reading := readLine_unfinished none absent
        unfold Source.ofBytes
        rw [cutLines_unfinished absent]
        by_cases empty : bytes = []
        · simp only [empty, if_true] at reading ⊢
          exact .ended reading
        · simp only [empty, if_false] at reading ⊢
          exact .line reading (.ended rfl)
    | line before rest absent induction =>
        unfold Source.ofBytes
        rw [cutLines_line absent]
        exact .line (readLine_line none absent) induction
  exact ⟨yields.unique, fun same => same ▸ yields⟩

theorem yields_some_iff {bytes : Bytes} {failure : Failure} {source : Source} :
    Yields (some failure) bytes source ↔ source = .failing bytes failure := by
  have yields : Yields (some failure) bytes (.failing bytes failure) := by
    induction bytes using byLine with
    | unfinished bytes absent =>
        unfold Source.failing
        rw [completeLines_unfinished absent]
        exact .broken (readLine_unfinished (some failure) absent)
    | line before rest absent induction =>
        unfold Source.failing
        rw [completeLines_line absent]
        exact .line (readLine_line (some failure) absent) induction
  exact ⟨yields.unique, fun same => same ▸ yields⟩

end LineShell.Input
