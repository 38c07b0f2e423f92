import LineShell.Command.Installation
import LineShell.Proofs.Input.Deeds
import LineShell.Proofs.Input.Reading
import LineShell.Proofs.Statement.Trailing
import LineShell.Proofs.Text.Boundary

/-!
# Padded input

Only one carriage return is taken off the end of a line, but what more white
space there is reaches the reading of statements, where it says nothing.  So a
line makes the statement that its bytes make with the line ending left on
(`statement?_eq`), and white space may be put in front of line endings without
changing what a session does.
-/

namespace LineShell

open Text (Bytes)
open Argument (Blank)

namespace Input

/-- White space within a line. -/
structure Gap (gap : String) : Prop where
  blank : Blank gap.toList
  unbroken : '\n' ∉ gap.toList

/-- An input with white space put in front of its newlines and after an
unfinished last line. -/
inductive Padded : Bytes → Bytes → Prop where
  | nil : Padded [] []
  | unfinished {bytes : Bytes} {gap : String} :
      newline ∉ bytes → bytes ≠ [] → Gap gap →
      Padded bytes (bytes ++ Text.encode gap)
  | line {before rest padded : Bytes} {gap : String} :
      newline ∉ before → Gap gap → Padded rest padded →
      Padded (before ++ newline :: rest)
        (before ++ Text.encode gap ++ newline :: padded)

theorem encode_newline : Text.encode "\n" = [newline] := rfl

theorem encode_carriageReturn : Text.encode "\r" = [carriageReturn] := rfl

theorem blank_newline : Blank "\n".toList :=
  List.all_eq_true.mp rfl

theorem blank_carriageReturn : Blank "\r".toList :=
  List.all_eq_true.mp rfl

theorem newline_mem_encode_iff {text : String} :
    newline ∈ Text.encode text ↔ '\n' ∈ text.toList :=
  Text.mem_encode_iff rfl

theorem Gap.absent {bytes : Bytes} {gap : String} (within : Gap gap)
    (absent : newline ∉ bytes) : newline ∉ bytes ++ Text.encode gap := by
  rw [List.mem_append, newline_mem_encode_iff, not_or]
  exact ⟨absent, within.unbroken⟩

theorem eq_dropFinal_append {byte : UInt8} {mark : String}
    (bytes : Bytes) (encoded : Text.encode mark = [byte]) :
    bytes = dropFinal byte bytes ∨
      bytes = dropFinal byte bytes ++ Text.encode mark := by
  unfold dropFinal
  split
  · rename_i final
    obtain ⟨earlier, rfl⟩ := List.getLast?_eq_some_iff.mp final
    right
    rw [List.dropLast_concat, encoded]
  · exact .inl rfl

section Observation

variable {Observed : Type} (observe : Bytes → Observed)

theorem observe_dropFinal {byte : UInt8} {mark : String}
    (encoded : Text.encode mark = [byte])
    (blind : ∀ bytes, observe (bytes ++ Text.encode mark) = observe bytes)
    (bytes : Bytes) : observe (dropFinal byte bytes) = observe bytes := by
  rcases eq_dropFinal_append bytes encoded with same | same
  · rw [← same]
  · have added := blind (dropFinal byte bytes)
    rw [← same] at added
    exact added.symm

/-- What takes no notice of newlines and carriage returns that follow takes
none of line endings. -/
theorem observe_content
    (blindToNewline : ∀ bytes,
      observe (bytes ++ Text.encode "\n") = observe bytes)
    (blindToReturn : ∀ bytes,
      observe (bytes ++ Text.encode "\r") = observe bytes)
    (line : Bytes) : observe (content line) = observe line := by
  rw [content, observe_dropFinal observe encode_carriageReturn blindToReturn,
    observe_dropFinal observe encode_newline blindToNewline]

end Observation

end Input

namespace Shell

open Input

section Endings

variable (shell : Shell) (notWhite : Text.isWhiteSpace shell.sigil = false)

include notWhite

theorem map_read_append_blank (bytes : Bytes) {gap : String}
    (blank : Blank gap.toList) :
    (Text.decode? (bytes ++ Text.encode gap)).map shell.read =
      (Text.decode? bytes).map shell.read := by
  rw [Text.decode?_append_encode, Option.map_map]
  congr 1
  funext text
  exact ofLine_append_blank notWhite shell.table text blank

/-- Line endings are white space, which says nothing. -/
theorem statement?_eq (line : Bytes) :
    shell.statement? line = (Text.decode? line).map shell.read := by
  unfold statement? textOf?
  rw [← content_eq_without]
  exact observe_content (fun bytes => (Text.decode? bytes).map shell.read)
    (fun bytes => shell.map_read_append_blank notWhite bytes blank_newline)
    (fun bytes =>
      shell.map_read_append_blank notWhite bytes blank_carriageReturn) line

theorem statement?_append_blank (line : Bytes) {gap : String}
    (blank : Blank gap.toList) :
    shell.statement? (line ++ Text.encode gap) = shell.statement? line := by
  rw [shell.statement?_eq notWhite, shell.statement?_eq notWhite,
    shell.map_read_append_blank notWhite line blank]

theorem statement?_concat_newline (line : Bytes) :
    shell.statement? (line ++ [newline]) = shell.statement? line := by
  rw [← encode_newline, shell.statement?_append_blank notWhite _ blank_newline]

theorem map_statement?_padded {bytes padded : Bytes}
    (padding : Padded bytes padded) :
    (cutLines padded).map shell.statement? =
      (cutLines bytes).map shell.statement? := by
  induction padding with
  | nil => rfl
  | @unfinished bytes gap absent nonempty within =>
      rw [cutLines_unfinished absent, cutLines_unfinished (within.absent absent),
        if_neg nonempty, if_neg (by simp [nonempty]), List.map_singleton,
        List.map_singleton,
        shell.statement?_append_blank notWhite bytes within.blank]
  | @line before rest padded gap absent within _ ih =>
      rw [cutLines_line absent, cutLines_line (within.absent absent),
        List.map_cons, List.map_cons, ih,
        shell.statement?_concat_newline notWhite,
        shell.statement?_concat_newline notWhite,
        shell.statement?_append_blank notWhite before within.blank]

theorem deeds_padded {bytes padded : Bytes}
    (padding : Padded bytes padded) :
    (shell.run padded).deeds = (shell.run bytes).deeds := by
  rw [deeds_run, deeds_run, shell.map_statement?_padded notWhite padding]

end Endings

/-- White space at the end of argument text, of a line of text or of any line
of an input makes no difference. -/
theorem trailing_whiteSpace (shell : Shell)
    (usable : Settings.checkSigil shell.sigil = .ok ()) :
    (∀ text gap : String, Blank gap.toList →
      Argument.tokenize (text ++ gap) = Argument.tokenize text) ∧
      (∀ line gap : String, Blank gap.toList →
        shell.read (line ++ gap) = shell.read line) ∧
      ∀ bytes padded : Bytes, Padded bytes padded →
        (shell.run padded).ending = (shell.run bytes).ending ∧
          (shell.run padded).output = (shell.run bytes).output ∧
          (shell.run padded).flushes = (shell.run bytes).flushes ∧
          (shell.run padded).calls = (shell.run bytes).calls := by
  have notWhite := notWhite_of_checkSigil usable
  refine ⟨fun text gap => Argument.tokenize_append_blank text,
    fun line gap => ofLine_append_blank notWhite shell.table line, ?_⟩
  intro bytes padded padding
  have deeds := shell.deeds_padded notWhite padding
  refine ⟨?_, ?_, ?_, ?_⟩
  · rw [← Transcript.ending_deeds, deeds, Transcript.ending_deeds]
  · rw [← Transcript.output_deeds, deeds, Transcript.output_deeds]
  · rw [← Transcript.flushes_deeds, deeds, Transcript.flushes_deeds]
  · rw [← Transcript.calls_deeds, deeds, Transcript.calls_deeds]

/-- A line feed becomes a carriage return and a line feed, those two become
three, and white space follows half a character. -/
theorem trailing_whiteSpace_mixedEndings :
    let shell := ofTable Command.Table.empty.installDemo.table
    let bytes := Text.encode "!echo \"a\n!add 1 2\r\n" ++ [0xC2]
    let padded := Text.encode "!echo \"a\r\n!add 1 2\r\r\n" ++
      [0xC2] ++ Text.encode " \u2003"
    Settings.checkSigil shell.sigil = .ok () ∧ Padded bytes padded ∧
      (shell.run padded).ending = (shell.run bytes).ending ∧
      (shell.run padded).output = (shell.run bytes).output ∧
      (shell.run padded).flushes = (shell.run bytes).flushes ∧
      (shell.run padded).calls = (shell.run bytes).calls := by
  intro shell bytes padded
  have usable : Settings.checkSigil shell.sigil = .ok () := rfl
  have returnGap : Gap "\r" := ⟨blank_carriageReturn, by decide⟩
  have spaceGap : Gap " \u2003" :=
    ⟨List.all_eq_true.mp (by decide), by decide⟩
  have padding : Padded bytes padded := by
    refine @Padded.line (Text.encode "!echo \"a") _ _ "\r" ?_ returnGap ?_
    · decide +kernel
    · refine @Padded.line (Text.encode "!add 1 2\r") _ _ "\r" ?_ returnGap ?_
      · decide +kernel
      · exact .unfinished (by decide) (by decide) spaceGap
  exact ⟨usable, padding,
    (shell.trailing_whiteSpace usable).2.2 bytes padded padding⟩

end Shell

end LineShell
