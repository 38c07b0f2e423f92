import LineShell.Command.Installation
import LineShell.Proofs.Input.Interruption
import LineShell.Proofs.Input.Padding
import LineShell.Proofs.Text.WellFormed

/-!
# Lines that are not text

Bytes are cut into lines before they are decoded.  No newline lies within a
character, so a text is cut into the lines of that text, and an input is text
exactly if each of its lines is.  A line that is not text is answered and
otherwise leaves no trace: the session is that over the other lines
(`run_undecodable`).
-/

namespace LineShell

open Text (Bytes)

/-- Whether an event reports a line that is not text. -/
def Event.isUndecodable : Event → Bool
  | .undecodable _ => true
  | _ => false

namespace Input

/-- An action that neither reads nor reports a line that is not text. -/
def Action.OfText (action : Action) : Prop :=
  action.line? = none ∧
    ∀ event ∈ action.event?, event.isUndecodable = false

theorem Action.ofText_of_isOfStatement {action : Action}
    (ofStatement : action.isOfStatement = true) : action.OfText := by
  cases action with
  | read | write | flush => cases ofStatement
  | call name arguments => exact ⟨rfl, nofun⟩
  | log event =>
      refine ⟨rfl, ?_⟩
      rintro _ ⟨⟩
      cases event <;> first | rfl | cases ofStatement

namespace Transcript

/-- A session without the bytes that it reads. -/
def withoutReads (transcript : Transcript) : Transcript :=
  ⟨transcript.actions.filter fun action => action.line?.isNone,
    transcript.ending⟩

/-- How many lines a session reports that are not text. -/
def skips (transcript : Transcript) : Nat :=
  transcript.events.countP Event.isUndecodable

end Transcript

/-- A line of text without one carriage return at its end. -/
def withoutReturn (text : String) : String :=
  if text.toList.getLast? = some '\r' then String.ofList text.toList.dropLast
  else text

/-- The lines of a text, without their endings. -/
def textLines (text : String) : List String :=
  let parts := text.toList.splitOn '\n'
  (parts.dropLast ++ parts.getLast?.toList.filter (· ≠ [])).map fun part =>
    withoutReturn (String.ofList part)

/-- An input without the lines that are not text. -/
def legible (bytes : Bytes) : Bytes :=
  ((cutLines bytes).filter Text.isText).flatten

theorem dropFinal_encode (text : String) :
    dropFinal carriageReturn (Text.encode text) =
      Text.encode (withoutReturn text) := by
  unfold dropFinal withoutReturn
  by_cases final : text.toList.getLast? = some '\r'
  · obtain ⟨before, characters⟩ := List.getLast?_eq_some_iff.mp final
    have whole : text = String.ofList before ++ "\r" := by
      rw [← String.toList_inj, characters]
      simp
    rw [if_pos final, whole, Text.encode_append, encode_carriageReturn]
    simp
  · have kept : (Text.encode text).getLast? ≠ some carriageReturn := by
      intro last
      obtain ⟨before, bytes⟩ := List.getLast?_eq_some_iff.mp last
      have single : String.utf8EncodeChar '\r' ++ [] = [carriageReturn] := rfl
      rw [← single] at bytes
      obtain ⟨first, after, rfl, -, nothing⟩ :=
        Text.encode_eq_append_char bytes
      rw [Text.encode_eq_nil_iff] at nothing
      subst nothing
      simp at final
    rw [if_neg final, if_neg kept]

theorem textLines_unfinished {text : String} (absent : '\n' ∉ text.toList) :
    textLines text = if text = "" then [] else [withoutReturn text] := by
  unfold textLines
  rw [List.splitOn_eq_singleton absent]
  by_cases empty : text = ""
  · simp [empty]
  · simp [empty]

theorem textLines_line {before : String} (absent : '\n' ∉ before.toList)
    (rest : String) :
    textLines (before ++ "\n" ++ rest) =
      withoutReturn before :: textLines rest := by
  have characters : (before ++ "\n" ++ rest).toList =
      before.toList ++ '\n' :: rest.toList := by
    simp
  obtain ⟨part, parts, split⟩ :=
    List.exists_cons_of_ne_nil (rest.toList.splitOn_ne_nil '\n')
  unfold textLines
  rw [characters, List.splitOn_append_cons_self,
    List.splitOn_eq_singleton absent, split]
  simp

theorem isText_content (line : Bytes) :
    Text.isText (content line) = Text.isText line :=
  observe_content Text.isText (Text.isText_append_encode · "\n")
    (Text.isText_append_encode · "\r") line

theorem isText_newline (before rest : Bytes) :
    Text.isText (before ++ newline :: rest) =
      (Text.isText before && Text.isText rest) := by
  rw [Bool.eq_iff_iff, Bool.and_eq_true, Text.isText_iff, Text.isText_iff,
    Text.isText_iff]
  constructor
  · rintro ⟨text, encoded⟩
    have whole : Text.encode text =
        before ++ (String.utf8EncodeChar '\n' ++ rest) := encoded.symm
    obtain ⟨first, later, -, rfl, rfl⟩ := Text.encode_eq_append_char whole
    exact ⟨⟨first, rfl⟩, ⟨later, rfl⟩⟩
  · rintro ⟨⟨first, rfl⟩, ⟨later, rfl⟩⟩
    refine ⟨first ++ "\n" ++ later, ?_⟩
    rw [Text.encode_append, Text.encode_append, encode_newline,
      List.append_assoc]
    rfl

/-- Bytes are text exactly if each of their lines is. -/
theorem isText_eq_all (bytes : Bytes) :
    Text.isText bytes = (cutLines bytes).all Text.isText := by
  induction bytes using byLine with
  | unfinished bytes absent =>
      rw [cutLines_unfinished absent]
      split
      · rename_i empty
        rw [empty]
        exact Text.isText_encode ""
      · simp
  | line before rest absent ih =>
      have nothing : Text.isText [] = true := Text.isText_encode ""
      rw [cutLines_line absent, List.all_cons, isText_newline, isText_newline,
        nothing, Bool.and_true, ih]

theorem cutLines_legible (bytes : Bytes) :
    cutLines (legible bytes) = (cutLines bytes).filter Text.isText := by
  unfold legible
  induction bytes using byLine with
  | unfinished bytes absent =>
      rw [cutLines_unfinished absent]
      by_cases empty : bytes = []
      · rw [if_pos empty]
        rfl
      · rw [if_neg empty, List.filter_singleton]
        cases Text.isText bytes with
        | false => rfl
        | true =>
            rw [Bool.cond_true, List.flatten_singleton,
              cutLines_unfinished absent, if_neg empty]
  | line before rest absent ih =>
      rw [cutLines_line absent, List.filter_cons]
      split
      · rw [List.flatten_cons, List.append_assoc, List.singleton_append,
          cutLines_line absent, ih]
      · exact ih

end Input

namespace Shell

open Input

theorem textOf?_line (before : String) :
    textOf? (Text.encode before ++ [newline]) =
      some (withoutReturn before) := by
  have dropped : dropFinal newline (Text.encode before ++ [newline]) =
      Text.encode before := by
    simp [dropFinal]
  unfold textOf?
  rw [← content_eq_without, content, dropped, dropFinal_encode,
    Text.decode?_encode]

theorem textOf?_unfinished {text : String} (absent : '\n' ∉ text.toList) :
    textOf? (Text.encode text) = some (withoutReturn text) := by
  have kept : dropFinal newline (Text.encode text) = Text.encode text := by
    unfold dropFinal
    rw [if_neg]
    intro last
    exact absent (newline_mem_encode_iff.mp (List.mem_of_getLast? last))
  unfold textOf?
  rw [← content_eq_without, content, kept, dropFinal_encode,
    Text.decode?_encode]

theorem map_textOf?_encode (text : String) :
    (cutLines (Text.encode text)).map textOf? = (textLines text).map some := by
  generalize encoded : Text.encode text = bytes
  induction bytes using byLine generalizing text with
  | unfinished bytes absent =>
      subst encoded
      have unbroken := newline_mem_encode_iff.not.mp absent
      rw [cutLines_unfinished absent, textLines_unfinished unbroken]
      by_cases empty : text = ""
      · subst empty
        rfl
      · rw [if_neg empty, if_neg (Text.encode_eq_nil_iff.not.mpr empty),
          List.map_singleton, textOf?_unfinished unbroken]
        rfl
  | line before rest absent ih =>
      have whole : Text.encode text =
          before ++ (String.utf8EncodeChar '\n' ++ rest) := encoded
      obtain ⟨first, later, rfl, rfl, rfl⟩ := Text.encode_eq_append_char whole
      have unbroken := newline_mem_encode_iff.not.mp absent
      have split : String.singleton '\n' = "\n" := rfl
      rw [split, cutLines_line absent, textLines_line unbroken, List.map_cons,
        List.map_cons, textOf?_line, ih later rfl]

theorem textOf?_eq_none_iff {line : Bytes} :
    textOf? line = none ↔ Text.isText line = false := by
  unfold textOf?
  rw [← content_eq_without, ← Text.isText_eq_false_iff, isText_content]

variable (shell : Shell)

section Texts

theorem ofText_settle (result : Except Failure Command.Reply) :
    ∀ action ∈ (shell.settle result).actions, action.OfText := by
  unfold Action.OfText
  cases result with
  | ok reply =>
      cases reply <;>
        simp [settle, answer, Action.line?, Action.event?,
          Event.isUndecodable]
  | error failure =>
      unfold settle
      cases shell.policy <;>
        simp [answer, Action.line?, Action.event?, Event.isUndecodable]

theorem ofText_respondToText (text : String) :
    ∀ action ∈ (shell.respondToText text).actions, action.OfText := by
  intro action member
  rcases List.mem_append.mp member with reading | settled
  · exact Action.ofText_of_isOfStatement
      (Statement.isOfStatement_actions _ action reading)
  · exact shell.ofText_settle _ action settled

theorem filter_line?_respondToText (line : Bytes) (text : String) :
    ((Action.read line :: (shell.respondToText text).actions).filter
        fun action => action.line?.isNone) =
      (shell.respondToText text).actions := by
  rw [List.filter_cons_of_neg (by simp [Action.line?]), List.filter_eq_self]
  intro action member
  rw [(shell.ofText_respondToText text action member).1]
  rfl

/-- A session over lines of text. -/
def answerTexts : List String → Transcript
  | [] => ⟨closing, .ok .endOfInput⟩
  | text :: rest =>
      match (shell.respondToText text).stop with
      | some ending => ⟨(shell.respondToText text).actions, ending⟩
      | none => (answerTexts rest).after (shell.respondToText text).actions

theorem withoutReads_answerLines {lines : List Bytes} {texts : List String}
    (decoded : lines.map textOf? = texts.map some) :
    (shell.answerLines reliable none () lines).withoutReads =
      shell.answerTexts texts := by
  induction lines generalizing texts with
  | nil =>
      cases texts with
      | nil => rfl
      | cons text texts => cases decoded
  | cons line rest ih =>
      cases texts with
      | nil => cases decoded
      | cons text texts =>
          rw [List.map_cons, List.map_cons, List.cons.injEq] at decoded
          obtain ⟨first, later⟩ := decoded
          have response := @respond_of_text shell line text first
          have kept := shell.filter_line?_respondToText line text
          rw [answerLines_cons, ← respond_stop, response, answerTexts,
            ← ih later]
          cases (shell.respondToText text).stop with
          | some ending => exact congrArg (Transcript.mk · ending) kept
          | none =>
              simp only [Transcript.withoutReads, Transcript.after,
                List.filter_append, kept]

end Texts

theorem countP_isUndecodable_respond (line : Bytes) :
    ((shell.respond line).actions.filterMap Action.event?).countP
        Event.isUndecodable =
      if Text.isText line then 0 else 1 := by
  cases decoded : textOf? line with
  | none =>
      rw [respond_of_undecodable decoded, textOf?_eq_none_iff.mp decoded]
      rfl
  | some text =>
      have legible : Text.isText line = true := by
        rw [← Bool.not_eq_false, ← textOf?_eq_none_iff, decoded]
        nofun
      rw [respond_of_text decoded, if_pos legible, List.countP_eq_zero]
      intro event member
      obtain ⟨action, inside, reported⟩ := List.mem_filterMap.mp member
      rcases List.mem_cons.mp inside with rfl | inside
      · cases reported
      · rw [(shell.ofText_respondToText text action inside).2 event reported]
        nofun

/-- A session reports the lines it comes to that are not text. -/
theorem skips_run (bytes : Bytes) :
    (shell.run bytes).skips =
      (shell.processed (cutLines bytes)).countP fun line =>
        !Text.isText line := by
  have actions := shell.answerLines_actions (cutLines bytes)
  have closed : ((if (cutLines bytes).all shell.goesOn then closing
      else []).filterMap Action.event?).countP Event.isUndecodable = 0 := by
    split <;> rfl
  unfold Transcript.skips Transcript.events
  change (shell.run bytes).actions = _ at actions
  rw [actions, List.filterMap_append, List.countP_append, closed,
    Nat.add_zero]
  induction shell.processed (cutLines bytes) with
  | nil => rfl
  | cons line lines ih =>
      rw [List.flatMap_cons, List.filterMap_append, List.countP_append, ih,
        countP_isUndecodable_respond, List.countP_cons]
      cases Text.isText line <;> simp [Nat.add_comm]

theorem skips_run_eq_zero {bytes : Bytes} (text : Text.isText bytes = true) :
    (shell.run bytes).skips = 0 := by
  rw [isText_eq_all, List.all_eq_true] at text
  rw [skips_run, List.countP_eq_zero]
  intro line member
  have inside := (shell.processed_prefix (cutLines bytes)).subset member
  simp [text line inside]

/-- All lines of an input are looked at if it ends the session. -/
theorem skips_run_eq_zero_iff {bytes : Bytes}
    (ended : (shell.run bytes).ending = .ok .endOfInput) :
    (shell.run bytes).skips = 0 ↔ Text.isText bytes = true := by
  rw [run_ending, ← cutLines_eq_linesOf, ending_eq_endOfInput_iff,
    List.all_eq_true] at ended
  rw [skips_run, shell.processed_eq_self ended, List.countP_eq_zero,
    isText_eq_all, List.all_eq_true]
  simp

theorem goesOn_of_undecodable {line : Bytes}
    (undecodable : Text.isText line = false) : shell.goesOn line = true := by
  rw [goesOn_eq, respond_of_undecodable (textOf?_eq_none_iff.mpr undecodable)]
  rfl

theorem processed_filter (lines : List Bytes) :
    shell.processed (lines.filter Text.isText) =
      (shell.processed lines).filter Text.isText := by
  induction lines with
  | nil => rfl
  | cons line rest ih =>
      rw [processed_cons]
      cases decodable : Text.isText line with
      | true =>
          rw [List.filter_cons_of_pos decodable,
            List.filter_cons_of_pos decodable, processed_cons, ih]
          split <;> rfl
      | false =>
          have illegible : ¬Text.isText line = true := by simp [decodable]
          rw [List.filter_cons_of_neg illegible,
            List.filter_cons_of_neg illegible,
            if_pos (shell.goesOn_of_undecodable decodable), ih]

theorem ending_filter (lines : List Bytes) :
    shell.ending (lines.filter Text.isText) = shell.ending lines := by
  induction lines with
  | nil => rfl
  | cons line rest ih =>
      rw [ending_cons]
      cases decodable : Text.isText line with
      | true =>
          rw [List.filter_cons_of_pos decodable, ending_cons, ih]
      | false =>
          have goes := shell.goesOn_of_undecodable decodable
          rw [goesOn, Option.isNone_iff_eq_none] at goes
          rw [List.filter_cons_of_neg (by simp [decodable]), goes, ih]
          rfl

/-- What a line makes a session write. -/
def answerTo (line : Bytes) : Bytes :=
  (shell.respond line).actions.flatMap Action.written

theorem answerTo_of_undecodable {line : Bytes}
    (undecodable : Text.isText line = false) :
    shell.answerTo line = Text.encode "Error: invalid input\n" := by
  unfold answerTo
  rw [respond_of_undecodable (textOf?_eq_none_iff.mpr undecodable)]
  rfl

theorem output_eq_answerTo (bytes : Bytes) :
    (shell.run bytes).output =
      (shell.processed (cutLines bytes)).flatMap shell.answerTo := by
  rw [output_run, ← cutLines_eq_linesOf, flatten_answers]
  rfl

/-- A text is answered line by line as that text.  A session that comes to the
end of its input reports a line exactly if the input is not well-formed.  The
lines that are not text can be taken out of an input, which takes out their
answers. -/
theorem run_undecodable (shell : Shell) :
    (∀ text : String,
      (shell.run (Text.encode text)).skips = 0 ∧
      (shell.run (Text.encode text)).withoutReads =
        shell.answerTexts (textLines text)) ∧
    (∀ bytes : Bytes, (shell.run bytes).ending = .ok .endOfInput →
      ((shell.run bytes).skips = 0 ↔ Text.WellFormed bytes)) ∧
    (∀ bytes : Bytes,
      let processed := shell.processed (cutLines bytes)
      cutLines (legible bytes) = (cutLines bytes).filter Text.isText ∧
      (shell.run (legible bytes)).ending = (shell.run bytes).ending ∧
      (shell.run bytes).actions.filterMap Action.line? = processed ∧
      (shell.run (legible bytes)).actions.filterMap Action.line? =
        processed.filter Text.isText ∧
      (shell.run bytes).output = processed.flatMap shell.answerTo ∧
      (shell.run (legible bytes)).output =
        (processed.filter Text.isText).flatMap shell.answerTo) ∧
    (∀ line : Bytes,
      (Text.isText line = true ↔ Text.WellFormed line) ∧
      (Text.isText line = false →
        shell.answerTo line = Text.encode "Error: invalid input\n")) := by
  refine ⟨?_, ?_, ?_, ?_⟩
  · intro text
    exact ⟨shell.skips_run_eq_zero (Text.isText_encode text),
      shell.withoutReads_answerLines (map_textOf?_encode text)⟩
  · intro bytes ended
    rw [shell.skips_run_eq_zero_iff ended, Text.isText_iff_wellFormed]
  · intro bytes processed
    have cut := cutLines_legible bytes
    refine ⟨cut, ?_, shell.reads_run bytes, ?_, shell.output_eq_answerTo bytes, ?_⟩
    · rw [run_ending, run_ending, ← cutLines_eq_linesOf,
        ← cutLines_eq_linesOf, cut, ending_filter]
    · rw [reads_run, cut, processed_filter]
    · rw [output_eq_answerTo, cut, processed_filter]
  · intro line
    exact ⟨Text.isText_iff_wellFormed, shell.answerTo_of_undecodable⟩

/-- Half a character in front of a newline makes a line that is not text. -/
theorem run_undecodable_halfCharacter :
    let shell := ofTable Command.Table.empty.installDemo.table
    let half := [0xC3, newline]
    let bytes := half ++ Text.encode "!echo \u00E9\r\n"
    (shell.run bytes).ending = .ok .endOfInput ∧
      (shell.run bytes).skips ≠ 0 ∧ ¬Text.WellFormed bytes ∧
      legible bytes = Text.encode "!echo \u00E9\r\n" ∧
      (shell.run (legible bytes)).skips = 0 ∧
      Text.WellFormed (legible bytes) ∧
      Text.isText half = false ∧
      shell.answerTo half = Text.encode "Error: invalid input\n" := by
  intro shell half bytes
  have ended : (shell.run bytes).ending = .ok .endOfInput := by
    decide +kernel
  have skipped : (shell.run bytes).skips ≠ 0 := by decide +kernel
  have kept : legible bytes = Text.encode "!echo \u00E9\r\n" := by
    decide +kernel
  have endedToo : (shell.run (legible bytes)).ending = .ok .endOfInput := by
    decide +kernel
  have unskipped : (shell.run (legible bytes)).skips = 0 := by decide +kernel
  have undecodable : Text.isText half = false := by decide +kernel
  have counted := shell.run_undecodable.2.1
  exact ⟨ended, skipped, (counted bytes ended).not.mp skipped, kept,
    unskipped, (counted _ endedToo).mp unskipped, undecodable,
    (shell.run_undecodable.2.2.2 half).2 undecodable⟩

end Shell

end LineShell
