import Mathlib.Data.List.Forall2
import LineShell.Proofs.Input.Footprint
import LineShell.Proofs.Input.Padding

/-!
# Renaming the sigil

The sigil says which lines are calls, and nothing else depends on it: the
statement of a call is read from what follows the sigil, and the commands that
come with the shell do not look at it.  `RenamedLine` says which lines correspond
to each other when the sigil is changed.  Sessions over corresponding lines are
the same, apart from the bytes that they read (`run_renamed`).
-/

namespace LineShell

open Command (Builtin Table)
open Text (Bytes)

namespace Event

/-- An event without the length of a line that is not text. -/
def withoutLength : Event → Event
  | .undecodable _ => .undecodable 0
  | event => event

end Event

namespace Input

/-- What two lines say in front of their endings if they correspond to each
other under different sigils. -/
inductive Renamed (sigil other : Char) : Bytes → Bytes → Prop where
  | call (body : String) :
      Renamed sigil other (Text.encode (String.singleton sigil ++ body))
        (Text.encode (String.singleton other ++ body))
  | foreign {first second : String} :
      (¬∃ rest, first = String.singleton sigil ++ rest) →
      (¬∃ rest, second = String.singleton other ++ rest) →
      Renamed sigil other (Text.encode first) (Text.encode second)
  | undecodable {first second : Bytes} :
      Text.isText first = false →
      Text.isText second = false →
      Renamed sigil other first second

/-- Lines that correspond to each other and end alike.  The last line of an
input may have no ending. -/
inductive RenamedLine (sigil other : Char) : Bytes → Bytes → Prop where
  | ended {first second : Bytes} {ending : String} :
      ending ∈ ["", "\n", "\r\n"] →
      Renamed sigil other first second →
      RenamedLine sigil other (first ++ Text.encode ending)
        (second ++ Text.encode ending)

namespace Action

/-- An action without the bytes that were read and without their number. -/
def withoutBytes? : Action → Option Action
  | .read _ => none
  | .log event => some (.log event.withoutLength)
  | .call name arguments => some (.call name arguments)
  | .write bytes => some (.write bytes)
  | .flush => some .flush

end Action

namespace Transcript

/-- A session without the bytes that it reads and without their number. -/
def withoutBytes (transcript : Transcript) : Transcript :=
  ⟨transcript.actions.filterMap Action.withoutBytes?, transcript.ending⟩

variable (transcript : Transcript)

theorem withoutBytes_after (actions : List Action) :
    (transcript.after actions).withoutBytes =
      transcript.withoutBytes.after
        (actions.filterMap Action.withoutBytes?) := by
  simp [withoutBytes, after]

theorem deeds_withoutBytes :
    transcript.withoutBytes.deeds = transcript.deeds := by
  unfold deeds withoutBytes
  congr 1
  induction transcript.actions with
  | nil => rfl
  | cons action actions ih =>
      rw [List.filter_cons, ← ih, List.filterMap_cons]
      cases action <;> rfl

theorem events_withoutBytes :
    transcript.withoutBytes.events =
      transcript.events.map Event.withoutLength := by
  unfold events withoutBytes
  rw [List.filterMap_filterMap, List.map_filterMap]
  congr 1
  funext action
  cases action <;> rfl

end Transcript

theorem blank_of_ending {ending : String}
    (inside : ending ∈ ["", "\n", "\r\n"]) :
    Argument.Blank ending.toList := by
  have white : ∀ ending ∈ ["", "\n", "\r\n"],
      ending.toList.all Text.isWhiteSpace = true := by
    decide
  exact List.all_eq_true.mp (white ending inside)

end Input

namespace Statement

theorem ofLine_singleton_append (table : Table) (sigil : Char)
    (body : String) :
    ofLine table sigil (String.singleton sigil ++ body) =
      ofCallText table body.toList := by
  simp [ofLine]

end Statement

namespace Shell

open Input

/-- The shell with another sigil. -/
def withSigil (shell : Shell) (sigil : Char) : Shell :=
  ⟨shell.table, sigil, shell.policy⟩

variable {shell : Shell} {other : Char}

section Statements

variable (usable : Settings.checkSigil shell.sigil = .ok ())
  (otherUsable : Settings.checkSigil other = .ok ())

include usable otherUsable

theorem statement?_renamed {first second : Bytes}
    (renamed : Renamed shell.sigil other first second) :
    (shell.withSigil other).statement? second = shell.statement? first := by
  have notWhite := notWhite_of_checkSigil usable
  have otherNotWhite := notWhite_of_checkSigil otherUsable
  rw [shell.statement?_eq notWhite,
    (shell.withSigil other).statement?_eq otherNotWhite]
  cases renamed with
  | call body =>
      rw [Text.decode?_encode, Text.decode?_encode, Option.map_some,
        Option.map_some]
      apply congrArg some
      exact (Statement.ofLine_singleton_append _ _ body).trans
        (Statement.ofLine_singleton_append _ _ body).symm
  | foreign firstForeign secondForeign =>
      rw [Text.decode?_encode, Text.decode?_encode, Option.map_some,
        Option.map_some]
      apply congrArg some
      exact (ofLine_of_not_startsWithSigil secondForeign shell.table).trans
        (ofLine_of_not_startsWithSigil firstForeign shell.table).symm
  | undecodable firstIllegible secondIllegible =>
      rw [Text.isText_eq_false_iff] at firstIllegible secondIllegible
      rw [firstIllegible, secondIllegible]
      rfl

/-- Corresponding lines make the same statement.  Line endings are white space,
which a sigil is not. -/
theorem statement?_renamedLine {line otherLine : Bytes}
    (renamed : RenamedLine shell.sigil other line otherLine) :
    (shell.withSigil other).statement? otherLine = shell.statement? line := by
  obtain ⟨inside, renamed⟩ := renamed
  have blank := blank_of_ending inside
  rw [(shell.withSigil other).statement?_append_blank
      (notWhite_of_checkSigil otherUsable) _ blank,
    shell.statement?_append_blank (notWhite_of_checkSigil usable) _ blank]
  exact statement?_renamed usable otherUsable renamed

end Statements

section Responses

variable (own : shell.table.Own)

include own

theorem execute_withSigil (line : String) :
    (shell.read line).execute (shell.withSigil other).context =
      (shell.read line).execute shell.context := by
  cases read : shell.read line with
  | rejected rejection => rfl
  | call name handler arguments =>
      obtain ⟨text, entry, -, found, -, -, rfl⟩ := ofLine_eq_call_iff.mp read
      obtain ⟨command, same⟩ := own name entry found
      rw [Statement.execute, Statement.execute, same]
      exact Command.Builtin.run_congr other shell.sigil fun _ _ => rfl

/-- Lines that make the same statement lead to the same actions, apart from
their bytes. -/
theorem respond_of_statement?_eq {line otherLine : Bytes}
    (same : (shell.withSigil other).statement? otherLine =
      shell.statement? line) :
    ((shell.withSigil other).respond otherLine).actions.filterMap
          Action.withoutBytes? =
        (shell.respond line).actions.filterMap Action.withoutBytes? ∧
      ((shell.withSigil other).respond otherLine).stop =
        (shell.respond line).stop := by
  unfold statement? at same
  cases decoded : textOf? line with
  | none =>
      rw [decoded, Option.map_none, Option.map_eq_none_iff] at same
      rw [respond_of_undecodable decoded, respond_of_undecodable same]
      exact ⟨rfl, rfl⟩
  | some text =>
      rw [decoded, Option.map_some, Option.map_eq_some_iff] at same
      obtain ⟨otherText, otherDecoded, sameRead⟩ := same
      rw [respond_of_text decoded, respond_of_text otherDecoded,
        respondToText, respondToText, sameRead, execute_withSigil own]
      exact ⟨rfl, rfl⟩

theorem withoutBytes_answerLines {lines otherLines : List Bytes}
    (same : List.Forall₂ (fun line otherLine =>
      (shell.withSigil other).statement? otherLine = shell.statement? line)
      lines otherLines) :
    ((shell.withSigil other).answerLines reliable none ()
        otherLines).withoutBytes =
      (shell.answerLines reliable none () lines).withoutBytes := by
  induction same with
  | nil => rfl
  | cons first _ ih =>
      obtain ⟨actions, stop⟩ := respond_of_statement?_eq own first
      rw [answerLines_cons, answerLines_cons, ← respond_stop, ← respond_stop,
        stop]
      split
      · exact congrArg (Transcript.mk · _) actions
      · rw [Transcript.withoutBytes_after, Transcript.withoutBytes_after, ih,
          actions]

end Responses

/-- A session does the same under any two usable sigils, if the lines of its
input are changed accordingly: calls start with the one sigil or the other,
lines that are no calls stay so, and lines that are not text stay so. -/
theorem run_renamed (own : shell.table.Own)
    (usable : Settings.checkSigil shell.sigil = .ok ())
    (otherUsable : Settings.checkSigil other = .ok ())
    {bytes otherBytes : Bytes}
    (renamed : List.Forall₂ (RenamedLine shell.sigil other) (linesOf bytes)
      (linesOf otherBytes)) :
    ((shell.withSigil other).run otherBytes).ending =
        (shell.run bytes).ending ∧
      ((shell.withSigil other).run otherBytes).output =
        (shell.run bytes).output ∧
      ((shell.withSigil other).run otherBytes).flushes =
        (shell.run bytes).flushes ∧
      ((shell.withSigil other).run otherBytes).calls =
        (shell.run bytes).calls ∧
      ((shell.withSigil other).run otherBytes).events.map
          Event.withoutLength =
        (shell.run bytes).events.map Event.withoutLength := by
  have statements := renamed.imp fun _ _ corresponding =>
    statement?_renamedLine usable otherUsable corresponding
  have same := withoutBytes_answerLines own statements
  rw [← cutLines_eq_linesOf, ← cutLines_eq_linesOf, ← run_eq_answerLines,
    ← run_eq_answerLines] at same
  have deeds := congrArg Transcript.deeds same
  rw [Transcript.deeds_withoutBytes, Transcript.deeds_withoutBytes] at deeds
  refine ⟨?_, ?_, ?_, ?_, ?_⟩
  · rw [← Transcript.ending_deeds, deeds, Transcript.ending_deeds]
  · rw [← Transcript.output_deeds, deeds, Transcript.output_deeds]
  · rw [← Transcript.flushes_deeds, deeds, Transcript.flushes_deeds]
  · rw [← Transcript.calls_deeds, deeds, Transcript.calls_deeds]
  · rw [← Transcript.events_withoutBytes, same,
      Transcript.events_withoutBytes]

theorem not_startsWithSigil_of_head? {sigil : Char} {line : String}
    (different : line.toList.head? ≠ some sigil) :
    ¬∃ rest, line = String.singleton sigil ++ rest := by
  rintro ⟨rest, rfl⟩
  simp at different

/-- The sigil becomes a letter of two bytes, in front of a call that starts
with the old one once more. -/
theorem run_renamed_letter :
    let shell := ofTable (Table.installed .all)
    let bytes := Text.encode "!!echo\n!echo \u00E9!\r\nhello\n" ++
      [0xC3, 0x28, newline] ++ Text.encode "!add 1 \"2"
    let otherBytes :=
      Text.encode "\u00E9!echo\n\u00E9echo \u00E9!\r\n!quit\n" ++
        [0xFF, newline] ++ Text.encode "\u00E9add 1 \"2"
    shell.table.Own ∧ Settings.checkSigil shell.sigil = .ok () ∧
      Settings.checkSigil '\u00E9' = .ok () ∧
      List.Forall₂ (RenamedLine shell.sigil '\u00E9') (linesOf bytes)
        (linesOf otherBytes) ∧
      ((shell.withSigil '\u00E9').run otherBytes).output =
        (shell.run bytes).output ∧
      ((shell.withSigil '\u00E9').run otherBytes).events.map
          Event.withoutLength =
        (shell.run bytes).events.map Event.withoutLength := by
  intro shell bytes otherBytes
  have own : shell.table.Own := by
    simp only [shell, table_ofTable]
    exact Command.own_installed .all
  have usable : Settings.checkSigil shell.sigil = .ok () := rfl
  have otherUsable : Settings.checkSigil '\u00E9' = .ok () := rfl
  have lines : linesOf bytes =
      [Text.encode (String.singleton '!' ++ "!echo") ++ Text.encode "\n",
        Text.encode (String.singleton '!' ++ "echo \u00E9!") ++
          Text.encode "\r\n",
        Text.encode "hello" ++ Text.encode "\n",
        [0xC3, 0x28] ++ Text.encode "\n",
        Text.encode (String.singleton '!' ++ "add 1 \"2") ++
          Text.encode ""] := by
    decide +kernel
  have otherLines : linesOf otherBytes =
      [Text.encode (String.singleton '\u00E9' ++ "!echo") ++
          Text.encode "\n",
        Text.encode (String.singleton '\u00E9' ++ "echo \u00E9!") ++
          Text.encode "\r\n",
        Text.encode "!quit" ++ Text.encode "\n",
        [0xFF] ++ Text.encode "\n",
        Text.encode (String.singleton '\u00E9' ++ "add 1 \"2") ++
          Text.encode ""] := by
    decide +kernel
  have foreign := @not_startsWithSigil_of_head? '!' "hello" (by decide)
  have otherForeign :=
    @not_startsWithSigil_of_head? '\u00E9' "!quit" (by decide)
  have renamed : List.Forall₂ (RenamedLine shell.sigil '\u00E9')
      (linesOf bytes) (linesOf otherBytes) := by
    rw [lines, otherLines]
    refine .cons (.ended (by simp) (.call _)) ?_
    refine .cons (.ended (by simp) (.call _)) ?_
    refine .cons (.ended (by simp) (.foreign foreign otherForeign)) ?_
    refine .cons (.ended (by simp) (.undecodable ?_ ?_)) ?_
    · decide +kernel
    · decide +kernel
    exact .cons (.ended (by simp) (.call _)) .nil
  obtain ⟨-, output, -, -, events⟩ :=
    run_renamed own usable otherUsable renamed
  exact ⟨own, usable, otherUsable, renamed, output, events⟩

end Shell

end LineShell
