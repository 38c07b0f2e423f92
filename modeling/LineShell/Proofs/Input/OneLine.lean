import LineShell.Proofs.Command.Installed
import LineShell.Proofs.Command.Sums
import LineShell.Proofs.Input.Padding

/-!
# Texts of one line

A line of input gives arguments without newlines, and no command breaks a line:
from such arguments the commands that come with the shell make texts and
failures without newlines.  The only texts with a newline that they hold are the
descriptions of commands, which help shows and nothing else does
(`Builtin.oneLine_of_run`).
-/

namespace LineShell

namespace Text

/-- A text without a newline. -/
def OneLine (text : String) : Prop :=
  '\n' ∉ text.toList

instance (text : String) : Decidable (OneLine text) :=
  inferInstanceAs (Decidable ('\n' ∉ text.toList))

@[simp]
theorem oneLine_append {left right : String} :
    OneLine (left ++ right) ↔ OneLine left ∧ OneLine right := by
  simp [OneLine]

theorem oneLine_intercalate {delimiter : String} {texts : List String}
    (delimiting : OneLine delimiter)
    (each : ∀ text ∈ texts, OneLine text) :
    OneLine (delimiter.intercalate texts) := by
  induction texts with
  | nil => simp [OneLine]
  | cons text texts ih =>
      have first := each text List.mem_cons_self
      have others := ih fun other member =>
        each other (List.mem_cons_of_mem _ member)
      cases texts with
      | nil => simpa using first
      | cons next later =>
          rw [String.intercalate_cons_cons]
          simp only [oneLine_append]
          exact ⟨⟨first, delimiting⟩, others⟩

end Text

open Text (Bytes OneLine)

theorem Shell.oneLine_of_textOf? {bytes line : Bytes} {text : String}
    (member : line ∈ Input.linesOf bytes)
    (decoded : textOf? line = some text) : OneLine text := by
  rw [← Input.cutLines_eq_linesOf] at member
  have absent := Input.newline_not_mem_content member
  rw [textOf?, ← Input.content_eq_without] at decoded
  rw [Text.decode?_eq_some_iff.mp decoded,
    Input.newline_mem_encode_iff] at absent
  exact absent

theorem Calls.oneLine {sigil : Char} {line name : String}
    {arguments : List String} (calls : Calls sigil line name arguments)
    (oneLine : OneLine line) : ∀ argument ∈ arguments, OneLine argument := by
  obtain ⟨text, composed, split⟩ := calls
  intro argument inside found
  apply oneLine
  rw [composed.whole]
  simp [Argument.value_subset_of_tokenize split argument inside found]

theorem Signed64.oneLine_literal (number : Int) : OneLine (literal number) := by
  have digits : '\n' ∉ Nat.toDigits 10 number.natAbs := by
    intro member
    have digit := Nat.isDigit_of_mem_toDigits (by decide) (by decide) member
    exact absurd digit (by decide)
  unfold OneLine literal
  split
  · simpa using digits
  · simpa using digits

namespace Command

/-- The text that a command holds itself. -/
def Builtin.ownText : Builtin → String
  | .joinWith delimiter => delimiter
  | .help ownName => ownName
  | .join | .add | .leave => ""

section Running

variable {command : Builtin} {context : Context} {arguments : List String}

theorem Builtin.run_ne_silent : command.run context arguments ≠ .ok .silent := by
  cases command with
  | joinWith | help | leave => simp [run]
  | join => cases arguments <;> simp [run]
  | add => cases sum : addArguments 0 arguments <;> simp [run, sum, Except.map]

variable (each : ∀ argument ∈ arguments, OneLine argument)

include each

theorem oneLine_headD {otherwise : String} (other : OneLine otherwise) :
    OneLine (arguments.headD otherwise) := by
  cases arguments with
  | nil => exact other
  | cons argument rest => exact each argument List.mem_cons_self

/-- Nothing but the description of a command brings a newline into a text. -/
theorem Builtin.oneLine_of_run {message : String}
    (own : OneLine command.ownText)
    (undescribed : ∀ ownName, command = .help ownName →
      context.catalogue.lookup (arguments.headD ownName) = none)
    (ran : command.run context arguments = .ok (.text message)) :
    OneLine message := by
  cases command with
  | joinWith delimiter =>
      cases ran
      exact Text.oneLine_intercalate own each
  | join =>
      cases arguments with
      | nil => cases ran
      | cons delimiter rest =>
          cases ran
          have delimiting := each delimiter List.mem_cons_self
          apply Text.oneLine_intercalate delimiting
          intro argument member
          exact each argument (List.mem_cons_of_mem _ member)
  | add =>
      cases sum : addArguments 0 arguments with
      | error failure => simp [run, sum, Except.map] at ran
      | ok number =>
          have spelled : Signed64.literal number = message := by
            simpa [run, sum, Except.map] using ran
          rw [← spelled]
          exact Signed64.oneLine_literal number
  | help ownName =>
      cases ran
      have name := oneLine_headD each own
      simp only [helpText, undescribed ownName rfl, Text.oneLine_append]
      exact ⟨⟨by decide, name⟩, by decide⟩
  | leave => cases ran

theorem SumFault.oneLine {start : Int} {position : Nat} {failure : Failure}
    (fault : SumFault start arguments position failure) :
    OneLine failure.message := by
  cases fault with
  | notAnInteger found =>
      have argument := each _ (List.mem_of_getElem? found)
      simp only [Failure.command, Text.oneLine_append]
      exact ⟨⟨by decide, argument⟩, by decide⟩
  | overflow => decide

theorem Builtin.oneLine_of_failure {failure : Failure}
    (failed : command.run context arguments = .error failure) :
    OneLine failure.message := by
  rcases Builtin.run_eq_error_iff.mp failed with
    ⟨-, -, rfl⟩ | ⟨-, sum⟩
  · decide
  · obtain ⟨position, first⟩ := addArguments_eq_error_iff.mp sum
    exact first.fault.oneLine each

end Running

theorem oneLine_ownText {switches : BuiltinSwitches} {item : Installable}
    (member : item ∈ shipped switches) : OneLine item.command.ownText := by
  have each : ∀ item ∈ shipped .all, OneLine item.command.ownText := by decide
  exact each item (mem_shipped_all member)

theorem eq_help_of_shipped {switches : BuiltinSwitches} {item : Installable}
    {ownName : String} (member : item ∈ shipped switches)
    (help : item.command = .help ownName) :
    item = .help ∧ switches.help = true ∧ ownName = "help" := by
  rcases mem_shipped_iff.mp member with builtin | demo
  · rcases mem_commands_iff.mp builtin with ⟨on, rfl⟩ | ⟨-, rfl⟩ | ⟨-, rfl⟩
    · cases help
      exact ⟨rfl, on, rfl⟩
    · cases help
    · cases help
  · have others : ∀ item ∈ demoCommands, ∀ name : String,
        item.command ≠ .help name := by
      simp [demoCommands, Installable.echo, Installable.concat,
        Installable.join, Installable.add]
    exact absurd help (others item demo ownName)

end Command

end LineShell
