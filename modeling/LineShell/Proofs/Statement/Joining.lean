import LineShell.Proofs.Argument.Composition
import LineShell.Proofs.Argument.Writing
import LineShell.Proofs.Command.Accounting
import LineShell.Proofs.Statement.Language

/-!
# Lines that join texts

Three of the shell's own commands put their arguments together: two with a
delimiter of their own, and one with the first of its arguments.  An argument
in front of a text that starts with white space is read on its own, so that a
line of either kind can be written as a line of the other, whatever is made of
the rest of its text (`joining_lines`).
-/

namespace LineShell

open Argument (Blank Form Spells)
open Command (Builtin Context Entry Installable Operation Reply Table
  demoCommands)

/-- A text that may stand directly behind a name or an argument. -/
def Detached (text : String) : Prop :=
  text = "" ∨ ∃ first rest, text.toList = first :: rest ∧
    Text.isWhiteSpace first = true

theorem Detached.ends {text : String} (detached : Detached text) :
    Argument.Ends (Argument.pieces text.toList) := by
  rw [Argument.ends_pieces_iff]
  intro character first
  rcases detached with rfl | ⟨other, rest, whole, white⟩
  · cases first
  · rw [whole, List.head?_cons, Option.mem_some] at first
    exact first ▸ white

/-- The reply to a line that puts the arguments of a text together. -/
def joined (delimiter text : String) : Except Failure Reply :=
  match Argument.tokenize text with
  | .ok arguments => .ok (.text (delimiter.intercalate arguments))
  | .error _ => .ok (.text "Error: error parsing arguments")

namespace Command

/-- The name under which a program registers a command that is not one of the
shell's own. -/
def Operation.name? : Operation → Option String
  | .register name _ => some name
  | .registerDescribed name _ _ => some name
  | .installBuiltins _ => none
  | .installDemo => none

section Operations

variable {table : Table} {item : Installable} (member : item ∈ demoCommands)

include member

/-- An operation leaves a command that works on texts and numbers alone if it
does not register another one in its place. -/
theorem Table.find?_operate_of_spared {operation : Operation}
    (spared : operation.name? ≠ some item.name)
    (found : table.find? item.name = some item.entry) :
    (table.operate operation).table.find? item.name = some item.entry := by
  cases operation with
  | register name handler =>
      have different : item.name ≠ name := by
        rintro rfl
        exact spared rfl
      exact (table.find?_register_of_ne _ different).trans found
  | registerDescribed name handler descriptor =>
      have different : item.name ≠ name := by
        rintro rfl
        exact spared rfl
      exact (table.find?_register_of_ne _ different).trans found
  | installBuiltins switches =>
      have other := (table.installs_builtins switches).others item.name
      refine (other ?_).trans found
      intro builtin enabled
      exact (foreign_demo enabled member).symm
  | installDemo => exact table.installs_demo.entries item member

theorem Table.find?_operateAll_of_spared {operations : List Operation}
    (spared : ∀ operation ∈ operations, operation.name? ≠ some item.name)
    (found : table.find? item.name = some item.entry) :
    (table.operateAll operations).table.find? item.name =
      some item.entry := by
  induction operations generalizing table with
  | nil => exact found
  | cons operation rest ih =>
      rw [List.forall_mem_cons] at spared
      apply ih spared.2
      exact Table.find?_operate_of_spared member spared.1 found

end Operations

end Command

namespace Argument

section Delimiters

variable {delimiter spelling : String} {form : Form}

theorem tokenize_spelled {gap : String} (blank : Blank gap.toList)
    (spelled : Spells spelling.toList ⟨form, delimiter.toList⟩) :
    tokenize (gap ++ spelling) = .ok [delimiter] := by
  apply tokenize_eq_ok_iff_derives.mpr
  refine ⟨[⟨form, delimiter.toList⟩], ?_, by simp⟩
  have derived := DerivesTokens.arguments blank (.one spelled)
    (List.forall_mem_nil _)
  rwa [List.append_nil, ← String.toList_append] at derived

theorem exists_spelling_iff :
    (∃ form spelling, Spells (String.toList spelling)
        ⟨form, delimiter.toList⟩) ↔
      ∃ input arguments, tokenize input = .ok arguments ∧
        delimiter ∈ arguments := by
  constructor
  · rintro ⟨form, spelling, spelled⟩
    have blank : Blank (String.toList "") := List.forall_mem_nil _
    exact ⟨_, _, tokenize_spelled blank spelled, List.mem_cons_self⟩
  · rintro ⟨input, arguments, success, member⟩
    have expressible := expressible_of_tokenize success delimiter member
    obtain ⟨form, expressed⟩ := exists_expresses_iff.mpr expressible
    refine ⟨form, String.ofList (Token.written ⟨form, delimiter.toList⟩), ?_⟩
    rw [String.toList_ofList]
    exact spells_written expressed

end Delimiters

end Argument

namespace Shell

section Lines

variable {shell : Shell} {text : String} (detached : Detached text)

include detached

section Entries

variable {name : String} {entry : Entry}
  (found : shell.table.find? name = some entry)

include found

theorem composed_of_found :
    Composed shell.sigil (String.singleton shell.sigil ++ name ++ text) name
      text where
  whole := rfl
  unbroken := (Table.spellable_of_find? found).unbroken
  apart := detached

theorem executeLine_of_arguments {arguments : List String}
    (success : Argument.tokenize text = .ok arguments)
    (enough : entry.minArguments ≤ arguments.length) :
    shell.executeLine (String.singleton shell.sigil ++ name ++ text) =
      entry.handler shell.context arguments := by
  have called := ofLine_of_meaning
    (.call (composed_of_found detached found) found success enough)
  rw [executeLine, read, called]
  rfl

theorem executeLine_of_unreadable {error : Argument.TextError}
    (failure : Argument.tokenize text = .error error) :
    shell.executeLine (String.singleton shell.sigil ++ name ++ text) =
      .ok (.text "Error: error parsing arguments") := by
  have rejected := ofLine_of_meaning
    (.argumentsUnreadable (composed_of_found detached found) found failure)
  rw [executeLine, read, rejected]
  rfl

end Entries

theorem executeLine_joinWith {item : Installable} {delimiter : String}
    (joins : item.command = .joinWith delimiter)
    (free : item.entry.minArguments = 0)
    (found : shell.table.find? item.name = some item.entry) :
    shell.executeLine (String.singleton shell.sigil ++ item.name ++ text) =
      joined delimiter text := by
  rw [joined]
  cases cut : Argument.tokenize text with
  | error error => exact executeLine_of_unreadable detached found cut
  | ok arguments =>
      have enough : item.entry.minArguments ≤ arguments.length := by
        rw [free]
        exact Nat.zero_le _
      rw [executeLine_of_arguments detached found cut enough, Installable.entry,
        joins]
      rfl

/-- The first argument of a line joins the others, which are read as if it did
not stand in front of them. -/
theorem executeLine_join {form : Form} {delimiter spelling : String}
    (found : shell.table.find? "join" = some Installable.join.entry)
    (spelled : Spells spelling.toList ⟨form, delimiter.toList⟩) :
    shell.executeLine
        (String.singleton shell.sigil ++ "join " ++ spelling ++ text) =
      joined delimiter text := by
  have blank : Blank (String.toList " ") := by
    intro character member
    rw [List.mem_singleton.mp member]
    exact Text.isWhiteSpace_space
  have cut := Argument.tokenize_append_of_ends
    (Argument.tokenize_spelled blank spelled) detached.ends
  have behind : Detached (" " ++ spelling ++ text) := by
    refine .inr ⟨' ', (spelling ++ text).toList, ?_, Text.isWhiteSpace_space⟩
    rw [String.append_assoc, String.toList_append]
    rfl
  have line : String.singleton shell.sigil ++ "join " ++ spelling ++ text =
      String.singleton shell.sigil ++ "join" ++ (" " ++ spelling ++ text) := by
    have name : "join " = "join" ++ " " := rfl
    simp only [name, String.append_assoc]
  rw [line, joined]
  cases rest : Argument.tokenize text with
  | error error =>
      rw [rest] at cut
      exact executeLine_of_unreadable behind found cut
  | ok arguments =>
      rw [rest] at cut
      exact executeLine_of_arguments behind found cut (Nat.le_add_left _ _)

end Lines

/-- The lines of the commands that join texts can be written for each other, as
long as a program has registered no other commands in their place.  A delimiter
may be anything that argument text can say, in any spelling; the rest of the
text is read without it, and nothing but a fault in the rest can keep a line
from being answered with the joined text. -/
theorem joining_lines :
    (∀ (table : Table) operations, ∀ item ∈ [Installable.echo, .concat, .join],
      (∀ operation ∈ operations,
        Operation.name? operation ≠ some item.name) →
      (table.operateAll (.installDemo :: operations)).table.find? item.name =
        some item.entry) ∧
    (∀ delimiter,
      (∃ form spelling, Spells (String.toList spelling)
          ⟨form, String.toList delimiter⟩) ↔
        ∃ input arguments, Argument.tokenize input = .ok arguments ∧
          delimiter ∈ arguments) ∧
    ∀ shell : Shell,
      (∀ item ∈ [Installable.echo, .concat, .join],
        shell.table.find? item.name = some item.entry) →
      ∀ text, Detached text →
        shell.executeLine (String.singleton shell.sigil ++ "concat" ++ text) =
          shell.executeLine
            (String.singleton shell.sigil ++ "join |" ++ text) ∧
        shell.executeLine (String.singleton shell.sigil ++ "echo" ++ text) =
          shell.executeLine
            (String.singleton shell.sigil ++ "join \" \"" ++ text) ∧
        ∀ form delimiter spelling,
          Spells (String.toList spelling) ⟨form, String.toList delimiter⟩ →
          (∀ arguments, Argument.tokenize text = .ok arguments →
            shell.executeLine (String.singleton shell.sigil ++ "join " ++
                spelling ++ text) =
              .ok (.text (delimiter.intercalate arguments))) ∧
          ∀ error, Argument.tokenize text = .error error →
            shell.executeLine (String.singleton shell.sigil ++ "join " ++
                spelling ++ text) =
              .ok (.text "Error: error parsing arguments") := by
  refine ⟨?_, fun delimiter => Argument.exists_spelling_iff, ?_⟩
  · intro table operations item joining spared
    have member : item ∈ demoCommands :=
      List.mem_append_left [Installable.add] joining
    apply Table.find?_operateAll_of_spared member spared
    exact table.installs_demo.entries item member
  · intro shell held text detached
    have echo := held .echo (by decide)
    have concat := held .concat (by decide)
    have join := held .join (by decide)
    have bar : Spells (String.toList "|") ⟨.plain, String.toList "|"⟩ :=
      @Argument.spells_written ⟨.plain, ['|']⟩
        ⟨nofun, List.forall_mem_singleton.mpr rfl⟩
    have space : Spells (String.toList "\" \"") ⟨.quoted, String.toList " "⟩ :=
      @Argument.spells_written ⟨.quoted, [' ']⟩ nofun
    have barLine : "join |" = "join " ++ "|" := rfl
    have spaceLine : "join \" \"" = "join " ++ "\" \"" := rfl
    refine ⟨?_, ?_, ?_⟩
    · rw [barLine, ← String.append_assoc, executeLine_join detached join bar]
      exact @executeLine_joinWith shell text detached .concat _ rfl rfl concat
    · rw [spaceLine, ← String.append_assoc,
        executeLine_join detached join space]
      exact @executeLine_joinWith shell text detached .echo _ rfl rfl echo
    · intro form delimiter spelling spelled
      rw [executeLine_join detached join spelled, joined]
      constructor
      · intro arguments success
        rw [success]
      · intro error failure
        rw [failure]

/-- A quote and a backslash join what stands behind them, in a table where the
command that adds has been replaced.  Where a quote stays open, it does not
matter which of the commands is called. -/
theorem joining_lines_quoteAndBackslash :
    let shell := ofTable (Table.empty.operateAll
      [.installDemo, .register "add" Builtin.leave.run]).table
    Spells (String.toList "\\\"\\") ⟨.plain, String.toList "\"\\"⟩ ∧
      shell.executeLine "!join \\\"\\ a \"b c\"" =
        .ok (.text "a\"\\b c") ∧
      shell.executeLine "!join \\\"\\ \"a" =
        .ok (.text "Error: error parsing arguments") ∧
      shell.executeLine "!echo\t\"a" =
        shell.executeLine "!join \" \"\t\"a" := by
  intro shell
  obtain ⟨spared, -, lines⟩ := joining_lines
  have held : ∀ item ∈ [Installable.echo, .concat, .join],
      shell.table.find? item.name = some item.entry := by
    intro item joining
    apply spared _ _ item joining
    intro operation member
    rw [List.mem_singleton.mp member]
    have foreign : ∀ item ∈ [Installable.echo, .concat, .join],
        some "add" ≠ some item.name := by
      decide
    exact foreign item joining
  have spelled : Spells (String.toList "\\\"\\")
      ⟨.plain, String.toList "\"\\"⟩ := by
    apply @Argument.spells_written ⟨.plain, ['"', '\\']⟩
    refine ⟨nofun, ?_⟩
    simpa using ⟨Text.isWhiteSpace_quote, Text.isWhiteSpace_backslash⟩
  obtain ⟨-, -, readable⟩ := lines shell held " a \"b c\""
    (.inr ⟨' ', _, rfl, rfl⟩)
  obtain ⟨-, -, unreadable⟩ := lines shell held " \"a"
    (.inr ⟨' ', _, rfl, rfl⟩)
  obtain ⟨-, alike, -⟩ := lines shell held "\t\"a" (.inr ⟨'\t', _, rfl, rfl⟩)
  exact ⟨spelled, (readable _ _ _ spelled).1 ["a", "b c"] rfl,
    (unreadable _ _ _ spelled).2 (.unterminatedQuote 1) rfl, alike⟩

end Shell

end LineShell
