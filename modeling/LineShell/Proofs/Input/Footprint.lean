import LineShell.Proofs.Command.Installed
import LineShell.Proofs.Input.Rounds
import LineShell.Proofs.Statement.Language

/-!
# The footprint of a line

Reading a line looks up one name, and a statement keeps the handler that the
name stood for, so what the table holds later makes no difference to which
command runs.  Of the commands that come with the shell only help looks at the
table again, for the description of one name.  Tables that agree on these names
cannot be told apart by a session (`footprint`).
-/

namespace LineShell

open Command (Builtin Descriptor Installable Request Table)
open Text (Bytes)

namespace Command

/-- The description of a name that is registered; it may be empty. -/
def Table.described? (table : Table) (name : String) : Option String :=
  (table.find? name).map fun entry =>
    (entry.descriptor.map Descriptor.description).getD ""

/-- All commands of a table come with the shell, under whatever names. -/
def Table.Own (table : Table) : Prop :=
  ∀ name entry, table.find? name = some entry →
    ∃ command : Builtin, entry.handler = command.run

theorem own_installed (switches : BuiltinSwitches) :
    (Table.installed switches).Own := by
  intro name entry found
  obtain ⟨item, -, -, rfl⟩ := find?_installed_eq_some_iff.mp found
  exact ⟨item.command, rfl⟩

theorem helpText_catalogue (table : Table) (name : String) :
    helpText table.catalogue name =
      match table.described? name with
      | none => "Can't find a command named \"" ++ name ++ "\""
      | some description =>
          if description.isEmpty then "No description provided for " ++ name
          else "Help for " ++ name ++ ":\n\n" ++ description := by
  unfold helpText Table.described?
  rw [Table.lookup_catalogue]
  cases table.find? name with
  | none => rfl
  | some entry =>
      cases described : entry.descriptor with
      | none => simp [described]
      | some descriptor => simp [described]

section Contexts

variable {command : Builtin} {arguments : List String} {table other : Table}

/-- A command that comes with the shell cannot tell tables apart, unless it is
help and the tables describe the name that is asked about differently. -/
theorem Builtin.run_congr (sigil otherSigil : Char)
    (alike : ∀ ownName, command = .help ownName →
      table.described? (arguments.headD ownName) =
        other.described? (arguments.headD ownName)) :
    command.run ⟨sigil, table.catalogue⟩ arguments =
      command.run ⟨otherSigil, other.catalogue⟩ arguments := by
  cases command with
  | joinWith | add | leave => rfl
  | join => cases arguments <;> rfl
  | help ownName =>
      simp only [run, helpText_catalogue, alike ownName rfl]

end Contexts

end Command

namespace Statement

theorem ofLine_congr {table other : Table} {sigil : Char} {line : String}
    (alike : ∀ name text, Composed sigil line name text →
      table.find? name = other.find? name) :
    ofLine table sigil line = ofLine other sigil line := by
  by_cases starts : ∃ rest, line = String.singleton sigil ++ rest
  · obtain ⟨rest, rfl⟩ := starts
    obtain ⟨name, text, composed⟩ := exists_composed sigil rest
    rw [ofLine_of_composed composed, ofLine_of_composed composed,
      alike name text composed]
  · rw [ofLine_of_not_startsWithSigil starts,
      ofLine_of_not_startsWithSigil starts]

end Statement

namespace Shell

open Input

@[simp]
theorem table_ofTable (table : Table) : (ofTable table).table = table :=
  rfl

@[simp]
theorem read_ofTable (table : Table) (line : String) :
    (ofTable table).read line = Statement.ofLine table defaultSigil line :=
  rfl

/-- The shell with another table. -/
def withTable (shell : Shell) (table : Table) : Shell :=
  ⟨table, shell.sigil, shell.policy⟩

/-- The names that a line touches: the one that it calls, and the one that it
asks help about. -/
inductive Touches (shell : Shell) (line : String) : String → Prop where
  | called {name text : String} :
      Composed shell.sigil line name text →
      Touches shell line name
  | asked {name ownName : String} {arguments : List String} :
      shell.read line = .call name (Builtin.help ownName).run arguments →
      Touches shell line (arguments.headD ownName)

/-- A table has the same entry as that of the shell for the name that a line
calls, and the same description of the name that it asks help about. -/
structure Agrees (shell : Shell) (other : Table) (line : String) : Prop where
  called : ∀ name text, Composed shell.sigil line name text →
    shell.table.find? name = other.find? name
  asked : ∀ name ownName arguments,
    shell.read line = .call name (Builtin.help ownName).run arguments →
    shell.table.described? (arguments.headD ownName) =
      other.described? (arguments.headD ownName)

section Lines

variable {shell : Shell} {other : Table}

theorem agrees_of_untouched {history : List Request} {line : String}
    (untouched : ∀ request ∈ history, ¬shell.Touches line request.name) :
    shell.Agrees (shell.table.replay history) line := by
  have kept {name : String} (touched : shell.Touches line name) :
      (shell.table.replay history).find? name = shell.table.find? name := by
    apply Table.find?_replay_of_absent
    rintro request member rfl
    exact untouched request member touched
  constructor
  · intro name text composed
    exact (kept (.called composed)).symm
  · intro name ownName arguments read
    unfold Table.described?
    rw [kept (.asked read)]

variable (own : shell.table.Own)

include own

theorem execute_withTable {line : String} (agrees : shell.Agrees other line) :
    (shell.read line).execute (shell.withTable other).context =
      (shell.read line).execute shell.context := by
  cases read : shell.read line with
  | rejected rejection => rfl
  | call name handler arguments =>
      obtain ⟨text, entry, -, found, -, -, rfl⟩ := ofLine_eq_call_iff.mp read
      obtain ⟨command, same⟩ := own name entry found
      rw [same] at read
      have alike : ∀ ownName, command = .help ownName →
          shell.table.described? (arguments.headD ownName) =
            other.described? (arguments.headD ownName) := by
        rintro ownName rfl
        exact agrees.asked name ownName arguments read
      rw [Statement.execute, Statement.execute, same]
      exact (Command.Builtin.run_congr shell.sigil shell.sigil alike).symm

theorem respond_withTable {line : Bytes}
    (agrees : ∀ text, textOf? line = some text → shell.Agrees other text) :
    (shell.withTable other).respond line = shell.respond line := by
  cases decoded : textOf? line with
  | none =>
      rw [respond_of_undecodable decoded, respond_of_undecodable decoded]
  | some text =>
      have sameRead : (shell.withTable other).read text = shell.read text :=
        (Statement.ofLine_congr (agrees text decoded).called).symm
      have sameResult := execute_withTable own (agrees text decoded)
      rw [respond_of_text decoded, respond_of_text decoded, respondToText,
        respondToText, sameRead, sameResult]
      rfl

/-- Tables that agree about the lines that are processed cannot be told apart,
on any device and whatever becomes of the input. -/
theorem runOn_withTable {State : Type} (device : Device State) (state : State)
    {source : Source}
    (agrees : ∀ line ∈ shell.processed source.lines,
      ∀ text, textOf? line = some text → shell.Agrees other text) :
    (shell.withTable other).runOn device state source =
      shell.runOn device state source := by
  apply answerLines_congr
  intro line member
  exact respond_withTable own (agrees line member)

end Lines

/-- A line is read from the entry of its own name; its statement runs the
handler of that entry with the arguments of the line, whatever another table
holds.  Of the shell's own commands only help looks at the other table, for the
description of one name.  So a session with such commands is the same over any
table that agrees about the lines it processes, and requests for names that
these lines do not touch change nothing. -/
theorem footprint (shell : Shell) :
    (∀ other line, (∀ name text, Composed shell.sigil line name text →
        shell.table.find? name = other.find? name) →
      shell.read line = Statement.ofLine other shell.sigil line) ∧
    (∀ line name handler arguments,
      shell.read line = .call name handler arguments →
      (∃ text entry, Composed shell.sigil line name text ∧
        shell.table.find? name = some entry ∧ entry.handler = handler ∧
        Argument.tokenize text = .ok arguments) ∧
      ∀ (other : Table) sigil,
        (shell.read line).execute ⟨sigil, other.catalogue⟩ =
          handler ⟨sigil, other.catalogue⟩ arguments) ∧
    (∀ (command : Builtin) arguments (table other : Table) sigil otherSigil,
      (∀ ownName, command = .help ownName →
        table.described? (arguments.headD ownName) =
          other.described? (arguments.headD ownName)) →
      command.run ⟨sigil, table.catalogue⟩ arguments =
        command.run ⟨otherSigil, other.catalogue⟩ arguments) ∧
    (∀ other bytes, shell.table.Own →
      (∀ line ∈ shell.processed (linesOf bytes),
        ∀ text, textOf? line = some text → shell.Agrees other text) →
      (shell.withTable other).run bytes = shell.run bytes) ∧
    ∀ history bytes, shell.table.Own →
      (∀ request ∈ history, ∀ line ∈ shell.processed (linesOf bytes),
        ∀ text, textOf? line = some text →
          ¬shell.Touches text request.name) →
      (shell.withTable (shell.table.replay history)).run bytes =
        shell.run bytes := by
  refine ⟨fun other line => Statement.ofLine_congr, ?_, ?_, ?_, ?_⟩
  · intro line name handler arguments read
    obtain ⟨text, entry, composed, found, split, -, rfl⟩ :=
      ofLine_eq_call_iff.mp read
    refine ⟨⟨text, entry, composed, found, rfl, split⟩, ?_⟩
    intro other sigil
    rw [read]
    rfl
  · intro command arguments table other sigil otherSigil alike
    exact Command.Builtin.run_congr sigil otherSigil alike
  · intro other bytes own agrees
    rw [← cutLines_eq_linesOf] at agrees
    exact runOn_withTable own reliable () agrees
  · intro history bytes own untouched
    rw [← cutLines_eq_linesOf] at untouched
    apply runOn_withTable own reliable ()
    intro line member text decoded
    apply agrees_of_untouched
    intro request requested
    exact untouched request requested line member text decoded

/-- Help about one command, while another is replaced and a name is
rejected. -/
theorem footprint_otherCommands :
    ((ofTable (Table.installed .all)).withTable
        ((Table.installed .all).replay [⟨"concat", Installable.exit.entry⟩,
          ⟨"a b", Installable.exit.entry⟩])).run (Text.encode "!help echo\n") =
      (ofTable (Table.installed .all)).run (Text.encode "!help echo\n") := by
  have processed : (ofTable (Table.installed .all)).processed
      (linesOf (Text.encode "!help echo\n")) =
        [Text.encode "!help echo\n"] := by
    decide +kernel
  have decoded : textOf? (Text.encode "!help echo\n") =
      some "!help echo" := by
    decide +kernel
  have unbroken : "help".toList.all (fun c => !Text.isWhiteSpace c) = true := by
    decide
  have composed : Composed '!' "!help echo" "help" " echo" := by
    refine ⟨rfl, ?_, .inr ⟨' ', _, rfl, rfl⟩⟩
    intro c member
    simpa using List.all_eq_true.mp unbroken c member
  have read : (ofTable (Table.installed .all)).read "!help echo" =
      .call "help" (Builtin.help "help").run ["echo"] := by
    have found : (Table.installed .all).find? "help" =
        some Installable.help.entry :=
      Command.find?_installed_eq_some_iff.mpr
        ⟨.help, by decide, rfl, rfl⟩
    rw [read_ofTable]
    exact ofLine_eq_call_iff.mpr
      ⟨_, _, composed, found, rfl, by decide, rfl⟩
  have untouched : ∀ name, (ofTable (Table.installed .all)).Touches
      "!help echo" name → name = "help" ∨ name = "echo" := by
    intro name touches
    cases touches with
    | called again => exact .inl (composed.unique again).1
    | asked again =>
        rw [read, Statement.call.injEq] at again
        rw [← again.2.2]
        exact .inr rfl
  obtain ⟨-, -, -, -, unchanged⟩ := footprint (ofTable (Table.installed .all))
  rw [table_ofTable] at unchanged
  refine unchanged _ _ (Command.own_installed .all) ?_
  intro request requested line member text textual touches
  rw [processed, List.mem_singleton] at member
  rw [member, decoded, Option.some.injEq] at textual
  subst textual
  have others : ∀ request ∈ [Request.mk "concat" Installable.exit.entry,
      ⟨"a b", Installable.exit.entry⟩],
      request.name ≠ "help" ∧ request.name ≠ "echo" := by
    simp
  have other := others request requested
  exact (untouched _ touches).elim other.1 other.2

end Shell

end LineShell
