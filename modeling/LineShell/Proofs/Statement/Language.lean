import Mathlib.Data.List.TakeWhile
import Mathlib.Data.List.TakeDrop
import LineShell.Command.Installation
import LineShell.Shell

/-!
# The language of command lines

A command line is put together from the sigil, a name without white space and
argument text that is empty or starts with white space.  `Composed` says this
of a whole line, without saying where the line is to be cut; a line that starts
with the sigil is composed in exactly one way.  `Meaning` gives the statement
of every line in these terms, one rule for a call and one for each reason to
reject the line, and `ofLine_eq_iff_meaning` says that reading follows it.
-/

namespace LineShell

open Command (Entry Handler Installable Table)

/-- A line made of a sigil, a name and argument text. -/
structure Composed (sigil : Char) (line name text : String) : Prop where
  whole : line = String.singleton sigil ++ name ++ text
  unbroken : ∀ c ∈ name.toList, Text.isWhiteSpace c = false
  apart : text = "" ∨ ∃ first rest, text.toList = first :: rest ∧
    Text.isWhiteSpace first = true

/-- A line names a command and gives readable arguments. -/
def Calls (sigil : Char) (line name : String) (arguments : List String) :
    Prop :=
  ∃ text, Composed sigil line name text ∧
    Argument.tokenize text = .ok arguments

namespace Statement

/-- The reason why a line is rejected, if it is. -/
def reason? : Statement → Option String
  | .call .. => none
  | .rejected rejection => some rejection.reason

end Statement

/-- The statement that a line makes. -/
inductive Meaning (table : Table) (sigil : Char) (line : String) :
    Statement → Prop where
  | call {name text : String} {entry : Entry} {arguments : List String} :
      Composed sigil line name text →
      table.find? name = some entry →
      Argument.tokenize text = .ok arguments →
      entry.minArguments ≤ arguments.length →
      Meaning table sigil line (.call name entry.handler arguments)
  | notACall :
      (¬∃ rest, line = String.singleton sigil ++ rest) →
      Meaning table sigil line (.rejected .notACall)
  | unknownCommand {name text : String} :
      Composed sigil line name text →
      table.find? name = none →
      Meaning table sigil line (.rejected (.unknownCommand name))
  | argumentsUnreadable {name text : String} {entry : Entry}
      {error : Argument.TextError} :
      Composed sigil line name text →
      table.find? name = some entry →
      Argument.tokenize text = .error error →
      Meaning table sigil line (.rejected (.argumentsUnreadable name error))
  | tooFewArguments {name text : String} {entry : Entry}
      {arguments : List String} :
      Composed sigil line name text →
      table.find? name = some entry →
      Argument.tokenize text = .ok arguments →
      arguments.length < entry.minArguments →
      Meaning table sigil line (.rejected
        (.tooFewArguments name arguments.length entry.minArguments))

theorem splitName_append {name rest : List Char}
    (unbroken : ∀ c ∈ name, Text.isWhiteSpace c = false)
    (apart : rest = [] ∨ ∃ first more, rest = first :: more ∧
      Text.isWhiteSpace first = true) :
    splitName (name ++ rest) = (name, rest) := by
  have stops : rest.takeWhile (fun c => !Text.isWhiteSpace c) = [] := by
    rcases apart with rfl | ⟨first, more, rfl, white⟩
    · rfl
    · simp [white]
  have passes : ∀ c ∈ name, (!Text.isWhiteSpace c) = true := by
    intro c member
    simp [unbroken c member]
  have stays := List.takeWhile_append_dropWhile
    (p := fun c => !Text.isWhiteSpace c) (l := rest)
  rw [stops, List.nil_append] at stays
  unfold splitName
  rw [List.span_eq_takeWhile_dropWhile,
    List.takeWhile_append_of_pos passes, List.dropWhile_append_of_pos passes,
    stops, stays, List.append_nil]

theorem splitName_cut (text : List Char) :
    (splitName text).1 ++ (splitName text).2 = text ∧
      (∀ c ∈ (splitName text).1, Text.isWhiteSpace c = false) ∧
      ((splitName text).2 = [] ∨ ∃ first more,
        (splitName text).2 = first :: more ∧
          Text.isWhiteSpace first = true) := by
  unfold splitName
  rw [List.span_eq_takeWhile_dropWhile]
  refine ⟨List.takeWhile_append_dropWhile, ?_, ?_⟩
  · intro c member
    simpa using List.mem_takeWhile_imp member
  · cases remaining : text.dropWhile fun c => !Text.isWhiteSpace c with
    | nil => exact .inl rfl
    | cons first more =>
        have stopped := List.head?_dropWhile_not
          (fun c => !Text.isWhiteSpace c) text
        rw [remaining] at stopped
        exact .inr ⟨first, more, rfl, by simpa using stopped⟩

section Composition

variable {sigil : Char} {line name text : String}

theorem Composed.splitName_eq (composed : Composed sigil line name text) :
    splitName (name ++ text).toList = (name.toList, text.toList) := by
  rw [String.toList_append]
  refine splitName_append composed.unbroken (composed.apart.imp_left ?_)
  rintro rfl
  rfl

/-- There is only one way to cut a line. -/
theorem Composed.unique {other otherText : String}
    (composed : Composed sigil line name text)
    (again : Composed sigil line other otherText) :
    other = name ∧ otherText = text := by
  have same : other ++ otherText = name ++ text := by
    have whole := again.whole.symm.trans composed.whole
    rw [String.append_assoc, String.append_assoc, ← String.toList_inj] at whole
    rw [← String.toList_inj]
    simpa using whole
  have cut := again.splitName_eq
  rw [same, composed.splitName_eq, Prod.mk.injEq] at cut
  exact ⟨String.toList_inj.mp cut.1.symm, String.toList_inj.mp cut.2.symm⟩

theorem exists_composed (sigil : Char) (rest : String) :
    ∃ name text, Composed sigil (String.singleton sigil ++ rest) name text := by
  obtain ⟨whole, unbroken, apart⟩ := splitName_cut rest.toList
  refine ⟨String.ofList (splitName rest.toList).1,
    String.ofList (splitName rest.toList).2, ?_, ?_, ?_⟩
  · rw [String.append_assoc, ← String.ofList_append, whole,
      String.ofList_toList]
  · rw [String.toList_ofList]
    exact unbroken
  · rw [String.toList_ofList]
    refine apart.imp_left ?_
    intro empty
    rw [empty]

theorem ofLine_of_composed (composed : Composed sigil line name text)
    (table : Table) :
    Statement.ofLine table sigil line =
      match table.find? name with
      | none => .rejected (.unknownCommand name)
      | some entry => Statement.ofEntry name entry text := by
  have starts : line.toList = sigil :: (name ++ text).toList := by
    rw [composed.whole, String.append_assoc, String.toList_append,
      String.toList_singleton, List.singleton_append]
  unfold Statement.ofLine
  rw [starts]
  cases found : table.find? name <;>
    simp only [if_true, Statement.ofCallText, composed.splitName_eq,
      String.ofList_toList, found]

theorem ofLine_of_not_startsWithSigil
    (foreign : ¬∃ rest, line = String.singleton sigil ++ rest)
    (table : Table) :
    Statement.ofLine table sigil line = .rejected .notACall := by
  unfold Statement.ofLine
  split
  · rfl
  · rename_i first rest characters
    split
    · rename_i same
      refine absurd ⟨String.ofList rest, ?_⟩ foreign
      rw [← String.toList_inj, characters, same]
      simp
    · rfl

end Composition

section Reading

variable (table : Table) (sigil : Char) (line : String)

theorem meaning_ofLine :
    Meaning table sigil line (Statement.ofLine table sigil line) := by
  by_cases starts : ∃ rest, line = String.singleton sigil ++ rest
  · obtain ⟨rest, rfl⟩ := starts
    obtain ⟨name, text, composed⟩ := exists_composed sigil rest
    rw [ofLine_of_composed composed]
    cases found : table.find? name with
    | none => exact .unknownCommand composed found
    | some entry =>
        unfold Statement.ofEntry
        cases split : Argument.tokenize text with
        | error error => exact .argumentsUnreadable composed found split
        | ok arguments =>
            by_cases few : arguments.length < entry.minArguments
            · simp only [few, if_true]
              exact .tooFewArguments composed found split few
            · simp only [few, if_false]
              exact .call composed found split (Nat.le_of_not_lt few)
  · rw [ofLine_of_not_startsWithSigil starts]
    exact .notACall starts

variable {table sigil line}

theorem ofLine_of_meaning {statement : Statement}
    (meaning : Meaning table sigil line statement) :
    Statement.ofLine table sigil line = statement := by
  cases meaning with
  | call composed found split enough =>
      rw [ofLine_of_composed composed, found]
      simp only [Statement.ofEntry, split, Nat.not_lt.mpr enough, if_false]
  | notACall foreign => exact ofLine_of_not_startsWithSigil foreign table
  | unknownCommand composed absent =>
      rw [ofLine_of_composed composed, absent]
  | argumentsUnreadable composed found split =>
      rw [ofLine_of_composed composed, found]
      simp only [Statement.ofEntry, split]
  | tooFewArguments composed found split few =>
      rw [ofLine_of_composed composed, found]
      simp only [Statement.ofEntry, split, few, if_true]

theorem ofLine_eq_iff_meaning {statement : Statement} :
    Statement.ofLine table sigil line = statement ↔
      Meaning table sigil line statement :=
  ⟨fun read => read ▸ meaning_ofLine table sigil line, ofLine_of_meaning⟩

/-- A line is rejected for one of four reasons, each of which names the first
thing that is wrong with it. -/
theorem reason?_eq_some_iff {reason : String} :
    (Statement.ofLine table sigil line).reason? = some reason ↔
      (reason = "invalid statement" ∧
        ¬∃ rest, line = String.singleton sigil ++ rest) ∨
      ∃ name text, Composed sigil line name text ∧
        ((reason = "command not found" ∧ table.find? name = none) ∨
          ∃ entry, table.find? name = some entry ∧
            ((reason = "error parsing arguments" ∧
                ∃ error, Argument.tokenize text = .error error) ∨
              reason = "not enough arguments" ∧
                ∃ arguments, Argument.tokenize text = .ok arguments ∧
                  arguments.length < entry.minArguments)) := by
  constructor
  · intro rejected
    generalize read : Statement.ofLine table sigil line = statement at rejected
    cases ofLine_eq_iff_meaning.mp read with
    | call => cases rejected
    | notACall foreign =>
        cases rejected
        exact .inl ⟨rfl, foreign⟩
    | unknownCommand composed absent =>
        cases rejected
        exact .inr ⟨_, _, composed, .inl ⟨rfl, absent⟩⟩
    | argumentsUnreadable composed found split =>
        cases rejected
        exact .inr ⟨_, _, composed, .inr ⟨_, found, .inl ⟨rfl, _, split⟩⟩⟩
    | tooFewArguments composed found split few =>
        cases rejected
        exact .inr ⟨_, _, composed, .inr ⟨_, found, .inr
          ⟨rfl, _, split, few⟩⟩⟩
  · rintro (⟨rfl, foreign⟩ | ⟨name, text, composed, rejected⟩)
    · rw [ofLine_of_meaning (.notACall foreign)]
      rfl
    · rcases rejected with ⟨rfl, absent⟩ | ⟨entry, found, rejected⟩
      · rw [ofLine_of_meaning (.unknownCommand composed absent)]
        rfl
      · rcases rejected with
          ⟨rfl, error, split⟩ | ⟨rfl, arguments, split, few⟩
        · rw [ofLine_of_meaning (.argumentsUnreadable composed found split)]
          rfl
        · rw [ofLine_of_meaning (.tooFewArguments composed found split few)]
          rfl

theorem reason_mem {reason : String}
    (rejected : (Statement.ofLine table sigil line).reason? = some reason) :
    reason ∈ ["invalid statement", "command not found",
      "error parsing arguments", "not enough arguments"] := by
  rcases reason?_eq_some_iff.mp rejected with
    ⟨rfl, -⟩ | ⟨-, -, -, ⟨rfl, -⟩ | ⟨-, -, ⟨rfl, -⟩ | ⟨rfl, -⟩⟩⟩ <;> simp

theorem ofLine_eq_call_iff {name : String} {handler : Handler}
    {arguments : List String} :
    Statement.ofLine table sigil line = .call name handler arguments ↔
      ∃ text entry, Composed sigil line name text ∧
        table.find? name = some entry ∧
        Argument.tokenize text = .ok arguments ∧
        entry.minArguments ≤ arguments.length ∧
        handler = entry.handler := by
  constructor
  · intro read
    cases ofLine_eq_iff_meaning.mp read with
    | call composed found split enough =>
        exact ⟨_, _, composed, found, split, enough, rfl⟩
  · rintro ⟨text, entry, composed, found, split, enough, rfl⟩
    exact ofLine_of_meaning (.call composed found split enough)

end Reading

namespace Shell

variable (shell : Shell) (line : String)

/-- Carrying out a line is running the command that it calls, in view of the
shell, or answering with the reason why it is rejected. -/
theorem executeLine_cases :
    (∃ name handler arguments,
        shell.read line = .call name handler arguments ∧
          shell.executeLine line =
            handler ⟨shell.sigil, shell.table.catalogue⟩ arguments) ∨
      ∃ reason, (shell.read line).reason? = some reason ∧
        shell.executeLine line = .ok (.text ("Error: " ++ reason)) := by
  unfold executeLine
  cases shell.read line with
  | call name handler arguments => exact .inl ⟨name, handler, arguments, rfl, rfl⟩
  | rejected rejection => exact .inr ⟨rejection.reason, rfl, rfl⟩

variable {shell line} in
theorem executeLine_eq_iff {result : Except Failure Command.Reply}
    (noText : ∀ message, result ≠ .ok (.text message)) :
    shell.executeLine line = result ↔
      ∃ name entry arguments, Calls shell.sigil line name arguments ∧
        shell.table.find? name = some entry ∧
        entry.minArguments ≤ arguments.length ∧
        entry.handler shell.context arguments = result := by
  constructor
  · rintro rfl
    rcases shell.executeLine_cases line with
      ⟨name, handler, arguments, called, ran⟩ | ⟨reason, -, answered⟩
    · obtain ⟨text, entry, composed, found, split, enough, rfl⟩ :=
        ofLine_eq_call_iff.mp called
      exact ⟨name, entry, arguments, ⟨text, composed, split⟩, found, enough,
        ran.symm⟩
    · exact absurd answered (noText _)
  · rintro ⟨name, entry, arguments, ⟨text, composed, split⟩, found, enough,
      rfl⟩
    have called : shell.read line = .call name entry.handler arguments :=
      ofLine_of_meaning (.call composed found split enough)
    rw [executeLine, called]
    rfl

/-- A line is a call exactly if it can be cut into the sigil, the name of a
registered command and argument text that holds enough arguments, and then it
can be cut in one way only.  Any other line is rejected for the first of four
reasons that applies.  A call gives back what its command makes of the
arguments and of the shell, of which it sees the sigil and, name by name, the
descriptors of the table, and a failure can come from nowhere else. -/
theorem line_language :
    (∀ name handler arguments,
      shell.read line = .call name handler arguments ↔
        ∃ text entry, Composed shell.sigil line name text ∧
          shell.table.find? name = some entry ∧
          Argument.tokenize text = .ok arguments ∧
          entry.minArguments ≤ arguments.length ∧
          handler = entry.handler) ∧
      (∀ name text other otherText, Composed shell.sigil line name text →
        Composed shell.sigil line other otherText →
          other = name ∧ otherText = text) ∧
      ((shell.read line).reason? = some "invalid statement" ↔
        ¬∃ rest, line = String.singleton shell.sigil ++ rest) ∧
      ((shell.read line).reason? = some "command not found" ↔
        ∃ name text, Composed shell.sigil line name text ∧
          shell.table.find? name = none) ∧
      ((shell.read line).reason? = some "error parsing arguments" ↔
        ∃ name text entry, Composed shell.sigil line name text ∧
          shell.table.find? name = some entry ∧
          ∃ error, Argument.tokenize text = .error error) ∧
      ((shell.read line).reason? = some "not enough arguments" ↔
        ∃ name text entry arguments, Composed shell.sigil line name text ∧
          shell.table.find? name = some entry ∧
          Argument.tokenize text = .ok arguments ∧
          arguments.length < entry.minArguments) ∧
      ((∃ name handler arguments,
          shell.read line = .call name handler arguments ∧
            shell.executeLine line =
              handler ⟨shell.sigil, shell.table.catalogue⟩ arguments) ∨
        ∃ reason ∈ ["invalid statement", "command not found",
            "error parsing arguments", "not enough arguments"],
          (shell.read line).reason? = some reason ∧
            shell.executeLine line = .ok (.text ("Error: " ++ reason))) ∧
      (shell.table.catalogue.map Prod.fst = shell.table.names ∧
        ∀ name, shell.table.catalogue.lookup name =
          (shell.table.find? name).map Entry.descriptor) ∧
      ∀ failure, shell.executeLine line = .error failure ↔
        ∃ name text entry arguments, Composed shell.sigil line name text ∧
          shell.table.find? name = some entry ∧
          Argument.tokenize text = .ok arguments ∧
          entry.minArguments ≤ arguments.length ∧
          entry.handler ⟨shell.sigil, shell.table.catalogue⟩ arguments =
            .error failure := by
  refine ⟨fun name handler arguments => ofLine_eq_call_iff,
    fun name text other otherText composed again => composed.unique again,
    ?_, ?_, ?_, ?_, ?_,
    ⟨shell.table.names_catalogue, shell.table.lookup_catalogue⟩, ?_⟩
  · simp [read, reason?_eq_some_iff]
  · simp [read, reason?_eq_some_iff]
  · simp [read, reason?_eq_some_iff]
  · simp [read, reason?_eq_some_iff]
  · rcases shell.executeLine_cases line with
      called | ⟨reason, rejected, answered⟩
    · exact .inl called
    · exact .inr ⟨reason, reason_mem rejected, rejected, answered⟩
  · intro failure
    constructor
    · intro failed
      rcases shell.executeLine_cases line with
        ⟨name, handler, arguments, called, ran⟩ | ⟨reason, -, answered⟩
      · obtain ⟨text, entry, composed, found, split, enough, rfl⟩ :=
          ofLine_eq_call_iff.mp called
        exact ⟨name, text, entry, arguments, composed, found, split, enough,
          ran.symm.trans failed⟩
      · rw [answered] at failed
        cases failed
    · rintro ⟨name, text, entry, arguments, composed, found, split, enough,
        failed⟩
      have called : shell.read line = .call name entry.handler arguments :=
        ofLine_of_meaning (.call composed found split enough)
      unfold executeLine
      rw [called]
      exact failed

/-- A call that fails, since its second argument is quoted and holds a
blank. -/
theorem line_language_quotedArgument :
    let shell := ofTable Table.empty.installDemo.table
    Composed '!' "!add 1 \"2 3\"" "add" " 1 \"2 3\"" ∧
      shell.read "!add 1 \"2 3\"" =
        .call "add" Installable.add.entry.handler ["1", "2 3"] ∧
      (∀ other otherText,
        Composed '!' "!add 1 \"2 3\"" other otherText →
          other = "add" ∧ otherText = " 1 \"2 3\"") ∧
      shell.table.catalogue.map Prod.fst = ["add", "concat", "echo", "join"] ∧
      shell.executeLine "!add 1 \"2 3\"" =
        .error (Command.notAnInteger "2 3") := by
  intro shell
  obtain ⟨calls, unique, -, -, -, -, -, ⟨names, -⟩, fails⟩ :=
    shell.line_language "!add 1 \"2 3\""
  have unbroken : "add".toList.all (fun c => !Text.isWhiteSpace c) = true := by
    decide
  have composed : Composed '!' "!add 1 \"2 3\"" "add" " 1 \"2 3\"" := by
    refine ⟨rfl, ?_, .inr ⟨' ', _, rfl, rfl⟩⟩
    intro c member
    simpa using List.all_eq_true.mp unbroken c member
  refine ⟨composed, ?_, fun other otherText => unique _ _ _ _ composed, names,
    ?_⟩
  · exact (calls _ _ _).mpr
      ⟨_, Installable.add.entry, composed, rfl, rfl, by decide, rfl⟩
  · exact (fails _).mpr
      ⟨_, _, Installable.add.entry, _, composed, rfl, rfl, by decide, rfl⟩

end Shell

end LineShell
