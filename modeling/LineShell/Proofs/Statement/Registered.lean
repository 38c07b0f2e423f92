import LineShell.Proofs.Command.Accounting
import LineShell.Proofs.Statement.Language

/-!
# Registered commands

Four things tell what a table holds: the list of its names, the search for a
name, the line that calls a name without arguments, and help.  They agree about
every name, whether a command has it or not, after whatever registrations have
been made (`views_agree`), and help tells from the last of these.
-/

namespace LineShell

open Command (Builtin Entry LastRequest Operation Spellable Submission Table
  helpText submissionsOf)

namespace Command

/-- What help says about a name, by what is registered under the name. -/
inductive Explains (table : Table) (name : String) : String → Prop where
  | unknown :
      table.find? name = none →
      Explains table name ("Can't find a command named \"" ++ name ++ "\"")
  | undescribed {entry : Entry} :
      table.find? name = some entry →
      (∀ descriptor ∈ entry.descriptor, descriptor.description = "") →
      Explains table name ("No description provided for " ++ name)
  | described {entry : Entry} {descriptor : Descriptor} :
      table.find? name = some entry →
      descriptor ∈ entry.descriptor →
      descriptor.description ≠ "" →
      Explains table name
        ("Help for " ++ name ++ ":\n\n" ++ descriptor.description)

section Help

variable {table : Table} {name text : String}

theorem explains_helpText (table : Table) (name : String) :
    Explains table name (helpText table.catalogue name) := by
  unfold helpText
  rw [Table.lookup_catalogue]
  cases found : table.find? name with
  | none => exact .unknown found
  | some entry =>
      cases registered : entry.descriptor with
      | none =>
          simp only [Option.map_some, registered]
          exact .undescribed found (by simp [registered])
      | some descriptor =>
          simp only [Option.map_some, registered]
          by_cases empty : descriptor.description = ""
          · rw [if_pos (String.isEmpty_iff.mpr empty)]
            exact .undescribed found (by simpa [registered] using empty)
          · rw [if_neg (mt String.isEmpty_iff.mp empty)]
            exact .described found registered empty

theorem Explains.not_found_iff (explains : Explains table name text) :
    (∃ rest, text = "Can't find a command named" ++ rest) ↔
      table.find? name = none := by
  cases explains with
  | unknown absent =>
      refine iff_of_true ⟨" \"" ++ name ++ "\"", ?_⟩ absent
      simp [← String.toList_inj]
  | undescribed found =>
      refine iff_of_false ?_ (by simp [found])
      rintro ⟨rest, same⟩
      simp [← String.toList_inj] at same
  | described found =>
      refine iff_of_false ?_ (by simp [found])
      rintro ⟨rest, same⟩
      simp [← String.toList_inj] at same

theorem Explains.undescribed_iff (explains : Explains table name text) :
    text = "No description provided for " ++ name ↔
      ∃ entry, table.find? name = some entry ∧
        ∀ descriptor ∈ entry.descriptor, descriptor.description = "" := by
  cases explains with
  | unknown absent =>
      refine iff_of_false ?_ (by simp [absent])
      intro same
      simp [← String.toList_inj] at same
  | undescribed found blank => exact iff_of_true rfl ⟨_, found, blank⟩
  | described found registered nonempty =>
      refine iff_of_false ?_ ?_
      · intro same
        simp [← String.toList_inj] at same
      · rintro ⟨entry, again, blank⟩
        cases found.symm.trans again
        exact nonempty (blank _ registered)

theorem Explains.eq_of_described (explains : Explains table name text)
    {entry : Entry} {descriptor : Descriptor}
    (found : table.find? name = some entry)
    (registered : descriptor ∈ entry.descriptor)
    (nonempty : descriptor.description ≠ "") :
    text = "Help for " ++ name ++ ":\n\n" ++ descriptor.description := by
  cases explains with
  | unknown absent => cases absent.symm.trans found
  | undescribed again blank =>
      cases again.symm.trans found
      exact absurd (blank _ registered) nonempty
  | described again other =>
      cases again.symm.trans found
      cases Option.mem_unique other registered
      rfl

end Help

namespace Table

theorem mem_names_iff_exists (table : Table) {name : String} :
    name ∈ table.names ↔ ∃ entry, table.find? name = some entry := by
  rw [mem_names_iff, contains, Option.isSome_iff_exists]

theorem not_mem_names_iff (table : Table) {name : String} :
    name ∉ table.names ↔ table.find? name = none := by
  rw [mem_names_iff, contains, Option.not_isSome_iff_eq_none]

theorem find?_operateAll_eq_some_iff {operations : List Operation}
    {name : String} {entry : Entry} :
    (empty.operateAll operations).table.find? name = some entry ↔
      Spellable name ∧
        LastRequest ((submissionsOf operations).map Submission.request) name
          entry := by
  rw [operateAll_eq_submitAll, table_submitAll, find?_replay_eq_some_iff]

end Table

end Command

section Lines

variable {table : Table} {name : String} (sigil : Char)

theorem composed_alone
    (unbroken : ∀ c ∈ name.toList, Text.isWhiteSpace c = false) :
    Composed sigil (String.singleton sigil ++ name) name "" where
  whole := String.append_empty.symm
  unbroken := unbroken
  apart := .inl rfl

theorem ofLine_alone_of_unregistered
    (unbroken : ∀ c ∈ name.toList, Text.isWhiteSpace c = false)
    (absent : table.find? name = none) :
    Statement.ofLine table sigil (String.singleton sigil ++ name) =
      .rejected (.unknownCommand name) :=
  ofLine_of_meaning (.unknownCommand (composed_alone sigil unbroken) absent)

section Entries

variable {entry : Entry} (found : table.find? name = some entry)

include found

theorem ofLine_alone_of_free (free : entry.minArguments = 0) :
    Statement.ofLine table sigil (String.singleton sigil ++ name) =
      .call name entry.handler [] := by
  have composed := composed_alone sigil
    (Table.spellable_of_find? found).unbroken
  exact ofLine_of_meaning (.call composed found rfl (Nat.le_of_eq free))

theorem ofLine_alone_of_asking (asking : 0 < entry.minArguments) :
    Statement.ofLine table sigil (String.singleton sigil ++ name) =
      .rejected (.tooFewArguments name 0 entry.minArguments) := by
  have composed := composed_alone sigil
    (Table.spellable_of_find? found).unbroken
  exact ofLine_of_meaning (.tooFewArguments composed found rfl asking)

end Entries

end Lines

/-- The names of a table are the names that are found, each with the entry of
its last registration.  A line that consists of such a name is a call of this
entry, or lacks the arguments that the entry asks for, and a line of any other
name calls nothing.  Help always replies, and its reply tells whether the name
is registered and whether it was last registered with a description, which it
then gives. -/
theorem views_agree (operations : List Operation) (sigil : Char)
    (name : String) :
    let table := (Table.empty.operateAll operations).table
    let line := String.singleton sigil ++ name
    (name ∈ table.names ↔ ∃ entry, table.find? name = some entry) ∧
      (∀ entry, table.find? name = some entry ↔
        Spellable name ∧
          LastRequest ((submissionsOf operations).map Submission.request)
            name entry) ∧
      (∀ entry, table.find? name = some entry →
        (entry.minArguments = 0 →
          Statement.ofLine table sigil line =
            .call name entry.handler []) ∧
        (0 < entry.minArguments →
          Statement.ofLine table sigil line =
              .rejected (.tooFewArguments name 0 entry.minArguments) ∧
            (Statement.ofLine table sigil line).reason? =
              some "not enough arguments")) ∧
      ((∀ c ∈ name.toList, Text.isWhiteSpace c = false) →
        name ∉ table.names →
          (Statement.ofLine table sigil line).reason? =
            some "command not found") ∧
      ∀ ownName arguments, arguments.headD ownName = name →
        ∃ text, (Builtin.help ownName).run ⟨sigil, table.catalogue⟩ arguments =
            .ok (.text text) ∧
          ((∃ rest, text = "Can't find a command named" ++ rest) ↔
            name ∉ table.names) ∧
          (text = "No description provided for " ++ name ↔
            ∃ entry, table.find? name = some entry ∧
              ∀ descriptor ∈ entry.descriptor,
                descriptor.description = "") ∧
          ∀ entry, table.find? name = some entry →
            ∀ descriptor ∈ entry.descriptor, descriptor.description ≠ "" →
              text = "Help for " ++ name ++ ":\n\n" ++
                descriptor.description := by
  intro table line
  have absence : name ∉ table.names ↔ table.find? name = none :=
    table.not_mem_names_iff
  refine ⟨table.mem_names_iff_exists,
    fun entry => Table.find?_operateAll_eq_some_iff, ?_, ?_, ?_⟩
  · intro entry found
    constructor
    · exact ofLine_alone_of_free sigil found
    · intro asking
      have rejected := ofLine_alone_of_asking sigil found asking
      refine ⟨rejected, ?_⟩
      rw [rejected]
      rfl
  · intro unbroken absent
    rw [ofLine_alone_of_unregistered sigil unbroken (absence.mp absent)]
    rfl
  · intro ownName arguments asked
    have explains := Command.explains_helpText table name
    refine ⟨helpText table.catalogue name, ?_, ?_, ?_, ?_⟩
    · rw [Builtin.run, asked]
    · rw [absence]
      exact explains.not_found_iff
    · exact explains.undescribed_iff
    · intro entry found descriptor registered nonempty
      exact explains.eq_of_described found registered nonempty

/-- A command that is registered again without a descriptor loses its
description and may be called alone, others keep theirs, and a name that no
line can spell is nowhere to be found. -/
theorem views_agree_registeredAgain :
    let table := (Table.empty.operateAll
      [.installDemo, .registerDescribed "man" (Builtin.help "man").run
        ⟨"Shows descriptions.", 0⟩, .register "join" Builtin.leave.run]).table
    Statement.ofLine table '!' "!join" =
        .call "join" Builtin.leave.run [] ∧
      (Statement.ofLine table '!' "!add").reason? =
        some "not enough arguments" ∧
      (Statement.ofLine table '!' "!a-b").reason? =
        some "command not found" ∧
      (Builtin.help "man").run ⟨'!', table.catalogue⟩ ["join", "more"] =
        .ok (.text "No description provided for join") ∧
      (Builtin.help "man").run ⟨'!', table.catalogue⟩ [] =
        .ok (.text "Help for man:\n\nShows descriptions.") ∧
      ∃ rest, (Builtin.help "man").run ⟨'!', table.catalogue⟩ ["a-b"] =
        .ok (.text ("Can't find a command named" ++ rest)) := by
  intro table
  have agree := views_agree
    [.installDemo, .registerDescribed "man" (Builtin.help "man").run
      ⟨"Shows descriptions.", 0⟩, .register "join" Builtin.leave.run] '!'
  obtain ⟨-, -, joinLine, -, joinHelp⟩ := agree "join"
  obtain ⟨-, -, addLine, -, -⟩ := agree "add"
  obtain ⟨-, -, -, -, manHelp⟩ := agree "man"
  obtain ⟨-, -, -, strangeLine, strangeHelp⟩ := agree "a-b"
  have join : table.find? "join" = some ⟨Builtin.leave.run, none⟩ := rfl
  have man : table.find? "man" = some ⟨(Builtin.help "man").run,
      some ⟨"Shows descriptions.", 0⟩⟩ := rfl
  have absent : "a-b" ∉ table.names := by
    decide
  have unbroken : ∀ c ∈ ['a', '-', 'b'], Text.isWhiteSpace c = false := by
    simp only [List.forall_mem_cons]
    exact ⟨rfl, rfl, rfl, List.forall_mem_nil _⟩
  refine ⟨(joinLine _ join).1 rfl, ((addLine _ rfl).2 (by decide)).2,
    strangeLine unbroken absent, ?_, ?_, ?_⟩
  · obtain ⟨text, replied, -, undescribed, -⟩ :=
      joinHelp "man" ["join", "more"] rfl
    rw [replied, undescribed.mpr ⟨_, join, nofun⟩]
    rfl
  · obtain ⟨text, replied, -, -, described⟩ := manHelp "man" [] rfl
    rw [replied, described _ man _ rfl (by decide)]
    rfl
  · obtain ⟨text, replied, unknown, -, -⟩ := strangeHelp "man" ["a-b"] rfl
    obtain ⟨rest, same⟩ := unknown.mpr absent
    exact ⟨rest, same ▸ replied⟩

end LineShell
