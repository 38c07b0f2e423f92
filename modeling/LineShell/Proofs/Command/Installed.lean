import LineShell.Proofs.Command.History

/-!
# The commands that come with the shell

The two groups of commands have different names, so installing them, with any
switches, leaves a table that holds exactly the commands wanted
(`find?_installed_eq_some_iff`).  Of all these commands only two can fail, and
joining does not where its descriptor is heeded.
-/

namespace LineShell.Command

/-- The request that installing a command makes. -/
def Installable.request (item : Installable) : Request :=
  ⟨item.name, item.entry⟩

/-- The commands that come with the shell, in the order in which they are
installed. -/
def shipped (switches : BuiltinSwitches) : List Installable :=
  switches.commands ++ demoCommands

/-- If no name is asked for twice, every request is the last for its name. -/
theorem lastRequest_iff_mem {history : List Request}
    (distinct : (history.map Request.name).Nodup) {name : String}
    {entry : Entry} :
    LastRequest history name entry ↔ ⟨name, entry⟩ ∈ history := by
  constructor
  · rintro ⟨earlier, later, rfl, -⟩
    simp
  · intro member
    obtain ⟨earlier, later, rfl⟩ := List.append_of_mem member
    refine ⟨earlier, later, rfl, ?_⟩
    rw [List.map_append, List.map_cons, List.nodup_append] at distinct
    have others := (List.nodup_cons.mp distinct.2.1).1
    intro request member same
    have again : request.name ∈ later.map Request.name :=
      List.mem_map_of_mem member
    exact others (same ▸ again)

namespace Table

theorem table_install (table : Table) (items : List Installable) :
    (table.install items).table =
      table.replay (items.map Installable.request) := by
  induction items generalizing table with
  | nil => rfl
  | cons item rest ih => exact ih _

/-- The table of a program that is given switches. -/
def installed (switches : BuiltinSwitches) : Table :=
  ((empty.installBuiltins switches).table.installDemo).table

theorem installed_eq_replay (switches : BuiltinSwitches) :
    installed switches =
      empty.replay ((shipped switches).map Installable.request) := by
  rw [installed, installDemo, installBuiltins, table_install, table_install,
    shipped, List.map_append, replay_append]

end Table

section Shipped

variable {switches : BuiltinSwitches} {item : Installable}

theorem mem_commands_iff :
    item ∈ switches.commands ↔
      switches.help = true ∧ item = .help ∨
        switches.exit = true ∧ item = .exit ∨
          switches.quit = true ∧ item = .quit := by
  simp [BuiltinSwitches.commands]

theorem mem_shipped_iff :
    item ∈ shipped switches ↔
      item ∈ switches.commands ∨ item ∈ demoCommands :=
  List.mem_append

theorem exit_mem_shipped_iff :
    .exit ∈ shipped switches ↔ switches.exit = true := by
  have foreign : Installable.exit ∉ demoCommands := by decide
  have other : Installable.exit ≠ .help ∧ Installable.exit ≠ .quit := by decide
  simp [mem_shipped_iff, mem_commands_iff, foreign, other]

theorem quit_mem_shipped_iff :
    .quit ∈ shipped switches ↔ switches.quit = true := by
  have foreign : Installable.quit ∉ demoCommands := by decide
  have other : Installable.quit ≠ .help ∧ Installable.quit ≠ .exit := by decide
  simp [mem_shipped_iff, mem_commands_iff, foreign, other]

theorem mem_shipped_all (member : item ∈ shipped switches) :
    item ∈ shipped .all := by
  rw [mem_shipped_iff, mem_commands_iff] at member ⊢
  refine member.imp_left ?_
  rintro (⟨-, help⟩ | ⟨-, exit⟩ | ⟨-, quit⟩)
  · exact .inl ⟨rfl, help⟩
  · exact .inr (.inl ⟨rfl, exit⟩)
  · exact .inr (.inr ⟨rfl, quit⟩)

theorem nodup_names_shipped (switches : BuiltinSwitches) :
    ((shipped switches).map Installable.name).Nodup := by
  obtain ⟨help, exit, quit⟩ := switches
  cases help <;> cases exit <;> cases quit <;> decide

theorem spellable_of_shipped (member : item ∈ shipped switches) :
    Spellable item.name := by
  have named : ∀ item ∈ shipped .all, isName item.name = true := by decide
  exact isName_iff_spellable.mp (named item (mem_shipped_all member))

/-- The table holds the commands that are wanted, and nothing else. -/
theorem find?_installed_eq_some_iff {name : String} {entry : Entry} :
    (Table.installed switches).find? name = some entry ↔
      ∃ item ∈ shipped switches, item.name = name ∧ item.entry = entry := by
  have distinct : (((shipped switches).map Installable.request).map
      Request.name).Nodup := by
    rw [List.map_map]
    exact nodup_names_shipped switches
  rw [Table.installed_eq_replay, Table.find?_replay_eq_some_iff,
    lastRequest_iff_mem distinct, List.mem_map]
  constructor
  · rintro ⟨-, item, member, same⟩
    cases same
    exact ⟨item, member, rfl, rfl⟩
  · rintro ⟨item, member, rfl, rfl⟩
    exact ⟨spellable_of_shipped member, item, member, rfl⟩

end Shipped

section Running

variable {command : Builtin} {context : Context} {arguments : List String}
  {failure : Failure}

theorem Builtin.run_eq_error_iff :
    command.run context arguments = .error failure ↔
      command = .join ∧ arguments = [] ∧ failure = delimiterMissing ∨
        command = .add ∧ addArguments 0 arguments = .error failure := by
  cases command with
  | joinWith | help | leave => simp [run]
  | join => cases arguments <;> simp [run, eq_comm]
  | add => cases sum : addArguments 0 arguments <;> simp [run, sum, Except.map]

theorem Builtin.run_eq_leave_iff :
    command.run context arguments = .ok .leave ↔ command = .leave := by
  cases command with
  | joinWith | help | leave => simp [run]
  | join => cases arguments <;> simp [run]
  | add => cases sum : addArguments 0 arguments <;> simp [run, sum, Except.map]

variable {switches : BuiltinSwitches} {item : Installable}
  (member : item ∈ shipped switches)

include member

/-- With as many arguments as it asks for, a command fails exactly if it is the
one that adds and its sum fails. -/
theorem run_shipped_eq_error_iff
    (enough : item.descriptor.minArguments ≤ arguments.length) :
    item.command.run context arguments = .error failure ↔
      item = .add ∧ addArguments 0 arguments = .error failure := by
  have adds : ∀ item ∈ shipped .all, item.command = .add ↔ item = .add := by
    decide
  have joins : ∀ item ∈ shipped .all, item.command = .join →
      0 < item.descriptor.minArguments := by
    decide
  rw [Builtin.run_eq_error_iff, adds item (mem_shipped_all member)]
  refine or_iff_right ?_
  rintro ⟨join, rfl, -⟩
  have asked := joins item (mem_shipped_all member) join
  exact absurd enough (Nat.not_le.mpr asked)

theorem run_shipped_eq_leave_iff :
    item.command.run context arguments = .ok .leave ↔
      item = .exit ∨ item = .quit := by
  have leaves : ∀ item ∈ shipped .all,
      item.command = .leave ↔ item = .exit ∨ item = .quit := by
    decide
  rw [Builtin.run_eq_leave_iff, leaves item (mem_shipped_all member)]

end Running

end LineShell.Command
