import LineShell.Proofs.Command.Installed

/-!
# Accounts of registrations

Programs fill a table by single registrations and by the two installers, in
any order and any number of times.  Every operation comes down to the
registrations that it makes (`operateAll_eq_submitAll`), each of which meets
the table that the ones before it have left.  What is reported is what each of
them owes at its moment and nothing else (`reported_submit`), so the reports
can be counted against the table.
-/

namespace LineShell.Command

/-- What a program may do to a table. -/
inductive Operation where
  | register (name : String) (handler : Handler)
  | registerDescribed (name : String) (handler : Handler)
      (descriptor : Descriptor)
  | installBuiltins (switches : BuiltinSwitches)
  | installDemo

/-- A single registration that is asked for, by an installer for a command of
the shell's own or else by the program. -/
structure Submission where
  request : Request
  own : Bool

/-- The registrations that an operation consists of. -/
def Operation.submissions : Operation → List Submission
  | .register name handler => [⟨⟨name, handler, none⟩, false⟩]
  | .registerDescribed name handler descriptor =>
      [⟨⟨name, handler, some descriptor⟩, false⟩]
  | .installBuiltins switches =>
      switches.commands.map fun item => ⟨item.request, true⟩
  | .installDemo => demoCommands.map fun item => ⟨item.request, true⟩

/-- The registrations that operations consist of. -/
def submissionsOf (operations : List Operation) : List Submission :=
  operations.flatMap Operation.submissions

/-- A submission and the table that it meets. -/
structure Moment where
  submission : Submission
  table : Table

namespace Moment

def name (moment : Moment) : String :=
  moment.submission.request.name

/-- Whether a line can spell the name. -/
def isValid (moment : Moment) : Bool :=
  decide (Spellable moment.name)

/-- Whether the table already holds a command of the name. -/
def isTaken (moment : Moment) : Bool :=
  moment.table.contains moment.name

end Moment

/-- What may be reported about a submission. -/
inductive Remark where
  | registered
  | overridden
  | rejected
  | replaced
  deriving DecidableEq, Repr

namespace Remark

def level : Remark → Level
  | .registered | .overridden => .debug
  | .rejected | .replaced => .warn

def message : Remark → String
  | .registered => "Command registered"
  | .overridden => "Command overridden"
  | .rejected => "Rejected command registration: invalid name"
  | .replaced => "Built-in command replaced an existing command"

/-- Whether a remark is owed at a moment. -/
def isDue : Remark → Moment → Bool
  | .registered, moment => moment.isValid && !moment.isTaken
  | .overridden, moment => moment.isValid && moment.isTaken
  | .rejected, moment => !moment.isValid
  | .replaced, moment =>
      moment.submission.own && (moment.isValid && moment.isTaken)

/-- Whether an event makes a remark. -/
def isMadeBy (remark : Remark) (event : Event) : Bool :=
  event.level = remark.level && event.message = remark.message

end Remark

/-- All that is reported at a moment. -/
inductive Reported (moment : Moment) : List Event → Prop where
  | rejected : ¬Spellable moment.name →
      Reported moment [.nameRejected moment.name]
  | registered : Spellable moment.name →
      moment.table.contains moment.name = false →
      Reported moment [.registered moment.name]
  | overridden : moment.table.contains moment.name = true →
      moment.submission.own = false →
      Reported moment [.overridden moment.name]
  | replaced : moment.table.contains moment.name = true →
      moment.submission.own = true →
      Reported moment
        [.overridden moment.name, .builtinReplaced moment.name]

/-- A command that is installed with given switches. -/
inductive Enabled (switches : BuiltinSwitches) : Installable → Prop where
  | help : switches.help = true → Enabled switches .help
  | exit : switches.exit = true → Enabled switches .exit
  | quit : switches.quit = true → Enabled switches .quit

/-- Installing a group of commands puts their entries into a table and leaves
the other entries alone. -/
structure Installs (group : Installable → Prop) (before after : Table) :
    Prop where
  entries : ∀ item, group item →
    after.find? item.name = some ⟨item.command.run, some item.descriptor⟩
  others : ∀ name, (∀ item, group item → item.name ≠ name) →
    after.find? name = before.find? name

namespace Table

/-- Carries out one operation. -/
def operate (table : Table) : Operation → Installation
  | .register name handler =>
      let registration := table.register name ⟨handler, none⟩
      ⟨registration.table, [registration.event]⟩
  | .registerDescribed name handler descriptor =>
      let registration := table.register name ⟨handler, some descriptor⟩
      ⟨registration.table, [registration.event]⟩
  | .installBuiltins switches => table.installBuiltins switches
  | .installDemo => table.installDemo

/-- Carries out operations, one after the other. -/
def operateAll (table : Table) : List Operation → Installation
  | [] => ⟨table, []⟩
  | operation :: rest =>
      let first := table.operate operation
      let later := first.table.operateAll rest
      ⟨later.table, first.events ++ later.events⟩

/-- Makes one registration. -/
def submit (table : Table) (submission : Submission) : Installation :=
  let registration :=
    table.register submission.request.name submission.request.entry
  { table := registration.table
    events := registration.event ::
      (if submission.own && registration.overridden then
        [.builtinReplaced submission.request.name] else []) }

/-- Makes registrations, one after the other. -/
def submitAll (table : Table) : List Submission → Installation
  | [] => ⟨table, []⟩
  | submission :: rest =>
      let first := table.submit submission
      let later := first.table.submitAll rest
      ⟨later.table, first.events ++ later.events⟩

/-- Submissions, each with the table that the ones before it have left. -/
def moments (table : Table) : List Submission → List Moment
  | [] => []
  | submission :: rest =>
      ⟨submission, table⟩ :: (table.submit submission).table.moments rest

section Operations

variable (table : Table)

theorem submitAll_append (earlier later : List Submission) :
    table.submitAll (earlier ++ later) =
      ⟨((table.submitAll earlier).table.submitAll later).table,
        (table.submitAll earlier).events ++
          ((table.submitAll earlier).table.submitAll later).events⟩ := by
  induction earlier generalizing table with
  | nil => rfl
  | cons submission earlier ih => simp [submitAll, ih]

theorem install_eq_submitAll (items : List Installable) :
    table.install items =
      table.submitAll (items.map fun item => ⟨item.request, true⟩) := by
  induction items generalizing table with
  | nil => rfl
  | cons item rest ih =>
      have first : table.installOne item =
          table.submit ⟨item.request, true⟩ := by
        simp [installOne, submit, Installable.request]
      rw [install, List.map_cons, submitAll, first, ih]

theorem operate_eq_submitAll (operation : Operation) :
    table.operate operation = table.submitAll operation.submissions := by
  cases operation with
  | register name handler => rfl
  | registerDescribed name handler descriptor => rfl
  | installBuiltins switches => exact table.install_eq_submitAll _
  | installDemo => exact table.install_eq_submitAll _

theorem operateAll_eq_submitAll (operations : List Operation) :
    table.operateAll operations =
      table.submitAll (submissionsOf operations) := by
  induction operations generalizing table with
  | nil => rfl
  | cons operation rest ih =>
      rw [operateAll, operate_eq_submitAll, submissionsOf, List.flatMap_cons,
        submitAll_append, ih, submissionsOf]

theorem table_submitAll (submissions : List Submission) :
    (table.submitAll submissions).table =
      table.replay (submissions.map Submission.request) := by
  induction submissions generalizing table with
  | nil => rfl
  | cons submission rest ih => exact ih _

theorem length_moments (submissions : List Submission) :
    (table.moments submissions).length = submissions.length := by
  induction submissions generalizing table with
  | nil => rfl
  | cons submission rest ih => exact congrArg (· + 1) (ih _)

theorem getElem?_moments (submissions : List Submission) (position : Nat) :
    (table.moments submissions)[position]? =
      submissions[position]?.map fun submission =>
        ⟨submission, table.replay
          ((submissions.take position).map Submission.request)⟩ := by
  induction submissions generalizing table position with
  | nil => rfl
  | cons submission rest ih =>
      cases position with
      | zero => rfl
      | succ position => simp [moments, ih, replay, submit]

end Operations

/-- A name is taken if it is valid and an earlier submission has asked for
it. -/
theorem isTaken_iff {submissions : List Submission} {position : Nat}
    {moment : Moment}
    (found : (empty.moments submissions)[position]? = some moment) :
    moment.isTaken = true ↔ moment.isValid = true ∧
      ∃ earlier ∈ submissions.take position,
        earlier.request.name = moment.name := by
  rw [getElem?_moments, Option.map_eq_some_iff] at found
  obtain ⟨submission, -, rfl⟩ := found
  rw [Moment.isTaken, contains_replay_iff, Moment.isValid, decide_eq_true_iff]
  refine and_congr_right fun _ => ?_
  constructor
  · rintro ⟨request, made, same⟩
    obtain ⟨earlier, member, rfl⟩ := List.mem_map.mp made
    exact ⟨earlier, member, same⟩
  · rintro ⟨earlier, member, same⟩
    exact ⟨earlier.request, List.mem_map_of_mem member, same⟩

end Table

section Reports

variable {moment : Moment} {events : List Event}

theorem Moment.isValid_of_isTaken (taken : moment.isTaken = true) :
    moment.isValid = true :=
  decide_eq_true (moment.table.spellable_of_contains taken)

theorem Table.reported_submit (table : Table) (submission : Submission) :
    Reported ⟨submission, table⟩ (table.submit submission).events := by
  obtain ⟨⟨name, entry⟩, own⟩ := submission
  by_cases spellable : Spellable name
  · have valid : isName name = true := isName_iff_spellable.mpr spellable
    cases taken : table.contains name with
    | false =>
        have events : (table.submit ⟨⟨name, entry⟩, own⟩).events =
            [.registered name] := by
          simp [Table.submit, Table.register, valid, taken]
        exact events ▸ .registered spellable taken
    | true =>
        cases own with
        | false =>
            have events : (table.submit ⟨⟨name, entry⟩, false⟩).events =
                [.overridden name] := by
              simp [Table.submit, Table.register, valid, taken]
            exact events ▸ .overridden taken rfl
        | true =>
            have events : (table.submit ⟨⟨name, entry⟩, true⟩).events =
                [.overridden name, .builtinReplaced name] := by
              simp [Table.submit, Table.register, valid, taken]
            exact events ▸ .replaced taken rfl
  · have invalid : ¬isName name = true := by rwa [isName_iff_spellable]
    have events : (table.submit ⟨⟨name, entry⟩, own⟩).events =
        [.nameRejected name] := by
      simp [Table.submit, Table.register, invalid]
    exact events ▸ .rejected spellable

theorem reported_submitAll (table : Table) (submissions : List Submission) :
    ∃ reports,
      List.Forall₂ Reported (table.moments submissions) reports ∧
        (table.submitAll submissions).events = reports.flatten := by
  induction submissions generalizing table with
  | nil => exact ⟨[], .nil, rfl⟩
  | cons submission rest ih =>
      obtain ⟨reports, reported, events⟩ :=
        ih (table.submit submission).table
      refine ⟨_ :: reports, .cons (table.reported_submit submission) reported,
        ?_⟩
      rw [Table.submitAll, events, List.flatten_cons]

theorem countP_of_reported (reported : Reported moment events)
    (remark : Remark) :
    events.countP remark.isMadeBy = if remark.isDue moment then 1 else 0 := by
  cases reported with
  | rejected unspellable =>
      have valid : moment.isValid = false := decide_eq_false unspellable
      cases remark <;>
        simp only [Remark.isDue, valid, Bool.false_and, Bool.and_false] <;> rfl
  | registered spellable absent =>
      have valid : moment.isValid = true := decide_eq_true spellable
      have taken : moment.isTaken = false := absent
      cases remark <;>
        simp only [Remark.isDue, valid, taken, Bool.and_false] <;> rfl
  | overridden taken foreign =>
      have taken : moment.isTaken = true := taken
      have valid := moment.isValid_of_isTaken taken
      cases remark <;> simp only [Remark.isDue, valid, taken, foreign] <;> rfl
  | replaced taken own =>
      have taken : moment.isTaken = true := taken
      have valid := moment.isValid_of_isTaken taken
      cases remark <;> simp only [Remark.isDue, valid, taken, own] <;> rfl

theorem countP_submitAll (table : Table) (submissions : List Submission)
    (remark : Remark) :
    (table.submitAll submissions).events.countP remark.isMadeBy =
      (table.moments submissions).countP remark.isDue := by
  induction submissions generalizing table with
  | nil => rfl
  | cons submission rest ih =>
      rw [Table.submitAll, Table.moments, List.countP_append,
        List.countP_cons, ih, Nat.add_comm,
        countP_of_reported (table.reported_submit submission)]

theorem Moment.due_partition (moment : Moment) :
    [Remark.registered, .overridden, .rejected].countP (·.isDue moment) =
      1 := by
  cases valid : moment.isValid <;> cases taken : moment.isTaken <;>
    simp [Remark.isDue, valid, taken]

theorem countP_due_partition (moments : List Moment) :
    moments.countP Remark.registered.isDue +
        moments.countP Remark.overridden.isDue +
          moments.countP Remark.rejected.isDue =
      moments.length := by
  induction moments with
  | nil => rfl
  | cons moment rest ih =>
      have one := moment.due_partition
      simp only [List.countP_cons, List.countP_nil] at one ⊢
      rw [List.length_cons]
      omega

end Reports

theorem enabled_iff {switches : BuiltinSwitches} {item : Installable} :
    Enabled switches item ↔ item ∈ switches.commands := by
  rw [mem_commands_iff]
  constructor
  · intro enabled
    cases enabled with
    | help on => exact .inl ⟨on, rfl⟩
    | exit on => exact .inr (.inl ⟨on, rfl⟩)
    | quit on => exact .inr (.inr ⟨on, rfl⟩)
  · rintro (⟨on, rfl⟩ | ⟨on, rfl⟩ | ⟨on, rfl⟩)
    · exact .help on
    · exact .exit on
    · exact .quit on

theorem nodup_names_groups (switches : BuiltinSwitches) :
    (switches.commands.map Installable.name ++
      demoCommands.map Installable.name).Nodup := by
  rw [← List.map_append]
  exact nodup_names_shipped switches

namespace Table

section Sizes

variable (table : Table)

theorem size_put {name : String} (entry : Entry)
    (valid : isName name = true) :
    (table.put name entry valid).size =
      table.size + if table.contains name then 0 else 1 :=
  length_putNamed table.ordered

theorem size_submit (submission : Submission) :
    (table.submit submission).table.size =
      table.size +
        if Remark.registered.isDue ⟨submission, table⟩ then 1 else 0 := by
  obtain ⟨⟨name, entry⟩, own⟩ := submission
  by_cases spellable : Spellable name
  · have valid : isName name = true := isName_iff_spellable.mpr spellable
    rw [submit, register, dif_pos valid]
    change (table.put name entry valid).size = _
    cases taken : table.contains name <;>
      simp [size_put, Remark.isDue, Moment.isValid, Moment.isTaken,
        Moment.name, spellable, taken]
  · rw [submit, table.register_of_not_spellable entry spellable]
    simp [Remark.isDue, Moment.isValid, Moment.name, spellable]

/-- A table grows by the submissions that are registered anew. -/
theorem size_submitAll (submissions : List Submission) :
    (table.submitAll submissions).table.size =
      table.size +
        (table.moments submissions).countP Remark.registered.isDue := by
  induction submissions generalizing table with
  | nil => rfl
  | cons submission rest ih =>
      rw [submitAll, moments, ih, size_submit, List.countP_cons]
      omega

end Sizes

section Installers

variable {table : Table} {items : List Installable}

/-- Whatever a table holds, installing commands with different names puts all
of them into it. -/
theorem installs_install (distinct : (items.map Installable.name).Nodup)
    (spellable : ∀ item ∈ items, Spellable item.name) :
    Installs (· ∈ items) table (table.install items).table where
  entries item member := by
    have requested : LastRequest (items.map Installable.request) item.name
        item.entry := by
      rw [lastRequest_iff_mem (by rwa [List.map_map])]
      exact List.mem_map_of_mem member
    rw [table_install]
    exact find?_replay_of_lastRequest (spellable item member) requested
  others name absent := by
    rw [table_install]
    apply find?_replay_of_absent
    simpa [Installable.request] using absent

variable (table)

theorem installs_builtins (switches : BuiltinSwitches) :
    Installs (Enabled switches) table
      (table.installBuiltins switches).table := by
  have distinct := (List.nodup_append.mp (nodup_names_groups switches)).1
  have installs : Installs (· ∈ switches.commands) table
      (table.installBuiltins switches).table :=
    installs_install distinct fun item member =>
      spellable_of_shipped (mem_shipped_iff.mpr (.inl member))
  simpa only [← enabled_iff] using installs

theorem installs_demo :
    Installs (· ∈ demoCommands) table table.installDemo.table :=
  installs_install (by decide) fun item member =>
    @spellable_of_shipped .all item (mem_shipped_iff.mpr (.inr member))

end Installers

end Table

section Groups

variable {group further : Installable → Prop}
  {before middle after other : Table}

theorem Installs.unique (installs : Installs group before after)
    (again : Installs group before other) : after = other := by
  apply Table.eq_of_find?_eq
  intro name
  by_cases named : ∃ item, group item ∧ item.name = name
  · obtain ⟨item, member, rfl⟩ := named
    rw [installs.entries item member, again.entries item member]
  · have absent : ∀ item, group item → item.name ≠ name :=
      fun item member same => named ⟨item, member, same⟩
    rw [installs.others name absent, again.others name absent]

theorem Installs.repeated (installs : Installs group before after)
    (again : Installs group after other) : other = after :=
  again.unique ⟨installs.entries, fun _ _ => rfl⟩

theorem Installs.append
    (foreign : ∀ item, group item → ∀ later, further later →
      later.name ≠ item.name)
    (first : Installs group before middle)
    (second : Installs further middle after) :
    Installs (fun item => group item ∨ further item) before after where
  entries item member := by
    rcases member with early | late
    · rw [second.others _ (foreign item early)]
      exact first.entries item early
    · exact second.entries item late
  others name absent := by
    rw [second.others name fun item member => absent item (.inr member),
      first.others name fun item member => absent item (.inl member)]

theorem foreign_demo {switches : BuiltinSwitches} {item demo : Installable}
    (enabled : Enabled switches item) (member : demo ∈ demoCommands) :
    demo.name ≠ item.name := by
  obtain ⟨-, -, apart⟩ := List.nodup_append.mp (nodup_names_groups switches)
  exact (apart _ (List.mem_map_of_mem (enabled_iff.mp enabled)) _
    (List.mem_map_of_mem member)).symm

end Groups

namespace Table

theorem table_installDemo_installBuiltins (table : Table)
    (switches : BuiltinSwitches) :
    (table.installDemo.table.installBuiltins switches).table =
      (table.installBuiltins switches).table.installDemo.table := by
  have demoFirst := Installs.append
    (fun demo member item enabled => (foreign_demo enabled member).symm)
    table.installs_demo (table.installDemo.table.installs_builtins switches)
  have builtinsFirst := Installs.append
    (fun item enabled demo member => foreign_demo enabled member)
    (table.installs_builtins switches)
    (table.installBuiltins switches).table.installs_demo
  have same : (fun item => item ∈ demoCommands ∨ Enabled switches item) =
      fun item => Enabled switches item ∨ item ∈ demoCommands :=
    funext fun _ => propext or_comm
  exact (same ▸ demoFirst).unique builtinsFirst

/-- The reports about registrations of any kind account for the table: what is
reported is what every registration owes at its moment, each is registered
anew, takes the place of a command or is rejected, and those registered anew
make up the table.  The installers put the commands of the shell's own into
any table and change nothing else, however often and in whatever order. -/
theorem registration_accounting (operations : List Operation) :
    (∃ reports,
      List.Forall₂ Reported (empty.moments (submissionsOf operations))
        reports ∧
      (empty.operateAll operations).events = reports.flatten) ∧
      (∀ position, (empty.moments (submissionsOf operations))[position]? =
        (submissionsOf operations)[position]?.map fun submission =>
          Moment.mk submission (empty.submitAll
            ((submissionsOf operations).take position)).table) ∧
      (∀ position moment,
        (empty.moments (submissionsOf operations))[position]? = some moment →
          (moment.isTaken = true ↔ moment.isValid = true ∧
            ∃ earlier ∈ (submissionsOf operations).take position,
              earlier.request.name = moment.name)) ∧
      (∀ remark, (empty.operateAll operations).events.countP
          (Remark.isMadeBy remark) =
        (empty.moments (submissionsOf operations)).countP remark.isDue) ∧
      (empty.operateAll operations).events.countP
          Remark.registered.isMadeBy =
        (empty.operateAll operations).table.size ∧
      (∀ moment, [Remark.registered, .overridden, .rejected].countP
        (Remark.isDue · moment) = 1) ∧
      (empty.operateAll operations).events.countP
            Remark.registered.isMadeBy +
          (empty.operateAll operations).events.countP
            Remark.overridden.isMadeBy +
          (empty.operateAll operations).events.countP
            Remark.rejected.isMadeBy =
        (submissionsOf operations).length ∧
      ∀ (table : Table) (switches : BuiltinSwitches),
        Installs (Enabled switches) table
            (table.operate (.installBuiltins switches)).table ∧
          Installs (· ∈ [.echo, .concat, .join, .add]) table
            (table.operate .installDemo).table ∧
          (table.operateAll
            [.installBuiltins switches, .installBuiltins switches]).table =
            (table.operate (.installBuiltins switches)).table ∧
          (table.operateAll [.installDemo, .installDemo]).table =
            (table.operate .installDemo).table ∧
          (table.operateAll [.installDemo, .installBuiltins switches]).table =
            (table.operateAll
              [.installBuiltins switches, .installDemo]).table := by
  rw [operateAll_eq_submitAll]
  have counts : ∀ remark,
      (empty.submitAll (submissionsOf operations)).events.countP
          (Remark.isMadeBy remark) =
        (empty.moments (submissionsOf operations)).countP remark.isDue :=
    countP_submitAll empty _
  refine ⟨reported_submitAll empty _, ?_, ?_, counts, ?_,
    Moment.due_partition, ?_, ?_⟩
  · intro position
    simp only [table_submitAll]
    exact getElem?_moments empty _ position
  · exact fun position moment => isTaken_iff
  · rw [counts, size_submitAll]
    exact (Nat.zero_add _).symm
  · rw [counts, counts, counts, countP_due_partition, length_moments]
  · intro table switches
    have builtins := table.installs_builtins switches
    have demo := table.installs_demo
    refine ⟨builtins, demo, ?_, ?_, ?_⟩
    · exact builtins.repeated (installs_builtins _ switches)
    · exact demo.repeated (installs_demo _)
    · exact table.table_installDemo_installBuiltins switches

theorem registration_accounting_demoTwice :
    (empty.operateAll [.register "echo" Builtin.leave.run,
      .register "a-b" Builtin.leave.run, .installDemo,
      .installDemo]).table.size = 4 := by
  obtain ⟨-, -, -, -, size, -⟩ := registration_accounting _
  rw [← size]
  decide

end Table

end LineShell.Command
