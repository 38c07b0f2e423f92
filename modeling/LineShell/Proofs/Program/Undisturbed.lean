import LineShell.Proofs.Log.Opening
import LineShell.Proofs.Program.Course

/-!
# What a log leaves undisturbed

Whatever lies apart from a log stays as it is while the log is opened and
written (`Machine.Undisturbed`).  So the program finds its settings and its
script as if there were no log, and what it shows follows from these and from
its input alone (`Surroundings.visible_run`).
-/

namespace LineShell.Program

open CommandLine (InputChoice LogChoice Options SessionSettings)
open Files (Apart FileTree Place Straight)
open Input (Outcome Source)
open Log (Filter)
open Text (Bytes)

/-- What can be seen of a run from outside, besides its reports and files. -/
structure Visible where
  output : Bytes
  code : Nat

def Report.visible (report : Report) : Visible :=
  ⟨report.machine.output, report.code⟩

namespace Machine

section Records

variable {machine : Machine} {events : List Event}

theorem recordAll_of_log {log : Place} (opened : machine.log = some log) :
    machine.recordAll events =
      { machine with
        files := machine.files.append log
          (Text.encode (machine.records events)) } := by
  simp only [recordAll, opened]

theorem recordAll_of_no_log (closed : machine.log = none) :
    machine.recordAll events =
      { machine with
        errorOutput := machine.errorOutput ++ machine.records events } := by
  simp only [recordAll, closed]

end Records

theorem openLog_of_failed {path : String} {failure : Failure}
    (machine : Machine)
    (failed : (Log.openLog machine.files path).result = .error failure) :
    machine.openLog path =
      ({ machine with files := (Log.openLog machine.files path).tree },
        .error failure) := by
  unfold openLog
  split
  · rename_i tree log shape
    rw [shape] at failed
    cases failed
  · rename_i tree later shape
    rw [shape] at failed ⊢
    cases failed
    rfl

/-- The machine has left a place of the given files as it is, and its log lies
apart from it. -/
structure Undisturbed (place : Place) (files : FileTree) (machine : Machine) :
    Prop where
  same : files.SameAt place machine.files
  apart : ∀ log, machine.log = some log → Apart log place

section Undisturbed

variable {place : Place} {files : FileTree} {machine : Machine}

theorem Undisturbed.recordAll (undisturbed : machine.Undisturbed place files)
    (events : List Event) :
    (machine.recordAll events).Undisturbed place files := by
  cases opened : machine.log with
  | none =>
      rw [recordAll_of_no_log opened]
      exact ⟨undisturbed.same, undisturbed.apart⟩
  | some log =>
      have apart := undisturbed.apart log opened
      rw [recordAll_of_log opened]
      exact ⟨undisturbed.same.trans (FileTree.sameAt_append _ apart),
        undisturbed.apart⟩

theorem Undisturbed.foldl_record {events : List Event}
    (undisturbed : machine.Undisturbed place files) :
    (events.foldl record machine).Undisturbed place files := by
  induction events generalizing machine with
  | nil => exact undisturbed
  | cons event events ih => exact ih (undisturbed.recordAll [event])

theorem Undisturbed.openLog {path : String}
    (undisturbed : machine.Undisturbed place files)
    (level : ".." ∉ files.current) (straight : Straight path)
    (apart : Apart (files.place path) place) :
    (machine.openLog path).1.Undisturbed place files := by
  have current := undisturbed.same.current
  rw [← FileTree.place_congr current] at apart
  obtain ⟨same, opened⟩ :=
    Log.openLog_frame (current ▸ level) straight apart
  unfold Machine.openLog
  split
  · rename_i tree log shape
    rw [shape] at same opened
    refine ⟨undisturbed.same.trans same, ?_⟩
    intro log there
    cases there
    exact opened log rfl ▸ apart
  · rename_i tree failure shape
    rw [shape] at same
    exact ⟨undisturbed.same.trans same, undisturbed.apart⟩

variable {path : String} (level : ".." ∉ files.current)
  (straight : Straight path)
  (undisturbed : machine.Undisturbed (files.place path) files)

include level straight undisturbed

theorem Undisturbed.settingsFile_eq {before : Machine}
    (start : before.files = files) :
    machine.settingsFile path = before.settingsFile path := by
  subst start
  rcases FileTree.find_of_sameAt level straight undisturbed.same with
    ⟨node, found, again⟩ | ⟨error, later, missing, again⟩
  · simp only [settingsFile, found, again]
  · simp only [settingsFile, missing, again]

/-- A script can be opened exactly if it could be opened before, and holds the
same. -/
theorem Undisturbed.source_script_cases {before : Machine}
    (start : before.files = files) :
    (∃ source, before.source (.script path) = .ok source ∧
        machine.source (.script path) = .ok source) ∨
      ∃ failure later, before.source (.script path) = .error failure ∧
        machine.source (.script path) = .error later := by
  subst start
  rcases FileTree.find_of_sameAt level straight undisturbed.same with
    ⟨node, found, again⟩ | ⟨error, later, missing, again⟩
  · left
    cases node with
    | file content =>
        simp only [source, found, again]
        exact ⟨_, rfl, rfl⟩
    | directory entries =>
        simp only [source, found, again]
        exact ⟨_, rfl, rfl⟩
  · right
    simp only [source, missing, again]
    exact ⟨_, _, rfl, rfl⟩

end Undisturbed

end Machine

/-- The exit status that a session leads to. -/
def exitCode : Except Failure Outcome → Nat
  | .ok _ => 0
  | .error _ => 1

/-- What a program shows if there is nothing but its settings file and its
input. -/
def shown (options : Options) (path : String) (machine : Machine) : Visible :=
  match sessionSettings options path (machine.settingsFile path) with
  | .error _ => ⟨[], 1⟩
  | .ok settings =>
      match machine.source options.input with
      | .error _ => ⟨[], 1⟩
      | .ok source =>
          let transcript := (shell settings).runOn Input.reliable () source
          ⟨transcript.output, exitCode transcript.ending⟩

section Shown

variable {options : Options} {path : String} {machine : Machine}

theorem visible_stop (failure : Failure) (machine : Machine) :
    ((stop failure).carryOut machine).visible = ⟨machine.output, 1⟩ :=
  congrArg (Visible.mk · 1)
    (machine.sameStreams_record (.stopped failure)).output

theorem visible_conclude (ending : Except Failure Outcome)
    (machine : Machine) :
    ((conclude ending).carryOut machine).visible =
      ⟨machine.output, exitCode ending⟩ := by
  cases ending with
  | ok outcome =>
      exact congrArg (Visible.mk · 0)
        (machine.sameStreams_record (farewell outcome)).output
  | error failure => exact visible_stop failure machine

theorem visible_converse {shell : Shell} {input : InputChoice} :
    ((Plan.converse shell input conclude).carryOut machine).visible =
      match machine.source input with
      | .error _ => ⟨machine.output, 1⟩
      | .ok source =>
          let transcript := shell.runOn Input.reliable () source
          ⟨machine.output ++ transcript.output,
            exitCode transcript.ending⟩ := by
  rw [Plan.carryOut, visible_conclude]
  unfold Machine.converse
  cases machine.source input with
  | error failure => rfl
  | ok source =>
      dsimp only
      rw [(machine.sameStreams_recordAll _).output]

end Shown

namespace Surroundings

/-- A log is none of the files that the program reads, nor does it lie above or
below one of them. -/
structure LiesApart (surroundings : Surroundings) (options : Options)
    (log : String) : Prop where
  straight : Straight log
  settings : Apart (surroundings.files.place log) (surroundings.files.place
    (options.settingsPath surroundings.environment))
  script : ∀ path, options.input = .script path →
    Apart (surroundings.files.place log) (surroundings.files.place path)

/-- No path goes back, and a log lies apart from what the program reads or does
not open and leaves the files alone. -/
structure Separate (surroundings : Surroundings) (options : Options) :
    Prop where
  level : ".." ∉ surroundings.files.current
  settings : Straight (options.settingsPath surroundings.environment)
  script : ∀ path, options.input = .script path → Straight path
  log : ∀ log, options.logTarget surroundings.environment = .file log →
    surroundings.LiesApart options log ∨
      ∃ failure, Log.openLog surroundings.files log =
        ⟨surroundings.files, .error failure⟩

section Undisturbed

variable {surroundings : Surroundings} {options : Options}

theorem logging_of_failed {path : String} {failure : Failure}
    (target : options.logTarget surroundings.environment = .file path)
    (failed : (Log.openLog surroundings.files path).result =
      .error failure) :
    surroundings.logging options =
      { surroundings.machine with
        files := (Log.openLog surroundings.files path).tree
        errorOutput := "Warning: " ++ failure.display ++
          "; logging to stderr\n" } := by
  rw [logging, target]
  dsimp only
  rw [surroundings.machine.openLog_of_failed failed]
  exact congrArg _ (String.empty_append)

/-- A log disturbs nothing that it lies apart from. -/
theorem undisturbed_logging {place : Place}
    (separate : surroundings.Separate options)
    (apart : ∀ log, surroundings.LiesApart options log →
      Apart (surroundings.files.place log) place) :
    (surroundings.logging options).Undisturbed place surroundings.files := by
  have start : surroundings.machine.Undisturbed place surroundings.files :=
    ⟨.refl place _, nofun⟩
  cases target : options.logTarget surroundings.environment with
  | errorOutput =>
      rw [logging, target]
      exact start
  | file path =>
      rcases separate.log path target with lies | ⟨failure, failed⟩
      · have opened :=
          start.openLog separate.level lies.straight (apart path lies)
        rw [logging, target]
        dsimp only
        split
        · exact opened.recordAll [.loggingTo path]
        · exact ⟨opened.same, opened.apart⟩
      · rw [logging_of_failed target (congrArg Log.Opening.result failed),
          failed]
        exact ⟨start.same, start.apart⟩

theorem undisturbed_ready {place : Place} (settings : SessionSettings)
    (undisturbed :
      (surroundings.logging options).Undisturbed place surroundings.files) :
    ((surroundings.loading options).readied settings).Undisturbed place
      surroundings.files :=
  (undisturbed.recordAll [_]).foldl_record.recordAll [_]

variable (separate : surroundings.Separate options)

include separate

theorem settingsFile_loading :
    let path := options.settingsPath surroundings.environment
    (surroundings.loading options).settingsFile path =
      surroundings.machine.settingsFile path := by
  intro path
  have undisturbed := undisturbed_logging separate fun _ lies => lies.settings
  exact (undisturbed.recordAll [_]).settingsFile_eq separate.level
    separate.settings rfl

theorem source_ready (settings : SessionSettings) :
    let ready := (surroundings.loading options).readied settings
    (∃ source, surroundings.machine.source options.input = .ok source ∧
        ready.source options.input = .ok source) ∨
      ∃ failure later,
        surroundings.machine.source options.input = .error failure ∧
          ready.source options.input = .error later := by
  intro ready
  cases input : options.input with
  | standardInput =>
      have same := (surroundings.sameStreams_ready options settings).input
      exact .inl ⟨_, rfl, congrArg (Except.ok ∘ Source.ofBytes) same⟩
  | script path =>
      have undisturbed :=
        undisturbed_logging separate fun _ lies => lies.script path input
      exact (undisturbed_ready settings undisturbed).source_script_cases
        separate.level (separate.script path input) rfl

/-- A run shows what its settings file and its input lead to, whatever happens
to its log. -/
theorem visible_run
    (understood :
      CommandLine.read surroundings.arguments surroundings.environment =
        .ok options) :
    surroundings.run.visible =
      shown options (options.settingsPath surroundings.environment)
        surroundings.machine := by
  have quiet := (surroundings.leads_begin options).sameStreams.output
  rw [run, plan, understood, shown, ← settingsFile_loading separate]
  dsimp only
  rw [(surroundings.leads_begin options).carryOut, proceed]
  cases sessionSettings options _ _ with
  | error failure =>
      dsimp only
      rw [visible_stop, quiet]
      rfl
  | ok settings =>
      have written := (surroundings.sameStreams_ready options settings).output
      dsimp only
      rw [(leads_start settings options.input _).carryOut, visible_converse]
      rcases source_ready separate settings with
        ⟨source, opened, again⟩ | ⟨failure, later, closed, again⟩
      · rw [opened, again]
        exact congrArg (fun before => Visible.mk (before ++ _) _) written
      · rw [closed, again]
        exact congrArg (Visible.mk · 1) written

end Undisturbed

section TwoRuns

variable {one other : Surroundings} {options : Options} {choice : LogChoice}

theorem shown_congr (files : other.files = one.files)
    (input : other.input = one.input) (path : String) :
    shown options path other.machine = shown options path one.machine := by
  have settings : other.machine.settingsFile path =
      one.machine.settingsFile path := by
    simp only [Machine.settingsFile, machine, files]
  have source : other.machine.source options.input =
      one.machine.source options.input := by
    simp only [Machine.source, machine, files, input]
  rw [shown, settings, source, shown]

theorem settingsPath_congr
    (environment : ∀ name, name ≠ Filter.variableName →
      other.environment.value? name = one.environment.value? name) :
    options.settingsPath other.environment =
      options.settingsPath one.environment := by
  have home := environment "HOME" (by decide)
  have settings := environment "XDG_CONFIG_HOME" (by decide)
  simp only [Options.settingsPath, Environment.settingsPath,
    Environment.baseDirectory, Environment.home, home, settings]

theorem visible_run_eq (files : other.files = one.files)
    (input : other.input = one.input)
    (environment : ∀ name, name ≠ Filter.variableName →
      other.environment.value? name = one.environment.value? name)
    (understood : CommandLine.read one.arguments one.environment =
      .ok options)
    (understoodToo : CommandLine.read other.arguments other.environment =
      .ok { options with log := choice })
    (separate : one.Separate options)
    (separateToo : other.Separate { options with log := choice }) :
    other.run.visible = one.run.visible := by
  calc
    other.run.visible =
        shown { options with log := choice }
          (options.settingsPath other.environment) other.machine :=
      visible_run separateToo understoodToo
    _ = shown options (options.settingsPath one.environment) one.machine := by
      rw [settingsPath_congr environment]
      exact shown_congr files input _
    _ = one.run.visible := (visible_run separate understood).symm

end TwoRuns

end Surroundings

end LineShell.Program
