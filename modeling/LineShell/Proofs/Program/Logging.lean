import Mathlib.Data.List.Forall2
import LineShell.Proofs.Input.OneLine
import LineShell.Proofs.Program.Undisturbed

/-!
# Logging does not disturb the program

Where the log goes, and what is written to it, makes no difference to what the
program writes and how it ends, as long as the log lies apart from the files
that the program reads.  A log that cannot be opened is replaced by the error
output, where the records follow one warning (`Surroundings.run_of_failed_log`).
-/

namespace LineShell.Program

open CommandLine (InputChoice LogChoice Options)
open Files (FileTree Straight)
open Input (Outcome)
open Log (Filter)
open Settings (SettingsFile)
open Text (Bytes OneLine)

/-- A record that holds the message of an event, as it is shown on a terminal,
and ends. -/
def Tells (event : Event) (line : String) : Prop :=
  ∃ front back,
    line = front ++ Log.disarmed event.message ++ back ++ "\n"

theorem tells_line (stamp : String) (event : Event) :
    Tells event (Log.line stamp event) := by
  refine ⟨stamp ++ " " ++ Log.levelText event.level ++ " " ++ event.target ++
    ": ", String.join (event.fields.map fun field =>
      " " ++ field.1 ++ "=" ++ Log.fieldText field.2), ?_⟩
  simp only [Log.line, Log.body, String.append_assoc]

theorem Machine.exists_tells (machine : Machine) (events : List Event) :
    ∃ lines, machine.records events = String.join lines ∧
      List.Forall₂ Tells (events.filter machine.filter.admits) lines := by
  refine ⟨_, rfl, ?_⟩
  rw [List.forall₂_map_right_iff, List.forall₂_same]
  intro event _
  exact tells_line machine.stamp event

/-- The events that a session reports, if it can be held. -/
def Machine.conversed (machine : Machine) (shell : Shell)
    (input : InputChoice) : List Event :=
  match machine.source input with
  | .error _ => []
  | .ok source => (shell.runOn Input.reliable () source).events

/-- The events that a plan reports, in their order. -/
def Plan.events : Plan → Machine → List Event
  | .finish _, _ => []
  | .print text next, machine =>
      next.events
        { machine with output := machine.output ++ Text.encode text }
  | .complain text next, machine =>
      next.events
        { machine with errorOutput := machine.errorOutput ++ text }
  | .log event next, machine => event :: next.events (machine.record event)
  | .openLog path next, machine =>
      let opened := machine.openLog path
      (next opened.2).events opened.1
  | .readSettings path next, machine =>
      (next (machine.settingsFile path)).events machine
  | .converse shell input next, machine =>
      let held := machine.converse shell input
      machine.conversed shell input ++ (next held.2).events held.1

/-- A plan that writes to the error output nothing but its reports. -/
inductive Plan.Uncomplaining : Plan → Prop where
  | finish (code : Nat) : Uncomplaining (.finish code)
  | print {text : String} {next : Plan} :
      next.Uncomplaining → Uncomplaining (.print text next)
  | log {event : Event} {next : Plan} :
      next.Uncomplaining → Uncomplaining (.log event next)
  | readSettings {path : String} {next : SettingsFile → Plan} :
      (∀ file, (next file).Uncomplaining) →
      Uncomplaining (.readSettings path next)
  | converse {shell : Shell} {input : InputChoice}
      {next : Except Failure Outcome → Plan} :
      (∀ ending, (next ending).Uncomplaining) →
      Uncomplaining (.converse shell input next)

/-- A machine without a log file has reported events on the error output and
left the files as they are. -/
structure Machine.Reports (events : List Event) (before after : Machine) :
    Prop where
  written : after.errorOutput = before.errorOutput ++ before.records events
  files : after.files = before.files
  log : after.log = before.log
  filter : after.filter = before.filter
  stamp : after.stamp = before.stamp

namespace Machine

variable (machine : Machine) {next last : Machine} {events later : List Event}

theorem reports_nil (output : Bytes) :
    machine.Reports [] { machine with output } :=
  ⟨(String.append_empty).symm, rfl, rfl, rfl, rfl⟩

variable {machine} in
theorem Reports.append (first : machine.Reports events next)
    (second : next.Reports later last) :
    machine.Reports (events ++ later) last where
  written := by
    have same : next.records later = machine.records later := by
      simp only [records, first.filter, first.stamp]
    rw [second.written, first.written, same, String.append_assoc]
    simp [records, String.join_append]
  files := second.files.trans first.files
  log := second.log.trans first.log
  filter := second.filter.trans first.filter
  stamp := second.stamp.trans first.stamp

theorem reports_recordAll (closed : machine.log = none)
    (events : List Event) :
    machine.Reports events (machine.recordAll events) := by
  rw [recordAll_of_no_log closed]
  exact ⟨rfl, rfl, rfl, rfl, rfl⟩

theorem reports_converse (closed : machine.log = none) (shell : Shell)
    (input : InputChoice) :
    machine.Reports (machine.conversed shell input)
      (machine.converse shell input).1 := by
  unfold conversed converse
  cases machine.source input with
  | error failure => exact machine.reports_nil machine.output
  | ok source =>
      have reports := machine.reports_recordAll closed
        (shell.runOn Input.reliable () source).events
      exact ⟨reports.written, reports.files, reports.log, reports.filter,
        reports.stamp⟩

end Machine

theorem reports_carryOut {plan : Plan} {machine : Machine}
    (uncomplaining : plan.Uncomplaining) (closed : machine.log = none) :
    machine.Reports (plan.events machine) (plan.carryOut machine).machine := by
  induction uncomplaining generalizing machine with
  | finish code => exact machine.reports_nil machine.output
  | print _ ih => exact (machine.reports_nil _).append (ih closed)
  | @log event next _ ih =>
      have first := machine.reports_recordAll closed [event]
      exact first.append (ih (first.log.trans closed))
  | readSettings _ ih => exact ih _ closed
  | @converse shell input next _ ih =>
      have held := machine.reports_converse closed shell input
      exact held.append (ih _ (held.log.trans closed))

theorem uncomplaining_logAll {plan : Plan} (events : List Event)
    (uncomplaining : plan.Uncomplaining) :
    (logAll events plan).Uncomplaining := by
  induction events with
  | nil => exact uncomplaining
  | cons event events ih => exact .log ih

theorem uncomplaining_conclude (ending : Except Failure Outcome) :
    (conclude ending).Uncomplaining := by
  cases ending <;> exact .log (.finish _)

theorem uncomplaining_prepare (options : Options) (environment : Environment) :
    (prepare options environment).Uncomplaining := by
  refine .log (.readSettings fun file => ?_)
  split
  · exact .log (.finish 1)
  · exact uncomplaining_logAll _ (.log (.converse uncomplaining_conclude))

namespace Surroundings

variable {surroundings : Surroundings} {options : Options} {path : String}
  {failure : Failure}

/-- A log that does not open is reported by one warning, which the records
follow. -/
theorem run_of_failed_log
    (understood :
      CommandLine.read surroundings.arguments surroundings.environment =
        .ok options)
    (target : options.logTarget surroundings.environment = .file path)
    (failed : (Log.openLog surroundings.files path).result =
      .error failure) :
    surroundings.run.machine.errorOutput =
        "Warning: " ++ failure.display ++ "; logging to stderr\n" ++
          surroundings.machine.records
            ((prepare options surroundings.environment).events
              (surroundings.logging options)) ∧
      surroundings.run.machine.files =
        (Log.openLog surroundings.files path).tree := by
  have logging := logging_of_failed target failed
  have closed : (surroundings.logging options).log = none := by
    rw [logging]
    rfl
  have reports := reports_carryOut
    (uncomplaining_prepare options surroundings.environment) closed
  rw [run, plan, understood]
  dsimp only
  rw [(surroundings.leads_logging options).carryOut, reports.written,
    reports.files, logging]
  exact ⟨rfl, rfl⟩

end Surroundings

section Warning

variable {tree : FileTree} {path outer : String} {failure : Failure}

theorem oneLine_parent? (parent : Files.parent? path = some outer)
    (line : OneLine path) : OneLine outer := by
  by_cases named : outer = ""
  · subst named
    decide
  · obtain ⟨pieces, rfl, beginning, -⟩ :=
      Files.exists_of_parent? parent named
    unfold Files.joinParts
    split
    · decide
    · refine Text.oneLine_intercalate (by decide) ?_
      intro piece member newline
      exact line (Files.mem_of_mem_parts (beginning.subset member) newline).1

theorem oneLine_message (error : Files.FileError) : OneLine error.message := by
  cases error <;> decide

/-- A path of one line does not break the text of the failure. -/
theorem oneLine_of_failed (line : OneLine path)
    (failed : (Log.openLog tree path).result = .error failure) :
    OneLine failure.display := by
  rcases Log.openLog_error_cases failed with
    ⟨directory, error, around, rfl⟩ | ⟨error, rfl⟩
  · have parent := (Option.filter_eq_some_iff.mp around).1
    simp only [Failure.display, Log.directoryFailed, Failure.inputOutput,
      Text.oneLine_append, oneLine_parent? parent line, oneLine_message]
    decide
  · simp only [Failure.display, Log.fileFailed, Failure.inputOutput,
      Text.oneLine_append, line, oneLine_message]
    decide

end Warning

/-- Programs that differ only in where their log goes and in what is written to
it write the same output and end with the same exit status, if each log lies
apart from the settings file and from the script, whether it opens or not, or
does not open and leaves the files alone.  A log that does not open is reported
by one warning, after which the records follow on the error output, one for each
event and each with the message of its event.  None opens
if the directories around it cannot be made, and where there is a directory in
its place or a file in its way nothing is changed either. -/
theorem run_undisturbed_by_log :
    (∀ (one other : Surroundings) (options : Options) (choice : LogChoice),
      CommandLine.read one.arguments one.environment = .ok options →
      CommandLine.read other.arguments other.environment =
        .ok { options with log := choice } →
      other.files = one.files → other.input = one.input →
      (∀ name, name ≠ Filter.variableName →
        other.environment.value? name = one.environment.value? name) →
      one.Separate options → other.Separate { options with log := choice } →
      other.run.machine.output = one.run.machine.output ∧
        other.run.code = one.run.code) ∧
      (∀ (surroundings : Surroundings) (options : Options) (path : String)
        (failure : Failure),
        CommandLine.read surroundings.arguments surroundings.environment =
          .ok options →
        options.logTarget surroundings.environment = .file path →
        (Log.openLog surroundings.files path).result = .error failure →
        let warning := "Warning: " ++ failure.display ++ "; logging to stderr"
        let events := (prepare options surroundings.environment).events
          (surroundings.logging options)
        surroundings.run.machine.errorOutput = warning ++ "\n" ++
            surroundings.machine.records events ∧
          (∃ lines, surroundings.machine.records events = String.join lines ∧
            List.Forall₂ Tells
              (events.filter surroundings.machine.filter.admits) lines) ∧
          surroundings.run.machine.files =
            (Log.openLog surroundings.files path).tree ∧
          (OneLine path → OneLine warning)) ∧
      (∀ message, (∀ c ∈ String.toList message,
          Log.isTerminalControl c = false) →
        Log.disarmed message = message) ∧
      ∀ (tree : FileTree) (path : String),
        ".." ∉ tree.current → Straight path →
        (∀ directory error, Log.directoryOf? path = some directory →
          (tree.makeDirectories directory).result = .error error →
          (Log.openLog tree path).result =
            .error (Log.directoryFailed directory error.message)) ∧
          (tree.isDirectory path = true ∨
              (∃ above, tree.Holds above false ∧ above <+: tree.place path ∧
                above ≠ tree.place path) →
            ∃ failure, Log.openLog tree path = ⟨tree, .error failure⟩) := by
  refine ⟨?_, ?_, fun message => Log.disarmed_eq_self, ?_⟩
  · intro one other options choice understood understoodToo files input
      environment separate separateToo
    have same := Surroundings.visible_run_eq files input environment understood
      understoodToo separate separateToo
    exact ⟨congrArg Visible.output same, congrArg Visible.code same⟩
  · intro surroundings options path failure understood target failed warning
      events
    obtain ⟨written, files⟩ :=
      Surroundings.run_of_failed_log understood target failed
    refine ⟨?_, surroundings.machine.exists_tells events, files,
      fun line => ?_⟩
    · have ending : "; logging to stderr\n" =
          "; logging to stderr" ++ "\n" := by
        decide
      rw [written, ending, ← String.append_assoc]
    · have display := oneLine_of_failed line failed
      simp only [warning, Text.oneLine_append, display]
      decide
  · intro tree path level straight
    refine ⟨fun directory error => Log.openLog_of_directoryFailed, ?_⟩
    rintro (directory | ⟨above, file, below, different⟩)
    · exact Log.openLog_of_directory level straight directory
    · exact Log.openLog_of_fileAbove level straight file below different

/-- The directory of the script is not opened as a log, and the program shows
what it shows without a log.  What it reports stands on the error output. -/
theorem run_undisturbed_by_log_directory :
    let files : FileTree := ⟨.directory
      [("d", .directory [("s", .file (Text.encode "!echo a"))])], []⟩
    let silent : Surroundings := ⟨["--script", "/d/s"], [], files, [], "T"⟩
    let failing : Surroundings :=
      ⟨["--script", "/d/s", "--log-file", "/d"], [("RUST_LOG", "debug")],
        files, [], "U"⟩
    let reported : List Event :=
      [.loadingSettings "/root/.config/linecmd/config.toml"] ++
        ["help", "exit", "quit", "echo", "concat", "join", "add"].map
          .registered ++
        [.ready 7 '!', .executing "echo" 1, .inputEnded, .inputFinished]
    failing.run.machine.output = silent.run.machine.output ∧
      failing.run.code = silent.run.code ∧
      silent.run.machine.output = Text.encode "a\n" ∧
      ∃ failure lines, failing.run.machine.errorOutput =
          "Warning: " ++ failure ++ "; logging to stderr" ++ "\n" ++
            String.join lines ∧
        List.Forall₂ Tells reported lines := by
  intro files silent failing reported
  obtain ⟨same, failed, -, closed⟩ := run_undisturbed_by_log
  let options : Options := ⟨none, none, some "/d/s", false, .errorOutput⟩
  let logged : Options := { options with log := .file "/d" }
  have understood : CommandLine.read silent.arguments silent.environment =
      .ok options := by
    decide +kernel
  have understoodToo : CommandLine.read failing.arguments
      failing.environment = .ok logged := by
    decide +kernel
  have environment : ∀ name, name ≠ Filter.variableName →
      failing.environment.value? name = silent.environment.value? name := by
    intro name different
    have unequal : (name == "RUST_LOG") = false := beq_false_of_ne different
    simp [failing, silent, Environment.value?, List.lookup_cons, unequal]
  have straight : ∀ path, options.input = .script path → Straight path := by
    intro path input
    have script : options.input = .script "/d/s" := by decide
    cases script.symm.trans input
    decide
  obtain ⟨failure, refused⟩ := (closed files "/d" (by decide) (by decide)).2
    (.inl (by decide +kernel))
  have separate : silent.Separate options :=
    ⟨by decide, by decide, straight, nofun⟩
  have separateToo : failing.Separate logged := by
    refine ⟨by decide, by decide, straight, ?_⟩
    intro log target
    cases target
    exact .inr ⟨failure, refused⟩
  obtain ⟨output, code⟩ := same silent failing options (.file "/d") understood
    understoodToo rfl rfl environment separate separateToo
  obtain ⟨written, ⟨lines, joined, told⟩, -, -⟩ := failed failing logged "/d"
    failure understoodToo rfl (congrArg Log.Opening.result refused)
  have admitted : ((prepare logged failing.environment).events
      (failing.logging logged)).filter failing.machine.filter.admits =
        reported := by
    decide +kernel
  rw [joined] at written
  rw [admitted] at told
  exact ⟨output, code, by decide +kernel, failure.display, lines, written,
    told⟩

end LineShell.Program
