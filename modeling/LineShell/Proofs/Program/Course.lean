import LineShell.Program.Machine

/-!
# The course of an accepted program

Before its session the program takes steps that write no output and take no
input; `Leads` says where such steps lead.  A program whose options and settings
are right and whose input can be read comes to its session.  `Accepted` says
when that is so, in terms of the machine as the log and the reports so far have
left it.  The output of such a program is that of the session, and the way in
which the session ends is all that is left to conclude from
(`run_of_accepted`).
-/

namespace LineShell.Program

open CommandLine (InputChoice Options SessionSettings)
open Input (Outcome)
open Settings (SettingsFile)
open Text (Bytes)

/-- What has been written and what can still be read are the same. -/
structure Machine.SameStreams (before after : Machine) : Prop where
  output : after.output = before.output
  input : after.input = before.input

namespace Machine

variable {machine next last : Machine}

theorem SameStreams.refl (machine : Machine) : machine.SameStreams machine :=
  ⟨rfl, rfl⟩

theorem SameStreams.trans (first : machine.SameStreams next)
    (second : next.SameStreams last) : machine.SameStreams last :=
  ⟨second.output.trans first.output, second.input.trans first.input⟩

theorem sameStreams_recordAll (machine : Machine) (events : List Event) :
    machine.SameStreams (machine.recordAll events) := by
  unfold recordAll
  cases machine.log with
  | none => exact ⟨rfl, rfl⟩
  | some place => exact ⟨rfl, rfl⟩

theorem sameStreams_record (machine : Machine) (event : Event) :
    machine.SameStreams (machine.record event) :=
  machine.sameStreams_recordAll [event]

theorem sameStreams_openLog (machine : Machine) (path : String) :
    machine.SameStreams (machine.openLog path).1 := by
  unfold openLog
  cases Log.openLog machine.files path with
  | mk files result =>
      cases result with
      | ok place => exact ⟨rfl, rfl⟩
      | error failure => exact ⟨rfl, rfl⟩

end Machine

/-- Steps that write no output and hold no session lead from one point in the
course of the program to another. -/
inductive Leads : Plan → Machine → Plan → Machine → Prop where
  | refl (plan : Plan) (machine : Machine) : Leads plan machine plan machine
  | complain {text : String} {next last : Plan} {machine after : Machine} :
      Leads next { machine with errorOutput := machine.errorOutput ++ text }
        last after →
      Leads (.complain text next) machine last after
  | log {event : Event} {next last : Plan} {machine after : Machine} :
      Leads next (machine.record event) last after →
      Leads (.log event next) machine last after
  | openLog {path : String} {next : Except Failure Unit → Plan} {last : Plan}
      {machine after : Machine} :
      Leads (next (machine.openLog path).2) (machine.openLog path).1
        last after →
      Leads (.openLog path next) machine last after
  | readSettings {path : String} {next : SettingsFile → Plan} {last : Plan}
      {machine after : Machine} :
      Leads (next (machine.settingsFile path)) machine last after →
      Leads (.readSettings path next) machine last after

section Steps

variable {plan later : Plan} {machine after : Machine}

namespace Leads

variable (leads : Leads plan machine later after)

include leads

theorem carryOut : plan.carryOut machine = later.carryOut after := by
  induction leads with
  | refl => rfl
  | complain _ ih | log _ ih | openLog _ ih | readSettings _ ih => exact ih

theorem sameStreams : machine.SameStreams after := by
  induction leads with
  | refl => exact .refl _
  | complain _ ih => exact ⟨ih.output, ih.input⟩
  | log _ ih => exact (Machine.sameStreams_record _ _).trans ih
  | openLog _ ih => exact (Machine.sameStreams_openLog _ _).trans ih
  | readSettings _ ih => exact ih

theorem trans {last : Plan} {final : Machine}
    (further : Leads later after last final) :
    Leads plan machine last final := by
  induction leads with
  | refl => exact further
  | complain _ ih => exact .complain (ih further)
  | log _ ih => exact .log (ih further)
  | openLog _ ih => exact .openLog (ih further)
  | readSettings _ ih => exact .readSettings (ih further)

end Leads

theorem leads_logAll {events : List Event}
    (leads : Leads plan (events.foldl Machine.record machine) later after) :
    Leads (logAll events plan) machine later after := by
  induction events generalizing machine with
  | nil => exact leads
  | cons event events ih => exact .log (ih leads)

end Steps

/-- The machine when the session begins, the settings being right. -/
def Machine.readied (machine : Machine) (settings : SessionSettings) :
    Machine :=
  let installed := installation settings
  (installed.events.foldl Machine.record machine).record
    (.ready installed.table.size settings.sigil)

theorem leads_start (settings : SessionSettings) (input : InputChoice)
    (machine : Machine) :
    Leads (start settings input) machine
      (.converse (shell settings) input conclude)
      (machine.readied settings) :=
  leads_logAll (.log (.refl _ _))

/-- What the program does once it knows the settings file. -/
def proceed (options : Options) (path : String) (file : SettingsFile) : Plan :=
  match sessionSettings options path file with
  | .error failure => stop failure
  | .ok settings => start settings options.input

section Conclusion

variable (ending : Except Failure Outcome) (machine : Machine)

theorem code_conclude_eq_one_iff :
    ((conclude ending).carryOut machine).code = 1 ↔
      ∃ failure, ending = .error failure := by
  cases ending with
  | ok outcome => simp [conclude, Plan.carryOut]
  | error failure => simp [conclude, stop, Plan.carryOut]

theorem code_conclude_eq_zero_iff :
    ((conclude ending).carryOut machine).code = 0 ↔
      ∃ outcome, ending = .ok outcome := by
  cases ending with
  | ok outcome => simp [conclude, Plan.carryOut]
  | error failure => simp [conclude, stop, Plan.carryOut]

end Conclusion

namespace Surroundings

variable (surroundings : Surroundings) (options : Options)
  (settings : SessionSettings)

/-- The machine once there is a log, or none could be opened. -/
def logging : Machine :=
  match options.logTarget surroundings.environment with
  | .errorOutput => surroundings.machine
  | .file path =>
      let opened := surroundings.machine.openLog path
      match opened.2 with
      | .ok () => opened.1.record (.loggingTo path)
      | .error failure =>
          { opened.1 with
            errorOutput := opened.1.errorOutput ++
              ("Warning: " ++ failure.display ++ "; logging to stderr\n") }

/-- The machine when the settings are looked for. -/
def loading : Machine :=
  (surroundings.logging options).record
    (.loadingSettings (options.settingsPath surroundings.environment))

/-- The machine when the session begins. -/
def ready : Machine :=
  (surroundings.loading options).readied settings

/-- The bytes that a session reads: those of the standard input, or those of a
file that can be read when it begins. -/
inductive Supplies : InputChoice → Bytes → Prop where
  | standardInput : Supplies .standardInput surroundings.input
  | script {path : String} {bytes : Bytes} :
      (surroundings.ready options settings).files.find path =
        .ok (.file bytes) →
      Supplies (.script path) bytes

/-- The options and the settings are right, and the input can be read. -/
structure Accepted (bytes : Bytes) : Prop where
  understood :
    CommandLine.read surroundings.arguments surroundings.environment =
      .ok options
  settled :
    let path := options.settingsPath surroundings.environment
    sessionSettings options path
      ((surroundings.loading options).settingsFile path) = .ok settings
  supplied : surroundings.Supplies options settings options.input bytes

/-- The program tries to open its log, and goes on in any case. -/
theorem leads_logging :
    Leads (begin options surroundings.environment) surroundings.machine
      (prepare options surroundings.environment)
      (surroundings.logging options) := by
  unfold begin logging
  cases options.logTarget surroundings.environment with
  | errorOutput => exact .refl _ _
  | file path =>
      apply Leads.openLog
      cases result : (surroundings.machine.openLog path).2 with
      | ok _ =>
          simp only [result]
          exact .log (.refl _ _)
      | error failure =>
          simp only [result]
          exact .complain (.refl _ _)

theorem leads_begin :
    let path := options.settingsPath surroundings.environment
    let loading := surroundings.loading options
    Leads (begin options surroundings.environment) surroundings.machine
      (proceed options path (loading.settingsFile path)) loading :=
  (surroundings.leads_logging options).trans (.log (.readSettings (.refl _ _)))

theorem leads_ready :
    Leads (start settings options.input) (surroundings.loading options)
      (.converse (shell settings) options.input conclude)
      (surroundings.ready options settings) :=
  leads_start settings options.input (surroundings.loading options)

theorem sameStreams_ready :
    surroundings.machine.SameStreams (surroundings.ready options settings) :=
  (surroundings.leads_begin options).sameStreams.trans
    (surroundings.leads_ready options settings).sameStreams

section Accepted

variable {surroundings options settings} {bytes : Bytes}

theorem source_of_supplies {choice : InputChoice}
    (supplies : surroundings.Supplies options settings choice bytes) :
    (surroundings.ready options settings).source choice =
      .ok (.ofBytes bytes) := by
  cases supplies with
  | standardInput =>
      rw [Machine.source,
        (surroundings.sameStreams_ready options settings).input]
      rfl
  | script found => rw [Machine.source, found]

variable (accepted : surroundings.Accepted options settings bytes)

include accepted

/-- An accepted program comes to its session. -/
theorem run_eq_converse :
    surroundings.run =
      (Plan.converse (shell settings) options.input conclude).carryOut
        (surroundings.ready options settings) := by
  calc
    surroundings.run =
        (proceed options _ _).carryOut (surroundings.loading options) := by
      rw [run, plan, accepted.understood]
      exact (surroundings.leads_begin options).carryOut
    _ = (start settings options.input).carryOut
          (surroundings.loading options) := by
      rw [proceed, accepted.settled]
    _ = _ := (surroundings.leads_ready options settings).carryOut

/-- The output of an accepted program is that of its session, and its report
is concluded from the way in which the session ends. -/
theorem run_of_accepted :
    ∃ machine : Machine,
      machine.output = ((shell settings).run bytes).output ∧
        surroundings.run =
          (conclude ((shell settings).run bytes).ending).carryOut machine := by
  have quiet := (surroundings.sameStreams_ready options settings).trans
    (Machine.sameStreams_recordAll _ ((shell settings).run bytes).events)
  rw [run_eq_converse accepted, Plan.carryOut, Machine.converse,
    source_of_supplies accepted.supplied]
  refine ⟨_, ?_, rfl⟩
  -- Nothing has been written before the session.
  calc
    _ = surroundings.machine.output ++ ((shell settings).run bytes).output :=
      congrArg (· ++ ((shell settings).run bytes).output) quiet.output
    _ = _ := List.nil_append _

end Accepted

end Surroundings

end LineShell.Program
