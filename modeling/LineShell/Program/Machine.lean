import LineShell.Log.Destination
import LineShell.Log.Filter
import LineShell.Log.Record
import LineShell.Program.Plan

/-!
# A machine for the program

The surroundings of the program as a value: files, standard input, the clock
and the environment.  A machine carries out a plan and shows what it wrote.
What it records is the same on the error output as in a file, without colours.
-/

namespace LineShell.Program

open CommandLine (InputChoice)
open Files (FileTree Node Place)
open Input (Outcome Source Transcript)
open Log (Filter)
open Settings (SettingsFile)
open Text (Bytes)

/-- The surroundings of the program. -/
structure Machine where
  files : FileTree
  input : Bytes
  /-- The time, which stands still. -/
  stamp : String
  filter : Filter
  /-- The file that records are added to, if it is not the error output. -/
  log : Option Place
  output : Bytes
  errorOutput : String

namespace Machine

/-- The text of the events that the filter admits. -/
def records (machine : Machine) (events : List Event) : String :=
  String.join
    ((events.filter machine.filter.admits).map (Log.line machine.stamp))

/-- Adds the events that the filter admits to the log. -/
def recordAll (machine : Machine) (events : List Event) : Machine :=
  let lines := machine.records events
  match machine.log with
  | none => { machine with errorOutput := machine.errorOutput ++ lines }
  | some place =>
      { machine with files := machine.files.append place (Text.encode lines) }

/-- Adds an event to the log, if the filter admits it. -/
def record (machine : Machine) (event : Event) : Machine :=
  machine.recordAll [event]

def openLog (machine : Machine) (path : String) :
    Machine × Except Failure Unit :=
  match Log.openLog machine.files path with
  | ⟨files, .ok place⟩ => ({ machine with files, log := some place }, .ok ())
  | ⟨files, .error failure⟩ => ({ machine with files }, .error failure)

/-- What is found where the settings file is looked for. -/
def settingsFile (machine : Machine) (path : String) : SettingsFile :=
  match machine.files.find path with
  | .error _ => .absent
  | .ok (.directory _) =>
      .unreadable Files.FileError.isADirectory.message
  | .ok (.file content) => .content content

def scriptFailed (path reason : String) : Failure :=
  .inputOutput ("Failed to open script " ++ path ++ ": " ++ reason)

/-- The lines of the session's input.  A directory can be opened, but not
read. -/
def source (machine : Machine) : InputChoice → Except Failure Source
  | .standardInput => .ok (.ofBytes machine.input)
  | .script path =>
      match machine.files.find path with
      | .error error => .error (scriptFailed path error.message)
      | .ok (.file content) => .ok (.ofBytes content)
      | .ok (.directory _) =>
          .ok (.failing []
            (.inputOutput Files.FileError.isADirectory.message))

def converse (machine : Machine) (shell : Shell) (input : InputChoice) :
    Machine × Except Failure Outcome :=
  match machine.source input with
  | .error failure => (machine, .error failure)
  | .ok source =>
      let transcript := shell.runOn Input.reliable () source
      let logged := machine.recordAll transcript.events
      ({ logged with output := logged.output ++ transcript.output },
        transcript.ending)

end Machine

/-- What the program leaves behind. -/
structure Report where
  code : Nat
  machine : Machine

def Plan.carryOut : Plan → Machine → Report
  | .finish code, machine => ⟨code, machine⟩
  | .print text next, machine =>
      next.carryOut
        { machine with output := machine.output ++ Text.encode text }
  | .complain text next, machine =>
      next.carryOut
        { machine with errorOutput := machine.errorOutput ++ text }
  | .log event next, machine => next.carryOut (machine.record event)
  | .openLog path next, machine =>
      let opened := machine.openLog path
      (next opened.2).carryOut opened.1
  | .readSettings path next, machine =>
      (next (machine.settingsFile path)).carryOut machine
  | .converse shell input next, machine =>
      let held := machine.converse shell input
      (next held.2).carryOut held.1

/-- What the program is started with. -/
structure Surroundings where
  arguments : List String
  environment : Environment
  files : FileTree
  input : Bytes
  stamp : String

namespace Surroundings

def machine (surroundings : Surroundings) : Machine :=
  { files := surroundings.files
    input := surroundings.input
    stamp := surroundings.stamp
    filter := .ofVariable
      (surroundings.environment.value? Filter.variableName)
    log := none
    output := []
    errorOutput := "" }

def run (surroundings : Surroundings) : Report :=
  (plan surroundings.arguments surroundings.environment).carryOut
    surroundings.machine

end Surroundings

end LineShell.Program
