import LineShell.CommandLine.Help
import LineShell.Input.Session

/-!
# The course of the program

The program asks its surroundings for one thing after another: to open the
log, to read the settings file, to hold the session.  A plan lists what it asks
for and how it goes on after each answer, without doing anything itself.  The
session begins only after everything that can be wrong with the options and the
settings has been found right.
-/

namespace LineShell.Program

open CommandLine (Halt InputChoice Options SessionSettings)
open Settings (SettingsFile)
open Input (Outcome)

/-- What the program asks for. -/
inductive Plan where
  | finish (code : Nat)
  | print (text : String) (next : Plan)
  | complain (text : String) (next : Plan)
  | log (event : Event) (next : Plan)
  | openLog (path : String) (next : Except Failure Unit → Plan)
  | readSettings (path : String) (next : SettingsFile → Plan)
  | converse (shell : Shell) (input : InputChoice)
      (next : Except Failure Outcome → Plan)

def logAll (events : List Event) (next : Plan) : Plan :=
  events.foldr .log next

def stop (failure : Failure) : Plan :=
  .log (.stopped failure) (.finish 1)

def farewell : Outcome → Event
  | .exitRequested => .exitingOnRequest
  | .endOfInput => .inputFinished

def conclude : Except Failure Outcome → Plan
  | .ok outcome => .log (farewell outcome) (.finish 0)
  | .error failure => stop failure

def installation (settings : SessionSettings) : Command.Table.Installation :=
  let builtins :=
    Command.Table.empty.installBuiltins settings.configuration.builtins
  let demo := builtins.table.installDemo
  ⟨demo.table, builtins.events ++ demo.events⟩

def shell (settings : SessionSettings) : Shell :=
  ⟨(installation settings).table, settings.sigil, settings.policy⟩

def start (settings : SessionSettings) (input : InputChoice) : Plan :=
  let installed := installation settings
  logAll installed.events <|
    .log (.ready installed.table.size settings.sigil) <|
      .converse (shell settings) input conclude

/-- The settings of the session, once the settings file is known. -/
def sessionSettings (options : Options) (path : String) (file : SettingsFile) :
    Except Failure SessionSettings :=
  match Settings.load path file with
  | .error failure => .error failure
  | .ok configuration => options.resolve configuration

/-- Reads the settings and begins the session if they are right. -/
def prepare (options : Options) (environment : Environment) : Plan :=
  let path := options.settingsPath environment
  .log (.loadingSettings path) <|
    .readSettings path fun file =>
      match sessionSettings options path file with
      | .error failure => stop failure
      | .ok settings => start settings options.input

/-- Opens the log.  A log file that cannot be opened does not keep the program
from going on. -/
def begin (options : Options) (environment : Environment) : Plan :=
  match options.logTarget environment with
  | .errorOutput => prepare options environment
  | .file path =>
      .openLog path fun
        | .ok () => .log (.loggingTo path) (prepare options environment)
        | .error failure =>
            .complain ("Warning: " ++ failure.display ++
              "; logging to stderr\n") (prepare options environment)

def halt (environment : Environment) (reason : Halt) : Plan :=
  let ending := .finish reason.exitCode
  match reason with
  | .help => .print (CommandLine.helpText environment) ending
  | .version => .print CommandLine.versionText ending
  | .usage error => .complain (CommandLine.complaint environment error) ending

def plan (arguments : List String) (environment : Environment) : Plan :=
  match CommandLine.read arguments environment with
  | .error reason => halt environment reason
  | .ok options => begin options environment

end LineShell.Program
