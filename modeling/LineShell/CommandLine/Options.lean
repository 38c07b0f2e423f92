import LineShell.Environment
import LineShell.Settings.Configuration

/-!
# Options of the program

What can be said on the command line, and how it is combined with the
environment and the settings file.
-/

namespace LineShell.CommandLine

open Settings (Configuration checkSigil)

/-- Where the log is wanted. -/
inductive LogChoice where
  | errorOutput
  | standardFile
  | file (path : String)
  deriving DecidableEq, Repr

/-- Where lines are read from. -/
inductive InputChoice where
  | standardInput
  | script (path : String)
  deriving DecidableEq, Repr

/-- Where log records go. -/
inductive LogTarget where
  | errorOutput
  | file (path : String)
  deriving DecidableEq, Repr

/-- What the command line asks for. -/
structure Options where
  /-- The character that starts a command line, if one is given. -/
  sigil : Option Char
  settings : Option String
  script : Option String
  failFast : Bool
  log : LogChoice
  deriving DecidableEq, Repr

namespace Options

def settingsPath (options : Options) (environment : Environment) : String :=
  options.settings.getD environment.settingsPath

def logTarget (options : Options) (environment : Environment) : LogTarget :=
  match options.log with
  | .errorOutput => .errorOutput
  | .standardFile => .file environment.logPath
  | .file path => .file path

/-- Where lines are read from; a dash stands for the standard input. -/
def input (options : Options) : InputChoice :=
  match options.script with
  | none => .standardInput
  | some path => if path = "-" then .standardInput else .script path

end Options

/-- The settings of a session. -/
structure SessionSettings where
  sigil : Char
  policy : FailurePolicy
  configuration : Configuration
  deriving DecidableEq, Repr

/-- Combines options with a configuration.  An option for the sigil takes
precedence; either of the two can ask to stop at the first failure. -/
def Options.resolve (options : Options) (configuration : Configuration) :
    Except Failure SessionSettings :=
  let sigil := options.sigil.getD configuration.sigil
  match checkSigil sigil with
  | .error failure => .error failure
  | .ok () =>
      .ok ⟨sigil,
        if options.failFast || configuration.failFast then .abort else .report,
        configuration⟩

end LineShell.CommandLine
