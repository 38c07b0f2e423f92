/-!
# Failures

A failure has a kind and a message.  The kind says which part of the program
refused to go on; the message alone is what a command line answers with.
-/

namespace LineShell

/-- Which part of the program a failure belongs to. -/
inductive FailureKind where
  | command
  | configuration
  | inputOutput
  deriving DecidableEq, Repr

namespace FailureKind

def category : FailureKind → String
  | .command => "Command Error"
  | .configuration => "Configuration Error"
  | .inputOutput => "I/O Error"

def label : FailureKind → String
  | .command => "Command error"
  | .configuration => "Configuration error"
  | .inputOutput => "I/O error"

end FailureKind

/-- A failure: its kind and what went wrong. -/
structure Failure where
  kind : FailureKind
  message : String
  deriving DecidableEq, Repr

namespace Failure

def command (message : String) : Failure :=
  ⟨.command, message⟩

def configuration (message : String) : Failure :=
  ⟨.configuration, message⟩

def inputOutput (message : String) : Failure :=
  ⟨.inputOutput, message⟩

def category (failure : Failure) : String :=
  failure.kind.category

def display (failure : Failure) : String :=
  failure.kind.label ++ ": " ++ failure.message

end Failure

end LineShell
