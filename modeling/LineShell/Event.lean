import LineShell.Argument.Tokens
import LineShell.Failure

/-!
# Events

What the program reports about its own work.  An event is a value; its level,
the part of the program that it belongs to, its message and its fields are read
off the value, so that events can be counted and compared without their text.
-/

namespace LineShell

/-- How important an event is, from the least to the most. -/
inductive Level where
  | debug
  | info
  | warn
  | error
  deriving DecidableEq, Repr

namespace Level

def name : Level → String
  | .debug => "DEBUG"
  | .info => "INFO"
  | .warn => "WARN"
  | .error => "ERROR"

/-- The rank of a level: more important events rank higher. -/
def rank : Level → Nat
  | .debug => 2
  | .info => 3
  | .warn => 4
  | .error => 5

end Level

/-- Something that the program reports about its own work. -/
inductive Event where
  /-- A command was not registered because no line can spell its name. -/
  | nameRejected (name : String)
  | registered (name : String)
  /-- A command took the place of another of the same name. -/
  | overridden (name : String)
  /-- A command of the shell's own took the place of another. -/
  | builtinReplaced (name : String)
  | unknownCommand (name : String)
  | argumentsUnreadable (name : String) (error : Argument.TextError)
  | tooFewArguments (name : String) (given required : Nat)
  | executing (name : String) (arguments : Nat)
  | undecodable (bytes : Nat)
  | exitRequested
  | commandFailed (failure : Failure)
  | inputEnded
  | loggingTo (path : String)
  | loadingSettings (path : String)
  | ready (commands : Nat) (sigil : Char)
  | stopped (failure : Failure)
  | exitingOnRequest
  | inputFinished
  deriving DecidableEq, Repr

namespace Event

/-- The value of a field of an event. -/
inductive FieldValue where
  | quoted (text : String)
  | bare (text : String)
  | number (value : Nat)
  deriving DecidableEq, Repr

def level : Event → Level
  | .nameRejected _ => .warn
  | .registered _ => .debug
  | .overridden _ => .debug
  | .builtinReplaced _ => .warn
  | .unknownCommand _ => .debug
  | .argumentsUnreadable .. => .debug
  | .tooFewArguments .. => .debug
  | .executing .. => .debug
  | .undecodable _ => .warn
  | .exitRequested => .info
  | .commandFailed _ => .warn
  | .inputEnded => .debug
  | .loggingTo _ => .info
  | .loadingSettings _ => .info
  | .ready .. => .info
  | .stopped _ => .error
  | .exitingOnRequest => .info
  | .inputFinished => .info

/-- The part of the program that an event belongs to. -/
def target : Event → String
  | .nameRejected _ | .registered _ | .overridden _ =>
      "linecmd::commands::registry"
  | .builtinReplaced _ => "linecmd::commands::handlers"
  | .unknownCommand _ | .argumentsUnreadable .. | .tooFewArguments .. =>
      "linecmd::commands::statement"
  | .executing .. => "linecmd::commands::dispatcher"
  | .undecodable _ | .exitRequested | .commandFailed _ | .inputEnded =>
      "linecmd::commands::processor"
  | .loggingTo _ | .loadingSettings _ | .ready .. | .stopped _
  | .exitingOnRequest | .inputFinished => "linecmd"

def message : Event → String
  | .nameRejected _ => "Rejected command registration: invalid name"
  | .registered _ => "Command registered"
  | .overridden _ => "Command overridden"
  | .builtinReplaced _ => "Built-in command replaced an existing command"
  | .unknownCommand _ => "Unknown command"
  | .argumentsUnreadable .. => "Failed to parse arguments"
  | .tooFewArguments .. => "Too few arguments"
  | .executing .. => "Executing command"
  | .undecodable _ => "Skipping line with invalid UTF-8"
  | .exitRequested => "Exit requested"
  | .commandFailed _ => "Command failed"
  | .inputEnded => "End of input"
  | .loggingTo path => "Logging to " ++ path
  | .loadingSettings path => "Loading config from: " ++ path
  | .ready .. => "Registry ready"
  | .stopped failure => failure.category ++ ": " ++ failure.display
  | .exitingOnRequest => "Exiting on request"
  | .inputFinished => "Input finished"

/-- The named values of an event, in the order in which they are written. -/
def fields : Event → List (String × FieldValue)
  | .nameRejected name | .registered name | .overridden name
  | .builtinReplaced name | .unknownCommand name => [("name", .quoted name)]
  | .argumentsUnreadable name error =>
      [("name", .quoted name), ("error", .bare error.message)]
  | .tooFewArguments name given required =>
      [("name", .quoted name), ("given", .number given),
        ("required", .number required)]
  | .executing name arguments =>
      [("command", .bare name), ("args", .number arguments)]
  | .undecodable bytes => [("bytes", .number bytes)]
  | .commandFailed failure => [("error", .bare failure.display)]
  | .ready commands sigil =>
      [("commands", .number commands), ("prefix", .bare sigil.toString)]
  | .exitRequested | .inputEnded | .loggingTo _ | .loadingSettings _
  | .stopped _ | .exitingOnRequest | .inputFinished => []

end Event

end LineShell
