import LineShell.Command.Table
import LineShell.Argument.Tokens

/-!
# Statements

A command line consists of the shell's sigil, directly followed by a command
name, which extends to the first white space, and the argument text.  A line
that is no call of a registered command with enough readable arguments is
rejected for the first reason that applies.
-/

namespace LineShell

open Command (Context Entry Handler Reply Table)

/-- Why a line is not a call. -/
inductive Rejection where
  | notACall
  | unknownCommand (name : String)
  | argumentsUnreadable (name : String) (error : Argument.TextError)
  | tooFewArguments (name : String) (given required : Nat)
  /-- A reason given from outside. -/
  | other (reason : String)
  deriving DecidableEq, Repr

namespace Rejection

def reason : Rejection → String
  | .notACall => "invalid statement"
  | .unknownCommand _ => "command not found"
  | .argumentsUnreadable .. => "error parsing arguments"
  | .tooFewArguments .. => "not enough arguments"
  | .other reason => reason

/-- The event that reports the rejection; text without the sigil is nothing to
report. -/
def event? : Rejection → Option Event
  | .notACall | .other _ => none
  | .unknownCommand name => some (.unknownCommand name)
  | .argumentsUnreadable name error => some (.argumentsUnreadable name error)
  | .tooFewArguments name given required =>
      some (.tooFewArguments name given required)

end Rejection

/-- What a line says. -/
inductive Statement where
  /-- A call of a command, with the handler that the name stood for when the
  line was read. -/
  | call (name : String) (handler : Handler) (arguments : List String)
  | rejected (rejection : Rejection)

/-- The text after the sigil, cut before its first white space. -/
def splitName (text : List Char) : List Char × List Char :=
  text.span fun c => !Text.isWhiteSpace c

namespace Statement

def ofEntry (name : String) (entry : Entry) (argumentText : String) :
    Statement :=
  match Argument.tokenize argumentText with
  | .error error => .rejected (.argumentsUnreadable name error)
  | .ok arguments =>
      if arguments.length < entry.minArguments then
        .rejected (.tooFewArguments name arguments.length entry.minArguments)
      else
        .call name entry.handler arguments

def ofCallText (table : Table) (text : List Char) : Statement :=
  let name := String.ofList (splitName text).1
  match table.find? name with
  | none => .rejected (.unknownCommand name)
  | some entry => ofEntry name entry (String.ofList (splitName text).2)

def ofLine (table : Table) (sigil : Char) (line : String) : Statement :=
  match line.toList with
  | [] => .rejected .notACall
  | first :: rest =>
      if first = sigil then ofCallText table rest else .rejected .notACall

def readEvent? : Statement → Option Event
  | .call .. => none
  | .rejected rejection => rejection.event?

def executeEvent? : Statement → Option Event
  | .call name _ arguments => some (.executing name arguments.length)
  | .rejected _ => none

/-- Carries out a statement.  A rejected line is answered with its reason; what
a command gives back, a failure included, is passed on unchanged. -/
def execute (context : Context) : Statement → Except Failure Reply
  | .call _ handler arguments => handler context arguments
  | .rejected rejection => .ok (.text ("Error: " ++ rejection.reason))

end Statement

end LineShell
