import LineShell.Command.Handler
import LineShell.Signed64

/-!
# The shell's own commands

The commands that come with the shell: joining texts, adding integers, showing
descriptions and leaving.
-/

namespace LineShell.Command

/-- A command that comes with the shell. -/
inductive Builtin where
  | joinWith (delimiter : String)
  /-- Joins all arguments but the first, which is the delimiter. -/
  | join
  | add
  /-- Describes a command, without arguments the one of the given name. -/
  | help (ownName : String)
  | leave
  deriving DecidableEq, Repr

def notAnInteger (argument : String) : Failure :=
  .command ("'" ++ argument ++ "' is not an integer")

/-- The failure of a sum that leaves the range. -/
def integerOverflow : Failure :=
  .command "integer overflow"

def delimiterMissing : Failure :=
  .command "join needs a delimiter"

/-- Adds integer arguments to a sum, from left to right.  The first argument
that is no integer or takes the sum out of range decides the failure. -/
def addArguments (sum : Int) : List String → Except Failure Int
  | [] => .ok sum
  | argument :: rest =>
      match Signed64.ofLiteral? argument with
      | none => .error (notAnInteger argument)
      | some number =>
          match Signed64.add? sum number with
          | none => .error integerOverflow
          | some next => addArguments next rest

def helpText (catalogue : Catalogue) (name : String) : String :=
  match catalogue.lookup name with
  | none => "Can't find a command named \"" ++ name ++ "\""
  | some none => "No description provided for " ++ name
  | some (some descriptor) =>
      if descriptor.description.isEmpty then
        "No description provided for " ++ name
      else
        "Help for " ++ name ++ ":\n\n" ++ descriptor.description

def Builtin.run : Builtin → Handler
  | .joinWith delimiter, _, arguments =>
      .ok (.text (delimiter.intercalate arguments))
  | .join, _, [] => .error delimiterMissing
  | .join, _, delimiter :: rest => .ok (.text (delimiter.intercalate rest))
  | .add, _, arguments =>
      (addArguments 0 arguments).map fun sum => .text (Signed64.literal sum)
  | .help ownName, context, arguments =>
      .ok (.text (helpText context.catalogue (arguments.headD ownName)))
  | .leave, _, _ => .ok .leave

end LineShell.Command
