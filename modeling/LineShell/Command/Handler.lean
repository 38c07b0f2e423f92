import LineShell.Command.Reply
import LineShell.Failure

/-!
# Handlers

A handler is the behaviour of a command.  It receives the arguments of the
call and a view of the shell that it is called from: the character that starts
a command line and the catalogue of the shell's table.  The catalogue has the
names and the descriptors of all commands and leaves their handlers out.  These
do not change while the shell runs, so a command that calls another one in the
same shell is still a function of its arguments.
-/

namespace LineShell.Command

/-- What is known about a command besides its behaviour. -/
structure Descriptor where
  description : String
  /-- A call with fewer arguments is refused before the handler runs. -/
  minArguments : Nat
  deriving DecidableEq, Repr

/-- The commands of a table, in the order of their names, each with its
descriptor if it was given one. -/
abbrev Catalogue := List (String × Option Descriptor)

/-- What a handler can see of the shell. -/
structure Context where
  /-- The character that starts a command line. -/
  sigil : Char
  catalogue : Catalogue
  deriving DecidableEq, Repr

/-- The behaviour of a command. -/
abbrev Handler := Context → List String → Except Failure Reply

end LineShell.Command
