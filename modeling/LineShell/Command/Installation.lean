import LineShell.Command.Library
import LineShell.Command.Table

/-!
# Installing the shell's own commands

Two groups of commands come with the shell: those that act on the shell itself,
each of which can be switched off, and those that work on text and numbers.
Installing a group registers its commands in a fixed order, and an installed
command that takes the place of another is reported.
-/

namespace LineShell.Command

/-- A command together with the name and the descriptor it is installed by. -/
structure Installable where
  name : String
  command : Builtin
  descriptor : Descriptor
  deriving DecidableEq, Repr

namespace Installable

def help : Installable :=
  ⟨"help", .help "help",
    ⟨"Returns a description of the command of a given name.\n" ++
      "Usage: help <command-name>", 0⟩⟩

def exit : Installable :=
  ⟨"exit", .leave, ⟨"Exits the program", 0⟩⟩

def quit : Installable :=
  ⟨"quit", .leave, ⟨"Quits the program", 0⟩⟩

def echo : Installable :=
  ⟨"echo", .joinWith " ",
    ⟨"Prints its arguments separated by single spaces.", 0⟩⟩

def concat : Installable :=
  ⟨"concat", .joinWith "|",
    ⟨"Joins its arguments with '|'.\nUsage: concat <arg>...", 0⟩⟩

def join : Installable :=
  ⟨"join", .join,
    ⟨"Joins the remaining arguments with the first one.\n" ++
      "Usage: join <delimiter> <arg>...", 1⟩⟩

def add : Installable :=
  ⟨"add", .add, ⟨"Adds integers.\nUsage: add <n> <n>...", 2⟩⟩

/-- The table entry of a command that comes with the shell. -/
def entry (item : Installable) : Entry :=
  ⟨item.command.run, some item.descriptor⟩

end Installable

/-- Which of the commands that act on the shell are wanted. -/
structure BuiltinSwitches where
  help : Bool
  exit : Bool
  quit : Bool
  deriving DecidableEq, Repr

namespace BuiltinSwitches

def all : BuiltinSwitches :=
  ⟨true, true, true⟩

/-- The wanted commands, in the order in which they are installed. -/
def commands (switches : BuiltinSwitches) : List Installable :=
  (if switches.help then [Installable.help] else []) ++
    (if switches.exit then [Installable.exit] else []) ++
    (if switches.quit then [Installable.quit] else [])

end BuiltinSwitches

/-- The commands that work on text and numbers, in the order in which they are
installed. -/
def demoCommands : List Installable :=
  [.echo, .concat, .join, .add]

namespace Table

/-- A table after several registrations, with what they reported. -/
structure Installation where
  table : Table
  events : List Event

def installOne (table : Table) (item : Installable) : Installation :=
  let registration := table.register item.name item.entry
  { table := registration.table
    events := registration.event ::
      (if registration.overridden then [.builtinReplaced item.name] else []) }

/-- Registers commands that come with the shell, one after the other. -/
def install (table : Table) : List Installable → Installation
  | [] => ⟨table, []⟩
  | item :: rest =>
      let first := table.installOne item
      let later := first.table.install rest
      ⟨later.table, first.events ++ later.events⟩

def installBuiltins (table : Table) (switches : BuiltinSwitches) :
    Installation :=
  table.install switches.commands

def installDemo (table : Table) : Installation :=
  table.install demoCommands

end Table

end LineShell.Command
