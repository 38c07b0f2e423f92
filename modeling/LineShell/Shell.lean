import LineShell.Statement

/-!
# Shells

A shell knows its commands, the character that starts a command line and what
to do when a command fails.
-/

namespace LineShell

open Command (Context Reply Table)

/-- What the shell does when a command fails. -/
inductive FailurePolicy where
  /-- The failure is answered and the next line is read. -/
  | report
  /-- The shell stops with the failure. -/
  | abort
  deriving DecidableEq, Repr

namespace FailurePolicy

def name : FailurePolicy → String
  | .report => "Report"
  | .abort => "Abort"

end FailurePolicy

def defaultSigil : Char := '!'

/-- A command table with the rules for reading and answering lines. -/
structure Shell where
  table : Table
  /-- The character that starts a command line. -/
  sigil : Char
  policy : FailurePolicy

namespace Shell

/-- A shell over a table, with the default sigil, that reports failures. -/
def ofTable (table : Table) : Shell :=
  ⟨table, defaultSigil, .report⟩

/-- What the commands of the shell can see of it. -/
def context (shell : Shell) : Context :=
  ⟨shell.sigil, shell.table.catalogue⟩

def read (shell : Shell) (line : String) : Statement :=
  .ofLine shell.table shell.sigil line

/-- Reads a line and carries it out. -/
def executeLine (shell : Shell) (line : String) : Except Failure Reply :=
  (shell.read line).execute shell.context

end Shell

end LineShell
