import LineShell.Text.Utf8

/-!
# Lines of bytes

Input is cut after every newline; what follows the last newline is a line too,
if it is not empty.  Before a line is decoded it loses one final newline and
then one final carriage return.
-/

namespace LineShell.Input

open Text (Bytes)

def newline : UInt8 := 10

def carriageReturn : UInt8 := 13

/-- The lines of an input, each with its newline. -/
def cutLines : Bytes → List Bytes
  | [] => []
  | byte :: rest =>
      if byte = newline then [byte] :: cutLines rest
      else
        match cutLines rest with
        | [] => [[byte]]
        | line :: lines => (byte :: line) :: lines

def isComplete (line : Bytes) : Bool :=
  line.getLast? == some newline

/-- The lines of an input that end in a newline. -/
def completeLines (bytes : Bytes) : List Bytes :=
  (cutLines bytes).filter isComplete

/-- Removes a byte from the end, if it stands there. -/
def dropFinal (byte : UInt8) (line : Bytes) : Bytes :=
  if line.getLast? = some byte then line.dropLast else line

/-- A line without its ending. -/
def content (line : Bytes) : Bytes :=
  dropFinal carriageReturn (dropFinal newline line)

end LineShell.Input
