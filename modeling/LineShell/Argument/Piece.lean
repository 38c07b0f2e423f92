import LineShell.Text.WhiteSpace

/-!
# Pieces of argument text

Argument text is read in pieces.  A backslash directly before a double quote
forms one piece with it, whatever stands before the backslash; every other
character is a piece of its own.  Cutting text into pieces therefore never
depends on whether the text stands inside quotes.
-/

namespace LineShell.Argument

/-- One unit of argument text. -/
inductive Piece where
  | blank (character : Char)
  /-- A double quote that no backslash stands before. -/
  | quote
  /-- A backslash and the double quote that it makes literal. -/
  | escapedQuote
  | letter (character : Char)
  deriving DecidableEq, Repr

namespace Piece

def ofChar (character : Char) : Piece :=
  if character = '"' then .quote
  else if Text.isWhiteSpace character then .blank character
  else .letter character

def width : Piece → Nat
  | .blank character => character.utf8Size
  | .quote => 1
  | .escapedQuote => 2
  | .letter character => character.utf8Size

def source : Piece → List Char
  | .blank character => [character]
  | .quote => ['"']
  | .escapedQuote => ['\\', '"']
  | .letter character => [character]

/-- The character that a piece stands for inside an argument. -/
def value : Piece → Char
  | .blank character => character
  | .quote => '"'
  | .escapedQuote => '"'
  | .letter character => character

end Piece

def pieces : List Char → List Piece
  | [] => []
  | [character] => [.ofChar character]
  | '\\' :: '"' :: rest => .escapedQuote :: pieces rest
  | character :: next :: rest => .ofChar character :: pieces (next :: rest)

theorem Piece.source_ofChar (character : Char) :
    (Piece.ofChar character).source = [character] := by
  unfold Piece.ofChar
  split
  · simp_all [Piece.source]
  · split <;> rfl

theorem flatMap_source_pieces (text : List Char) :
    (pieces text).flatMap Piece.source = text := by
  fun_induction pieces text with
  | case1 => rfl
  | case2 character => simp [Piece.source_ofChar]
  | case3 rest induction => simp [Piece.source, induction]
  | case4 character next rest _ induction =>
      simp [Piece.source_ofChar, induction]

end LineShell.Argument
