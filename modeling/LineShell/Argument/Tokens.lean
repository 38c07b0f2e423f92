import LineShell.Argument.Piece

/-!
# Splitting argument text

Arguments are separated by white space.  An argument that starts with a double
quote extends to the next quote without a backslash and may hold white space;
any other argument extends to the next white space and may hold no bare quote.
`tokenize` returns the arguments or the first thing wrong with the text.
-/

namespace LineShell.Argument

/-- What is wrong with argument text, at a byte position. -/
inductive TextError where
  /-- The quote opened at the position is never closed. -/
  | unterminatedQuote (position : Nat)
  /-- A bare quote stands inside an unquoted argument. -/
  | unescapedQuote (position : Nat)
  /-- Something other than white space follows a closing quote. -/
  | trailingCharacters (position : Nat)
  deriving DecidableEq, Repr

namespace TextError

def position : TextError → Nat
  | .unterminatedQuote position => position
  | .unescapedQuote position => position
  | .trailingCharacters position => position

def message : TextError → String
  | .unterminatedQuote position =>
      s!"unmatched quote opened at position {position}"
  | .unescapedQuote position => s!"unescaped quote at position {position}"
  | .trailingCharacters position =>
      s!"unexpected character after closing quote at position {position}"

end TextError

/-- How an argument is written. -/
inductive Form where
  | plain
  | quoted
  deriving DecidableEq, Repr

/-- An argument: how it is written and what it says. -/
structure Token where
  form : Form
  value : List Char
  deriving DecidableEq, Repr

/-- Where the scan stands between two pieces. -/
inductive Place where
  /-- Before an argument or after the last one. -/
  | between
  | plain
  /-- Inside an argument whose quote was opened at a byte position. -/
  | quoted (openedAt : Nat)
  /-- Directly after a closing quote. -/
  | closed
  deriving DecidableEq, Repr

def extendFirst (character : Char) : List Token → List Token
  | [] => []
  | ⟨form, value⟩ :: rest => ⟨form, character :: value⟩ :: rest

/-- Puts the end of an argument, which says nothing yet, before others. -/
def finish (form : Form) (tokens : List Token) : List Token :=
  ⟨form, []⟩ :: tokens

/-- Reads the pieces that start at a byte position.  Inside an argument the
first token of the result is what remains of that argument. -/
def scan : Place → Nat → List Piece → Except TextError (List Token)
  | .between, _, [] => .ok []
  | .between, position, piece :: rest =>
      match piece with
      | .blank _ => scan .between (position + piece.width) rest
      | .quote => scan (.quoted position) (position + piece.width) rest
      | .escapedQuote | .letter _ =>
          (scan .plain (position + piece.width) rest).map
            (extendFirst piece.value)
  | .plain, _, [] => .ok (finish .plain [])
  | .plain, position, piece :: rest =>
      match piece with
      | .blank _ =>
          (scan .between (position + piece.width) rest).map (finish .plain)
      | .quote => .error (.unescapedQuote position)
      | .escapedQuote | .letter _ =>
          (scan .plain (position + piece.width) rest).map
            (extendFirst piece.value)
  | .quoted openedAt, _, [] => .error (.unterminatedQuote openedAt)
  | .quoted openedAt, position, piece :: rest =>
      match piece with
      | .quote =>
          (scan .closed (position + piece.width) rest).map (finish .quoted)
      | .blank _ | .escapedQuote | .letter _ =>
          (scan (.quoted openedAt) (position + piece.width) rest).map
            (extendFirst piece.value)
  | .closed, _, [] => .ok []
  | .closed, position, piece :: rest =>
      match piece with
      | .blank _ => scan .between (position + piece.width) rest
      | .quote | .escapedQuote | .letter _ =>
          .error (.trailingCharacters position)

def tokens (text : List Char) : Except TextError (List Token) :=
  scan .between 0 (pieces text)

/-- The arguments that a text holds. -/
def tokenize (text : String) : Except TextError (List String) :=
  (tokens text.toList).map (·.map fun token => String.ofList token.value)

end LineShell.Argument
