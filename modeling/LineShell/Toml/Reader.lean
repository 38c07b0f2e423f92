/-!
# Readers

A reader takes a value from the beginning of a text, or refuses the text.  If
a reader refuses, an alternative starts again where the reader started.
-/

namespace LineShell.Toml

/-- Reads a value and leaves the rest of the text. -/
abbrev Reader := StateT (List Char) Option

namespace Reader

/-- The next character, which stays. -/
def next? : Reader (Option Char) :=
  fun text => some (text.head?, text)

def satisfying (test : Char → Bool) : Reader Char
  | c :: rest => if test c then some (c, rest) else none
  | [] => none

def character (c : Char) : Reader Unit :=
  discard (satisfying (· == c))

def word : List Char → Reader Unit
  | [] => pure ()
  | c :: rest => do
      character c
      word rest

/-- The longest beginning in which all characters are of a class. -/
def run (test : Char → Bool) : Reader (List Char) :=
  fun text => some (text.span test)

def someRun (test : Char → Bool) : Reader (List Char) := do
  let first ← satisfying test
  let rest ← run test
  pure (first :: rest)

def ending : Reader Unit
  | [] => some ((), [])
  | _ :: _ => none

def possibly {α : Type} (reader : Reader α) : Reader (Option α) :=
  (some <$> reader) <|> pure none

/-- What a reader reads again and again, at most so many times. -/
def atMost {α : Type} (reader : Reader α) : Nat → Reader (List α)
  | 0 => pure []
  | limit + 1 => do
      match ← possibly reader with
      | none => pure []
      | some first =>
          let rest ← atMost reader limit
          pure (first :: rest)

/-- What a reader reads again and again, until it refuses.  A reader that takes
something each time can go on no longer than the text. -/
def many {α : Type} (reader : Reader α) : Reader (List α) :=
  fun text => atMost reader text.length text

/-- What a reader reads once and then again after each separator. -/
def separated {α : Type} (reader : Reader α) (separator : Char) :
    Reader (List α) := do
  let first ← reader
  let rest ← many do
    character separator
    reader
  pure (first :: rest)

def all? {α : Type} (reader : Reader α) (text : String) : Option α :=
  (reader.run' text.toList)

end Reader

end LineShell.Toml
