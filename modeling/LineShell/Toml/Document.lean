import LineShell.Toml.Number

/-!
# The grammar of TOML documents

A document is read line by line into expressions; what the expressions say
about one another is left to `Toml.Tree`.
-/

namespace LineShell.Toml

open Reader

/-- The parts of a table between braces, before their names are compared. -/
abbrev InlineEntry := List String × String × Value

def arrayOf (element : Reader Value) : Reader (List Value) := do
  character '['
  let items ← possibly (separated
    (do gap; let item ← element; gap; pure item) ',')
  match items with
  | some items =>
      discard (possibly (character ','))
      gap
      character ']'
      pure items
  | none =>
      gap
      character ']'
      pure []

/-- Keys with values between braces, all in one line. -/
def inlineEntriesOf (element : Reader Value) : Reader (List InlineEntry) := do
  character '\x7b'
  let entries ← possibly (separated (do
    let (path, name) ← key
    character '='
    blanks
    let value ← element
    blanks
    pure (path, name, value)) ',')
  blanks
  character '\x7d'
  pure (entries.getD [])

def scalar : Reader Value :=
  fun text =>
    match text with
    | '"' :: _ | '\'' :: _ => (.text <$> anyString) text
    | 't' :: _ => (do word ['t', 'r', 'u', 'e']; pure (Value.boolean true)) text
    | 'f' :: _ =>
        (do word ['f', 'a', 'l', 's', 'e']; pure (Value.boolean false)) text
    | _ => numeric text

/-- A value that may hold others to a depth.  The entries of a table between
braces are put together by `assemble`. -/
def valueWithin (assemble : List InlineEntry → Option Value) :
    Nat → Reader Value
  | 0 => scalar
  | depth + 1 => fun text =>
      match text with
      | '[' :: _ => (.array <$> arrayOf (valueWithin assemble depth)) text
      | '\x7b' :: _ =>
          (do
            match assemble (← inlineEntriesOf (valueWithin assemble depth)) with
            | some value => pure value
            | none => failure) text
      | _ => scalar text

/-- A line that says something. -/
def expression (value : Reader Value) : Reader Expression :=
  fun text =>
    match text with
    | '[' :: '[' :: _ =>
        (do
          word ['[', '[']
          let (path, name) ← key
          word [']', ']']
          restOfLine
          pure (Expression.elementHeader path name)) text
    | '[' :: _ =>
        (do
          character '['
          let (path, name) ← key
          character ']'
          restOfLine
          pure (Expression.tableHeader path name)) text
    | _ =>
        (do
          let (path, name) ← key
          character '='
          blanks
          let content ← value
          restOfLine
          pure (Expression.keyValue path name content)) text

def silentLine : Reader Unit :=
  newline <|> (do comment; lineEnd)

/-- A whole document.  A byte order mark at its beginning does not count. -/
def document (value : Reader Value) : Reader (List Expression) := do
  discard (possibly (character '\uFEFF'))
  blanks
  let lines ← many do
    let said ← (do silentLine; pure none) <|> (some <$> expression value)
    blanks
    pure said
  ending
  pure (lines.filterMap id)

end LineShell.Toml
