import LineShell.Toml.Reader

/-!
# Text in TOML documents

White space, comments, line ends, keys and the four kinds of strings.
-/

namespace LineShell.Toml

open Reader

def isBeyondAscii (c : Char) : Bool :=
  0x80 ≤ c.toNat

def isVisibleAscii (c : Char) : Bool :=
  0x20 ≤ c.toNat && c.toNat ≤ 0x7E

/-- A character that text can hold without an escape. -/
def isPlain (c : Char) : Bool :=
  c == '\t' || isVisibleAscii c || isBeyondAscii c

def isBlank (c : Char) : Bool :=
  c == ' ' || c == '\t'

def blanks : Reader Unit :=
  discard (run isBlank)

/-- A line feed, which may have a carriage return before it. -/
def newline : Reader Unit :=
  character '\n' <|> word ['\r', '\n']

def lineEnd : Reader Unit :=
  newline <|> ending

/-- A number sign and what follows it in its line. -/
def comment : Reader Unit := do
  character '#'
  discard (run isPlain)

def restOfLine : Reader Unit := do
  blanks
  discard (possibly comment)
  lineEnd

/-- White space, comments and line ends between the elements of an array. -/
def gap : Reader Unit :=
  discard (many (discard (someRun isBlank) <|>
    (do discard (possibly comment); newline)))

def isHexDigit (c : Char) : Bool :=
  c.isDigit || ('a' ≤ c && c ≤ 'f') || ('A' ≤ c && c ≤ 'F')

def hexDigitValue (c : Char) : Nat :=
  if c.isDigit then c.toNat - '0'.toNat
  else if 'a' ≤ c then c.toNat - 'a'.toNat + 10
  else c.toNat - 'A'.toNat + 10

def digitsValue (base : Nat) (digits : List Char) : Nat :=
  digits.foldl (fun value digit => value * base + hexDigitValue digit) 0

def exactly (test : Char → Bool) : Nat → Reader (List Char)
  | 0 => pure []
  | count + 1 => do
      let first ← satisfying test
      let rest ← exactly test count
      pure (first :: rest)

/-- The character whose code point is given by so many hexadecimal digits. -/
def codePoint (digits : Nat) : Reader Char := do
  let point := digitsValue 16 (← exactly isHexDigit digits)
  if point.isValidChar then pure (Char.ofNat point) else failure

def escape : Reader Char := do
  character '\\'
  match ← satisfying fun _ => true with
  | 'b' => pure '\x08'
  | 't' => pure '\t'
  | 'n' => pure '\n'
  | 'f' => pure '\x0c'
  | 'r' => pure '\r'
  | '"' => pure '"'
  | '\\' => pure '\\'
  | 'u' => codePoint 4
  | 'U' => codePoint 8
  | _ => failure

def basicChar : Reader Char :=
  satisfying (fun c => isPlain c && c != '"' && c != '\\') <|> escape

def basicString : Reader String := do
  character '"'
  let content ← many basicChar
  character '"'
  pure (String.ofList content)

def literalString : Reader String := do
  character '\''
  let content ← run fun c => isPlain c && c != '\''
  character '\''
  pure (String.ofList content)

/-- A backslash at the end of a line, which hides the white space up to the
next visible character. -/
def hiddenLineEnd : Reader Unit := do
  character '\\'
  blanks
  newline
  discard (many (discard (someRun isBlank) <|> newline))

/-- One or two quotes that are part of a string of several lines. -/
def innerMarks (mark : Char) : Reader (List Char) := do
  let marks ← someRun (· == mark)
  if marks.length ≤ 2 then pure marks else failure

/-- The three quotes that end a string of several lines.  Up to two more may
stand before them; they belong to the string. -/
def closingMarks (mark : Char) : Reader (List Char) := do
  let marks ← someRun (· == mark)
  if 3 ≤ marks.length && marks.length ≤ 5 then pure (marks.drop 3)
  else failure

/-- A string of several lines, given what it can hold besides quotes.  A line
end directly after the opening quotes does not count. -/
def longString (mark : Char) (content : Reader (List Char)) :
    Reader String := do
  word [mark, mark, mark]
  discard (possibly newline)
  let inner ← many (content <|> innerMarks mark)
  let last ← closingMarks mark
  pure (String.ofList (inner.flatten ++ last))

/-- What a string between three double quotes can hold besides quotes. -/
def longBasicContent : Reader (List Char) :=
  (do hiddenLineEnd; pure []) <|> (do pure [← basicChar]) <|>
    (do newline; pure ['\n'])

/-- What a string between three single quotes can hold besides quotes. -/
def longLiteralContent : Reader (List Char) :=
  (do pure [← satisfying fun c => isPlain c && c != '\'']) <|>
    (do newline; pure ['\n'])

def anyString : Reader String :=
  fun text =>
    match text with
    | '"' :: '"' :: '"' :: _ => longString '"' longBasicContent text
    | '"' :: _ => basicString text
    | '\'' :: '\'' :: '\'' :: _ => longString '\'' longLiteralContent text
    | '\'' :: _ => literalString text
    | _ => none

def isKeyChar (c : Char) : Bool :=
  c.isAlphanum || c == '-' || c == '_'

def simpleKey : Reader String :=
  basicString <|> literalString <|> (String.ofList <$> someRun isKeyChar)

/-- One part of a key with the white space around it. -/
def spacedKey : Reader String := do
  blanks
  let name ← simpleKey
  blanks
  pure name

/-- Arrays, tables and keys may be nested to a depth below eighty. -/
def nestingLimit : Nat := 80

/-- A key: the names before its last dot, and the last name. -/
def key : Reader (List String × String) := do
  let names ← separated spacedKey '.'
  if names.length < nestingLimit then
    match names.getLast? with
    | some last => pure (names.dropLast, last)
    | none => failure
  else failure

end LineShell.Toml
