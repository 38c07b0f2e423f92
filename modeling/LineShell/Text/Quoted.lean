import LineShell.Text.Unprintable

/-!
# Quoted text

A quoted text stands between two quote characters and shows every character in
a visible way: a few by an escape with a letter of its own, those without a
visible form of their own by their code point in hexadecimal, all others as
they are.
-/

namespace LineShell.Text

def codePointEscape (c : Char) : List Char :=
  ['\\', 'u', '\x7b'] ++ Nat.toDigits 16 c.toNat ++ ['\x7d']

/-- How a character is shown between two `mark`s. -/
def quotedChar (mark c : Char) : List Char :=
  if c = '\x00' then ['\\', '0']
  else if c = '\t' then ['\\', 't']
  else if c = '\n' then ['\\', 'n']
  else if c = '\r' then ['\\', 'r']
  else if c = '\\' ∨ c = mark then ['\\', c]
  else if isAttaching c || isUnprintable c then codePointEscape c
  else [c]

def quoteText (text : String) : String :=
  String.ofList ('"' :: text.toList.flatMap (quotedChar '"') ++ ['"'])

def quoteChar (c : Char) : String :=
  String.ofList ('\'' :: quotedChar '\'' c ++ ['\''])

end LineShell.Text
