/-!
# Signed 64-bit literals

Integer arguments are decimal literals whose value lies between -2^63 and
2^63 - 1.  A sign may stand in front of the digits, and leading zeros are
allowed; the written form of a number has neither a plus sign nor leading
zeros.
-/

namespace LineShell.Signed64

/-- The least number of the range, -2^63. -/
def lowest : Int := -9223372036854775808

/-- The greatest number of the range, 2^63 - 1. -/
def highest : Int := 9223372036854775807

def inRange (number : Int) : Bool :=
  lowest ≤ number && number ≤ highest

/-- The number that a non-empty run of ASCII digits spells. -/
def digitsValue? (digits : List Char) : Option Nat :=
  if !digits.isEmpty && digits.all Char.isDigit then
    some (Nat.ofDigitChars 10 digits 0)
  else
    none

def signedValue? : List Char → Option Int
  | '+' :: digits => (digitsValue? digits).map Int.ofNat
  | '-' :: digits => (digitsValue? digits).map fun value => -Int.ofNat value
  | digits => (digitsValue? digits).map Int.ofNat

/-- The number that a literal denotes, if it is one and lies in the range. -/
def ofLiteral? (text : String) : Option Int :=
  (signedValue? text.toList).filter inRange

def literal (number : Int) : String :=
  if number < 0 then
    String.ofList ('-' :: Nat.toDigits 10 number.natAbs)
  else
    String.ofList (Nat.toDigits 10 number.natAbs)

/-- The sum of two numbers, if it lies in the range. -/
def add? (left right : Int) : Option Int :=
  (some (left + right)).filter inRange

end LineShell.Signed64
