import LineShell.Signed64
import LineShell.Toml.Text
import LineShell.Toml.Value

/-!
# Numbers and dates in TOML documents

Integers are signed 64-bit numbers in one of four bases.  A floating-point
number may not be so large that it would round to infinity.  Dates and times
have to name a day of the calendar and a time of the day.
-/

namespace LineShell.Toml

open Reader

/-- Digits, single underscores between which are dropped. -/
def digitGroup (isDigit : Char → Bool) : Reader (List Char) := do
  let first ← satisfying isDigit
  let rest ← many do
    discard (possibly (character '_'))
    satisfying isDigit
  pure (first :: rest)

def isDecimalDigit (c : Char) : Bool :=
  c.isDigit

/-- Whether a sign stands before a number and is a minus. -/
def sign : Reader Bool := do
  match ← possibly (satisfying fun c => c == '+' || c == '-') with
  | some c => pure (c == '-')
  | none => pure false

def wholeDigits : Reader (List Char) := do
  match ← next? with
  | some '0' =>
      character '0'
      pure ['0']
  | _ => digitGroup isDecimalDigit

/-- A number that lies in the range of signed 64-bit integers. -/
def boundedInteger (number : Int) : Reader Int :=
  if Signed64.inRange number then pure number else failure

/-- The digits of an integer in a base that a letter after a zero selects. -/
def prefixedInteger (letter : Char) (base : Nat) (isDigit : Char → Bool) :
    Reader Int := do
  word ['0', letter]
  boundedInteger (digitsValue base (← digitGroup isDigit))

def decimalInteger : Reader Int := do
  let negative ← sign
  let magnitude := digitsValue 10 (← wholeDigits)
  boundedInteger (if negative then -magnitude else magnitude)

def integer : Reader Int :=
  fun text =>
    match text with
    | '0' :: 'x' :: _ => prefixedInteger 'x' 16 isHexDigit text
    | '0' :: 'o' :: _ =>
        prefixedInteger 'o' 8 (fun c => '0' ≤ c && c ≤ '7') text
    | '0' :: 'b' :: _ =>
        prefixedInteger 'b' 2 (fun c => c == '0' || c == '1') text
    | _ => decimalInteger text

def exponent : Reader Int := do
  discard (satisfying fun c => c == 'e' || c == 'E')
  let negative ← sign
  let magnitude := digitsValue 10 (← digitGroup isDecimalDigit)
  pure (if negative then -magnitude else magnitude)

def fraction : Reader (List Char) := do
  character '.'
  digitGroup isDecimalDigit

/-- The least number that rounds to infinity in double precision: half a unit
in the last place above the greatest finite number. -/
def overflowBound : Nat :=
  Nat.pow 2 1024 - Nat.pow 2 970

/-- Whether decimal digits times a power of ten reach the bound.  Exponents so
large or small that the digits cannot change the answer are settled first. -/
def overflows (digits : List Char) (power : Int) : Bool :=
  let significand := digitsValue 10 digits
  if significand = 0 then false
  else if 400 < power then true
  else if power + digits.length < 300 then false
  else if 0 ≤ power then
    overflowBound ≤ significand * Nat.pow 10 power.toNat
  else
    overflowBound * Nat.pow 10 power.natAbs ≤ significand

/-- A floating-point number in digits.  Only positive ones are refused for
their size. -/
def decimalFloat : Reader Unit := do
  let negative ← sign
  let whole ← wholeDigits
  let decimals ← possibly fraction
  let power ← match decimals with
    | some _ => (·.getD 0) <$> possibly exponent
    | none => exponent
  let places := decimals.getD []
  if !negative && overflows (whole ++ places) (power - places.length) then
    failure
  else pure ()

def specialFloat : Reader Unit := do
  discard sign
  word ['i', 'n', 'f'] <|> word ['n', 'a', 'n']

/-- A number of so many digits that lies between two bounds. -/
def clockNumber (digits least greatest : Nat) : Reader Nat := do
  let number := digitsValue 10 (← exactly isDecimalDigit digits)
  if least ≤ number && number ≤ greatest then pure number else failure

def daysInMonth (year month : Nat) : Nat :=
  if month = 2 then
    if year % 4 = 0 && (year % 100 != 0 || year % 400 = 0) then 29 else 28
  else if month ∈ [4, 6, 9, 11] then 30
  else 31

def date : Reader Unit := do
  let year ← clockNumber 4 0 9999
  character '-'
  let month ← clockNumber 2 1 12
  character '-'
  discard (clockNumber 2 1 (daysInMonth year month))

/-- A time of the day, with leap seconds and parts of seconds. -/
def time : Reader Unit := do
  discard (clockNumber 2 0 23)
  character ':'
  discard (clockNumber 2 0 59)
  character ':'
  discard (clockNumber 2 0 60)
  discard (possibly (do
    character '.'
    someRun isDecimalDigit))

def offset : Reader Unit :=
  discard (satisfying fun c => c == 'Z' || c == 'z') <|> do
    discard (satisfying fun c => c == '+' || c == '-')
    discard (clockNumber 2 0 23)
    character ':'
    discard (clockNumber 2 0 59)

/-- A date, a time or both; only both together can have an offset. -/
def dateTime : Reader Unit :=
  (do
    date
    discard (possibly (do
      discard (satisfying fun c => c == 'T' || c == 't' || c == ' ')
      time
      possibly offset))) <|> time

def numeric : Reader Value :=
  (do dateTime; pure .dateTime) <|> (do decimalFloat; pure .float) <|>
    (do specialFloat; pure .float) <|> (.integer <$> integer)

end LineShell.Toml
