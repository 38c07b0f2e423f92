import LineShell.Event

/-!
# Verbosity

How much is written to the log, as it is said by the name of a level or by its
number.
-/

namespace LineShell.Log

/-- Which events are written. -/
inductive Verbosity where
  | silent
  /-- Those of a level and all more important ones. -/
  | fromLevel (level : Level)
  deriving DecidableEq, Repr

namespace Verbosity

def everything : Verbosity :=
  .fromLevel .debug

def admits (verbosity : Verbosity) (event : Event) : Bool :=
  match verbosity with
  | .silent => false
  | .fromLevel level => level.rank ≤ event.level.rank

/-- The number that decimal digits spell, which a plus sign may precede. -/
def number? : List Char → Option Nat
  | '+' :: digits => unsigned? digits
  | digits => unsigned? digits
where
  unsigned? (digits : List Char) : Option Nat :=
    if !digits.isEmpty && digits.all Char.isDigit then
      some (Nat.ofDigitChars 10 digits 0)
    else none

/-- The verbosity of a number; greater numbers give more events. -/
def ofNumber? : Nat → Option Verbosity
  | 0 => some .silent
  | 1 => some (.fromLevel .error)
  | 2 => some (.fromLevel .warn)
  | 3 => some (.fromLevel .info)
  | 4 | 5 => some .everything
  | _ => none

def ofLowerName? : String → Option Verbosity
  | "trace" | "debug" => some .everything
  | "info" => some (.fromLevel .info)
  | "warn" => some (.fromLevel .warn)
  | "error" => some (.fromLevel .error)
  | "off" => some .silent
  | _ => none

/-- The verbosity of a name, whatever the case of its letters, or of a
number. -/
def ofName? (name : String) : Option Verbosity :=
  match number? name.toList with
  | some number => ofNumber? number
  | none => ofLowerName? name.toLower

end Verbosity

end LineShell.Log
