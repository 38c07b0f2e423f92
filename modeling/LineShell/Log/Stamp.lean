/-!
# Time stamps

The time of a log record in universal time, to the microsecond.
-/

namespace LineShell.Log

/-- A number in decimal, with zeros in front up to so many digits. -/
def padded (width number : Nat) : String :=
  let digits := Nat.toDigits 10 number
  String.ofList (List.replicate (width - digits.length) '0' ++ digits)

/-- A day of the calendar. -/
structure Day where
  year : Nat
  month : Nat
  day : Nat
  deriving DecidableEq, Repr

/-- The day that is so many days after the first of January 1970.  Years are
counted from the first of March, so that a leap day is the last of its year,
and in cycles of four hundred years. -/
def Day.ofEpoch (days : Nat) : Day :=
  let shifted := days + 719468
  let cycle := shifted / 146097
  let dayOfCycle := shifted % 146097
  let yearOfCycle :=
    (dayOfCycle - dayOfCycle / 1460 + dayOfCycle / 36524 -
      dayOfCycle / 146096) / 365
  let dayOfYear :=
    dayOfCycle - (365 * yearOfCycle + yearOfCycle / 4 - yearOfCycle / 100)
  let shiftedMonth := (5 * dayOfYear + 2) / 153
  let month := if shiftedMonth < 10 then shiftedMonth + 3 else shiftedMonth - 9
  { year := yearOfCycle + cycle * 400 + (if month ≤ 2 then 1 else 0)
    month := month
    day := dayOfYear - (153 * shiftedMonth + 2) / 5 + 1 }

example : Day.ofEpoch 19782 = ⟨2024, 2, 29⟩ := by
  decide

/-- The stamp of a time given in microseconds since 1970. -/
def stamp (microseconds : Nat) : String :=
  let seconds := microseconds / 1000000
  let day := Day.ofEpoch (seconds / 86400)
  let time := seconds % 86400
  padded 4 day.year ++ "-" ++ padded 2 day.month ++ "-" ++ padded 2 day.day ++
    "T" ++ padded 2 (time / 3600) ++ ":" ++ padded 2 (time / 60 % 60) ++ ":" ++
    padded 2 (time % 60) ++ "." ++ padded 6 (microseconds % 1000000) ++ "Z"

end LineShell.Log
