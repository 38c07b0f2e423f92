import LineShell.Event
import LineShell.Text.Quoted

/-!
# Log records

An event is written in one line that begins with the time and the level and
names the part of the program that it belongs to.  Records are plain, also on
the error output, where they could have colours if the variable `NO_COLOR` is
not set.
-/

namespace LineShell.Log

/-- Whether a terminal could act on a character.  Tabs and line ends are not
meant. -/
def isTerminalControl (c : Char) : Bool :=
  c.toNat ∈ [0x07, 0x08, 0x0C, 0x1B, 0x7F] ||
    (0x80 ≤ c.toNat && c.toNat ≤ 0x9F)

/-- The digits of a small code in hexadecimal, at least two. -/
def twoDigits (code : Nat) : List Char :=
  [Nat.digitChar (code / 16), Nat.digitChar (code % 16)]

/-- Shows a character on which a terminal could act by its code. -/
def disarmedChar (c : Char) : List Char :=
  if isTerminalControl c then
    if c.toNat < 0x80 then '\\' :: 'x' :: twoDigits c.toNat
    else Text.codePointEscape c
  else [c]

/-- A message on which no terminal acts. -/
def disarmed (message : String) : String :=
  String.ofList (message.toList.flatMap disarmedChar)

theorem disarmed_eq_self {message : String}
    (harmless : ∀ c ∈ message.toList, isTerminalControl c = false) :
    disarmed message = message := by
  have kept : ∀ characters : List Char,
      (∀ c ∈ characters, isTerminalControl c = false) →
        characters.flatMap disarmedChar = characters := by
    intro characters harmless
    induction characters with
    | nil => rfl
    | cons c rest ih =>
        rw [List.forall_mem_cons] at harmless
        rw [List.flatMap_cons, ih harmless.2, disarmedChar, harmless.1]
        rfl
  rw [disarmed, kept _ harmless, String.ofList_toList]

def fieldText : Event.FieldValue → String
  | .quoted text => Text.quoteText text
  | .bare text => text
  | .number value => toString value

/-- The name of a level, with a space before those of four letters. -/
def levelText (level : Level) : String :=
  if level.name.length < 5 then " " ++ level.name else level.name

def body (event : Event) : String :=
  levelText event.level ++ " " ++ event.target ++ ": " ++
    disarmed event.message ++
    String.join (event.fields.map fun field =>
      " " ++ field.1 ++ "=" ++ fieldText field.2)

def line (stamp : String) (event : Event) : String :=
  stamp ++ " " ++ body event ++ "\n"

end LineShell.Log
