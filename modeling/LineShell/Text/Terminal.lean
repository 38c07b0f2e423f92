/-!
# What is seen of a text on a terminal

A text can hold control sequences, which a terminal acts upon and does not
show.  `visible` leaves out the sequences and the control characters outside of
them.  A sequence begins with the escape character and extends to a character
that depends on its kind; one that is never finished hides all that follows.
-/

namespace LineShell.Text.Terminal

/-- Where a text stands with respect to control sequences. -/
inductive Place where
  | outside
  | escape
  /-- In a sequence that takes one more character from `0` to `~`. -/
  | intermediate
  /-- In a sequence that takes parameters and a final letter. -/
  | parameters
  | device
  | deviceParameters
  | deviceIntermediate
  /-- In a string for a device or an application. -/
  | string
  /-- In a command for the system, which a bell ends. -/
  | command
  deriving DecidableEq, Repr

def escape : Char := '\x1b'

/-- A character that breaks off any sequence. -/
def isCancel (c : Char) : Bool :=
  c = '\x18' || c = '\x1a'

def isBreak (c : Char) : Bool :=
  c = '\t' || c = '\n' || c = '\x0c' || c = '\r'

def isWide (c : Char) : Bool :=
  '\x7f' < c

/-- Whether a character of a string ends it: a terminal that reads bytes takes
the byte `9C` for the end, also in the middle of a character. -/
def endsString (c : Char) : Bool :=
  (String.utf8EncodeChar c).contains 0x9C

/-- The place after a character that neither begins nor breaks off a
sequence. -/
def advance (place : Place) (c : Char) : Place :=
  match place with
  | .outside => .outside
  | .escape =>
      if c = '[' then .parameters
      else if c = ']' then .command
      else if c = 'P' then .device
      else if c = 'X' || c = '^' || c = '_' then .string
      else if ' ' ≤ c && c ≤ '/' then .intermediate
      else if '0' ≤ c && c ≤ '~' then .outside
      else .escape
  | .intermediate => if '0' ≤ c && c ≤ '~' then .outside else .intermediate
  | .parameters => if '@' ≤ c && c ≤ '~' then .outside else .parameters
  | .device =>
      if ' ' ≤ c && c ≤ '/' then .deviceIntermediate
      else if '0' ≤ c && c ≤ '?' then .deviceParameters
      else if '@' ≤ c && c ≤ '~' then .string
      else .device
  | .deviceParameters =>
      if ' ' ≤ c && c ≤ '/' then .deviceIntermediate
      else if '<' ≤ c && c ≤ '~' then .string
      else .deviceParameters
  | .deviceIntermediate =>
      if '0' ≤ c && c ≤ '~' then .string else .deviceIntermediate
  | .string => if endsString c then .outside else .string
  | .command => if c = '\x07' then .outside else .command

def next (place : Place) (c : Char) : Place :=
  if c = escape then .escape
  else if isCancel c then .outside
  else advance place c

def isSeen (place : Place) (c : Char) : Bool :=
  match place with
  | .outside => isBreak c || isWide c || (' ' ≤ c && c ≤ '~')
  | .escape | .intermediate | .parameters => isBreak c
  | .device | .deviceParameters | .deviceIntermediate | .string
  | .command => false

/-- The characters that are seen from a place on.  A break is seen inside most
sequences; it suspends the sequence, and what follows is seen as if it stood
outside, up to the next control character. -/
def visibleFrom (suspended : Bool) (place : Place) : List Char → List Char
  | [] => []
  | c :: rest =>
      if isSeen (if suspended then .outside else place) c then
        c :: visibleFrom true (if isWide c then .outside else place) rest
      else visibleFrom false (next place c) rest

def visible (text : String) : String :=
  String.ofList (visibleFrom false .outside text.toList)

end LineShell.Text.Terminal
