import LineShell.Log.Verbosity
import LineShell.Text.Alphanumeric
import LineShell.Text.Slice

/-!
# Rules of the log

A rule says how much is written of some events.  It is a verbosity, or it is
the beginning of the name of a part of the program, or such a beginning with an
equals sign and a verbosity.  A scope in square brackets may stand before the
equals sign, with a name, with a field in braces or with both.

Blanks around a rule are skipped when its marks are looked for, but what stands
between the marks is taken from the text with the blanks, at the same byte
positions.  So a verbosity with a blank before it is the beginning of a name.
-/

namespace LineShell.Log

/-- How much is written of some events. -/
structure Rule where
  /-- What the names of the parts begin with. -/
  target : String
  /-- A field that the events have. -/
  field? : Option String
  /-- Whether the rule is about spans of work only.  No event of this program
  lies in a span. -/
  confined : Bool
  verbosity : Verbosity
  deriving DecidableEq, Repr

namespace Rule

/-- The rule that everything is written of the events of some parts. -/
def ofTarget (target : String) : Rule :=
  ⟨target, none, false, .everything⟩

def ofVerbosity (verbosity : Verbosity) : Rule :=
  ⟨"", none, false, verbosity⟩

/-- Whether an event has the field that a rule asks for.  The message is a
field of every event. -/
def asksFor (rule : Rule) (event : Event) : Bool :=
  match rule.field? with
  | none => true
  | some field => field = "message" || (event.fields.map (·.1)).contains field

def appliesTo (rule : Rule) (event : Event) : Bool :=
  !rule.confined && rule.target.toList.isPrefixOf event.target.toList &&
    rule.asksFor event

/-- Whether a rule decides about an event although another one applies too:
the longer beginning of a name wins, then a field, then the later field in the
order of texts, then the later rule. -/
def overrules (rule earlier : Rule) : Bool :=
  if rule.target.length = earlier.target.length then
    match rule.field?, earlier.field? with
    | _, none => true
    | none, some _ => false
    | some field, some other => !(field < other)
  else earlier.target.length < rule.target.length

/-! ## Reading a rule -/

/-- A character that a rule without a scope in front can start with. -/
def isStart (c : Char) : Bool :=
  Text.isAlphanumeric c || c = '-' || c = ':' || c = '_'

def ofWord (word : String) : Rule :=
  match Verbosity.ofName? word with
  | some verbosity => ofVerbosity verbosity
  | none => ofTarget word

/-- A rule with what is written behind its equals sign. -/
def withVerbosity? (rule : Rule) (written : List Char) : Option Rule :=
  if written.isEmpty then some rule
  else
    (Verbosity.ofName? (String.ofList written)).map fun verbosity =>
      { rule with verbosity }

/-- A rule with the field that stands in its braces.  A field with a value is
looked for in spans only. -/
def withField? (rule : Rule) (written : List Char) : Option Rule :=
  match written.span (· != '=') with
  | ([], []) => none
  | (name, []) => some { rule with field? := some (String.ofList name) }
  | _ => some { rule with confined := true }

def withoutBlanks (text : List Char) : List Char :=
  ((text.dropWhile Text.isWhiteSpace).reverse.dropWhile
    Text.isWhiteSpace).reverse

/-- Reads the end of a rule, from the equals sign on.  It starts at a byte
position of the text. -/
def readEnd? (text : List Char) (rule : Rule) (position : Nat) :
    List Char → Option Rule
  | [] => some rule
  | '=' :: _ =>
      (Text.dropBytes? (position + 1) text).bind rule.withVerbosity?
  | _ => none

/-- Reads the braces of a scope and what follows.  The field starts at a byte
position of the text. -/
def readField? (text : List Char) (rule : Rule) (position : Nat)
    (rest : List Char) : Option Rule :=
  match rest.span (· != '}') with
  | (field, _ :: ']' :: rest) => do
      let last := position + Text.byteSize field
      let rule ← rule.withField? (← Text.slice? position last text)
      readEnd? text rule (last + 2) rest
  | _ => none

/-- Reads a scope and what follows.  Its name starts at a byte position of the
text. -/
def readScope? (text : List Char) (rule : Rule) (position : Nat)
    (rest : List Char) : Option Rule :=
  match rest.span fun c => c != ']' && c != '\x7b' with
  | (name, mark :: rest) => do
      let last := position + Text.byteSize name
      let _ ← Text.slice? position last text
      if mark = ']' then
        readEnd? text { rule with confined := true } (last + 1) rest
      else
        readField? text { rule with confined := !name.isEmpty } (last + 1) rest
  | _ => none

/-- The rule that a text states.  A text whose marks divide a character of the
text states none. -/
def ofText? (text : List Char) : Option Rule :=
  match withoutBlanks text with
  | [] => none
  | '[' :: rest => readScope? text (ofTarget "") 1 rest
  | first :: rest =>
      if !isStart first then none
      else
        match (first :: rest).span fun c => c != '=' && c != '[' with
        | (_, []) => some (ofWord (String.ofList text))
        | (target, mark :: rest) => do
            let last := Text.byteSize target
            let rule := ofTarget (String.ofList (← Text.slice? 0 last text))
            if mark = '[' then readScope? text rule (last + 1) rest
            else readEnd? text rule last (mark :: rest)

end Rule

end LineShell.Log
