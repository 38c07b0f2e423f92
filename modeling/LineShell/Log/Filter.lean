import LineShell.Log.Rule

/-!
# The filter of the log

The environment says which events are written by rules with commas between
them.  Among the rules that apply to an event one decides, whatever the others
say.
-/

namespace LineShell.Log

/-- The rules of a log. -/
structure Filter where
  rules : List Rule
  deriving DecidableEq, Repr

namespace Filter

/-- A filter that treats all parts of the program alike. -/
def ofVerbosity (verbosity : Verbosity) : Filter :=
  ⟨[.ofVerbosity verbosity]⟩

def deciding? (filter : Filter) (event : Event) : Option Rule :=
  (filter.rules.filter (·.appliesTo event)).foldl (fun best rule =>
    match best with
    | none => some rule
    | some earlier => if rule.overrules earlier then some rule else best) none

/-- Whether an event is written.  An event without a rule is not. -/
def admits (filter : Filter) (event : Event) : Bool :=
  match filter.deciding? event with
  | none => false
  | some rule => rule.verbosity.admits event

def cutAtCommas : List Char → List (List Char)
  | [] => [[]]
  | c :: rest =>
      if c = ',' then [] :: cutAtCommas rest
      else
        match cutAtCommas rest with
        | [] => [[c]]
        | piece :: pieces => (c :: piece) :: pieces

/-- The filter that a text states.  A text without rules is a filter that
admits nothing. -/
def ofText? (text : String) : Option Filter :=
  (((cutAtCommas text.toList).filter (!·.isEmpty)).mapM Rule.ofText?).map
    Filter.mk

/-- The filter that a variable of the environment asks for.  Without a usable
value general information is written. -/
def ofVariable (value : Option String) : Filter :=
  (value.bind ofText?).getD (.ofVerbosity (.fromLevel .info))

def variableName : String := "RUST_LOG"

end Filter

end LineShell.Log
