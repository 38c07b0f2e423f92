import LineShell.CommandLine.Arguments
import LineShell.Text.Terminal

/-!
# What the program says about itself

The description of the options, the version, and the complaint about a wrong
command line.  They are laid out with control sequences for a terminal, which
are only written if the environment asks for them.
-/

namespace LineShell.CommandLine

def versionText : String := "linecmd 0.1.0\n"

/-- Ends what a control sequence switched on. -/
def plainAgain : String := "\x1b[0m"

/-- A text that is to be typed as it is: bold. -/
def literal (text : String) : String :=
  "\x1b[1m" ++ text ++ plainAgain

def heading (text : String) : String :=
  "\x1b[1m\x1b[4m" ++ text ++ plainAgain

def mistake (text : String) : String :=
  "\x1b[33m" ++ text ++ plainAgain

def alarm (text : String) : String :=
  "\x1b[1m\x1b[31m" ++ text ++ plainAgain

/-- The variable that forbids control sequences. -/
def plainVariable : String := "NO_COLOR"

/-- The variable that asks for control sequences. -/
def styleVariable : String := "CLICOLOR_FORCE"

/-- Whether a variable says anything. -/
def isSaid (environment : Environment) (name : String) : Bool :=
  (environment.value? name).any fun value => !value.isEmpty

/-- A text with its control sequences, or what a terminal shows of it. -/
def styledFor (environment : Environment) (text : String) : String :=
  if isSaid environment styleVariable && !isSaid environment plainVariable then
    text
  else Text.Terminal.visible text

/-- A text whose lines after the first start below the first. -/
def hangingLines (indent : Nat) (text : List Char) : List Char :=
  text.flatMap fun c =>
    if c = '\n' then '\n' :: List.replicate indent ' ' else [c]

def descriptionColumn : Nat := 27

/-- What an option is for.  The value that the environment gives for the sigil
is shown with the option for it. -/
def description (environment : Environment) : NamedOption → String
  | .valued .sigil =>
      "Character that starts a command (overrides config) [env: " ++
        sigilVariable ++ "=" ++
        (environment.value? sigilVariable).getD "" ++ "]"
  | .valued .settings => "Config file path"
  | .valued .script => "Path to script file with commands (use \"-\" for stdin)"
  | .failFast => "Stop on the first command that fails"
  | .valued .log =>
      "Write logs to a file instead of stderr (default: state dir)"
  | .help => "Print help"
  | .version => "Print version"

def optionLine (environment : Environment) (option : NamedOption) : String :=
  let letter := match option.letter? with
    | some c => literal (String.ofList ['-', c]) ++ ", "
    | none => "    "
  let gap := descriptionColumn - 6 - option.usage.length
  "  " ++ letter ++ literal ("--" ++ option.name) ++ option.placeholder ++
    String.ofList (List.replicate gap ' ' ++
      hangingLines descriptionColumn
        (description environment option).toList) ++ "\n"

def usageLine : String :=
  heading "Usage:" ++ " " ++ literal "linecmd" ++ " [OPTIONS]\n"

def helpText (environment : Environment) : String :=
  styledFor environment
    ("A line-oriented command dispatch engine for REPL-style tools\n\n" ++
      usageLine ++ "\n" ++ heading "Options:" ++ "\n" ++
      String.join (NamedOption.all.map (optionLine environment)))

def characterFault (value : String) : String :=
  if value.isEmpty then "cannot parse char from empty string"
  else "too many characters in string"

def UsageError.message : UsageError → String
  | .unknownArgument argument =>
      "unexpected argument '" ++ mistake argument ++ "' found"
  | .valueMissing option =>
      "a value is required for '" ++ mistake (NamedOption.valued option).usage ++
        "' but none was supplied"
  | .valueRefused option value =>
      "invalid value '" ++ mistake value ++ "' for '" ++
        literal (NamedOption.valued option).usage ++ "': " ++
        characterFault value
  | .repeated option =>
      "the argument '" ++ mistake option.usage ++
        "' cannot be used multiple times"
  | .valueUnexpected option value =>
      "unexpected value '" ++ mistake value ++ "' for '" ++
        literal option.usage ++ "' found; no more were expected"

def UsageError.showsUsage : UsageError → Bool
  | .valueMissing _ | .valueRefused .. => false
  | .unknownArgument _ | .repeated _ | .valueUnexpected .. => true

def complaint (environment : Environment) (error : UsageError) : String :=
  styledFor environment
    (alarm "error:" ++ " " ++ error.message ++ "\n\n" ++
      (if error.showsUsage then usageLine ++ "\n" else "") ++
      "For more information, try '" ++ literal "--help" ++ "'.\n")

end LineShell.CommandLine
