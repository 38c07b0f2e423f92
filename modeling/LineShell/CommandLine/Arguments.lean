import LineShell.CommandLine.Options

/-!
# Reading the command line

Arguments are read from left to right.  An option that takes a value has it
attached or as the next argument that is not an option itself; it counts when
the following option or the end shows that no more comes.  The first thing
wrong decides.
-/

namespace LineShell.CommandLine

/-- An option that takes a value. -/
inductive ValueOption where
  | sigil
  | settings
  | script
  | log
  deriving DecidableEq, Repr

namespace ValueOption

def name : ValueOption → String
  | .sigil => "prefix"
  | .settings => "config"
  | .script => "script"
  | .log => "log-file"

/-- How the value of an option is written in descriptions. -/
def placeholder : ValueOption → String
  | .sigil => " <CHAR>"
  | .settings | .script => " <PATH>"
  | .log => " [<PATH>]"

end ValueOption

/-- An option by its name. -/
inductive NamedOption where
  | valued (option : ValueOption)
  | failFast
  | help
  | version
  deriving DecidableEq, Repr

namespace NamedOption

def name : NamedOption → String
  | .valued option => option.name
  | .failFast => "fail-fast"
  | .help => "help"
  | .version => "version"

def letter? : NamedOption → Option Char
  | .valued .sigil => some 'p'
  | .help => some 'h'
  | .version => some 'V'
  | .valued _ | .failFast => none

/-- How the value of an option is written in descriptions; empty if it takes
none. -/
def placeholder : NamedOption → String
  | .valued option => option.placeholder
  | .failFast | .help | .version => ""

/-- An option with the value it takes, as it is written in descriptions. -/
def usage (option : NamedOption) : String :=
  "--" ++ option.name ++ option.placeholder

/-- All options, in the order in which they are described. -/
def all : List NamedOption :=
  [.valued .sigil, .valued .settings, .valued .script, .failFast, .valued .log,
    .help, .version]

end NamedOption

/-- What can be wrong with the command line. -/
inductive UsageError where
  /-- An argument that is no option and no value of one. -/
  | unknownArgument (argument : String)
  | valueMissing (option : ValueOption)
  | valueRefused (option : ValueOption) (value : String)
  | repeated (option : NamedOption)
  /-- A value attached to an option that takes none. -/
  | valueUnexpected (option : NamedOption) (value : String)
  deriving DecidableEq, Repr

/-- Why the program does not start a session. -/
inductive Halt where
  | usage (error : UsageError)
  | help
  | version
  deriving DecidableEq, Repr

namespace Halt

def exitCode : Halt → Nat
  | .usage _ => 2
  | .help | .version => 0

end Halt

def longOption? (name : String) : Option NamedOption :=
  NamedOption.all.find? fun option => option.name = name

def shortOption? (letter : Char) : Option NamedOption :=
  NamedOption.all.find? fun option => option.letter? = some letter

/-- The options that have been read so far. -/
structure Draft where
  sigil : Option Char
  settings : Option String
  script : Option String
  failFast : Bool
  /-- A log file without a path is one that the environment determines. -/
  log : Option (Option String)
  deriving DecidableEq, Repr

namespace Draft

def empty : Draft :=
  ⟨none, none, none, false, none⟩

def has (draft : Draft) : ValueOption → Bool
  | .sigil => draft.sigil.isSome
  | .settings => draft.settings.isSome
  | .script => draft.script.isSome
  | .log => draft.log.isSome

def options (draft : Draft) : Options :=
  { sigil := draft.sigil
    settings := draft.settings
    script := draft.script
    failFast := draft.failFast
    log := match draft.log with
      | none => .errorOutput
      | some none => .standardFile
      | some (some path) => .file path }

end Draft

def pathValue (option : ValueOption) (value : String) :
    Except Halt String :=
  if value.isEmpty then .error (.usage (.valueMissing option))
  else .ok value

def characterValue (value : String) : Except Halt Char :=
  match value.toList with
  | [c] => .ok c
  | _ => .error (.usage (.valueRefused .sigil value))

def enterValue (draft : Draft) (option : ValueOption) (value : String) :
    Except Halt Draft :=
  match option with
  | .sigil =>
      (characterValue value).map fun c => { draft with sigil := some c }
  | .settings =>
      (pathValue option value).map fun path =>
        { draft with settings := some path }
  | .script => .ok { draft with script := some value }
  | .log =>
      (pathValue option value).map fun path =>
        { draft with log := some (some path) }

/-- Enters an option with or without a value.  Only a log file can do
without. -/
def enter (draft : Draft) (option : ValueOption) (value : Option String) :
    Except Halt Draft :=
  match value, option with
  | none, .sigil | none, .settings | none, .script =>
      .error (.usage (.valueMissing option))
  | none, .log =>
      if draft.has .log then .error (.usage (.repeated (.valued option)))
      else .ok { draft with log := some none }
  | some value, _ =>
      if draft.has option then .error (.usage (.repeated (.valued option)))
      else enterValue draft option value

/-- An option that has been read but may still get a value. -/
structure Pending where
  option : ValueOption
  value : Option String
  deriving DecidableEq, Repr

def settle (draft : Draft) : Option Pending → Except Halt Draft
  | none => .ok draft
  | some pending => enter draft pending.option pending.value

def enterFlag (draft : Draft) : NamedOption → Except Halt Draft
  | .help => .error .help
  | .version => .error .version
  | .failFast =>
      if draft.failFast then .error (.usage (.repeated .failFast))
      else .ok { draft with failFast := true }
  | .valued _ => .ok draft

/-- What an argument looks like. -/
inductive Shape where
  /-- Two dashes: no options follow. -/
  | separator
  /-- Two dashes with a name, and the value attached by an equals sign. -/
  | long (name : String) (attached : Option String)
  /-- A dash, a letter and what follows it. -/
  | short (letter : Char) (rest : List Char)
  | plain
  deriving DecidableEq, Repr

def cutAtEquals (text : List Char) : String × Option String :=
  match text.span (· != '=') with
  | (name, _ :: value) => (String.ofList name, some (String.ofList value))
  | (name, []) => (String.ofList name, none)

def shapeOf (argument : String) : Shape :=
  match argument.toList with
  | ['-', '-'] => .separator
  | '-' :: '-' :: rest =>
      let (name, attached) := cutAtEquals rest
      .long name attached
  | '-' :: letter :: rest => .short letter rest
  | _ => .plain

/-- The value attached to a letter; an equals sign before it does not count. -/
def attachedValue? : List Char → Option String
  | [] => none
  | '=' :: value => some (String.ofList value)
  | value => some (String.ofList value)

/-- The state of reading: the options so far and one that may get a value. -/
structure Progress where
  draft : Draft
  pending : Option Pending
  deriving DecidableEq, Repr

def takeOption (progress : Progress) (option : NamedOption)
    (attached : Option String) : Except Halt Progress := do
  let draft ← settle progress.draft progress.pending
  match option, attached with
  | .valued option, none => pure ⟨draft, some ⟨option, none⟩⟩
  | .valued option, some value =>
      pure ⟨← enter draft option (some value), none⟩
  | flag, _ => pure ⟨← enterFlag draft flag, none⟩

def takeArgument (progress : Progress) (argument : String) :
    Except Halt Progress :=
  match shapeOf argument with
  | .separator => .ok progress
  | .long name attached =>
      match longOption? name, attached with
      | none, _ => .error (.usage (.unknownArgument ("--" ++ name)))
      | some (.valued option), _ =>
          takeOption progress (.valued option) attached
      | some flag, none => takeOption progress flag none
      | some flag, some value => .error (.usage (.valueUnexpected flag value))
  | .short letter rest =>
      match shortOption? letter with
      | none =>
          .error (.usage (.unknownArgument (String.ofList ['-', letter])))
      | some option => takeOption progress option (attachedValue? rest)
  | .plain =>
      match progress.pending with
      | some ⟨option, none⟩ =>
          .ok ⟨progress.draft, some ⟨option, some argument⟩⟩
      | _ => .error (.usage (.unknownArgument argument))

/-- Takes all arguments.  After two dashes nothing can follow, because the
program takes options only. -/
def takeArguments (progress : Progress) : List String → Except Halt Draft
  | [] => settle progress.draft progress.pending
  | argument :: rest =>
      match shapeOf argument, rest with
      | .separator, [] => settle progress.draft progress.pending
      | .separator, next :: _ => .error (.usage (.unknownArgument next))
      | _, _ => do takeArguments (← takeArgument progress argument) rest

def sigilVariable : String := "LINECMD_PREFIX"

/-- Reads the command line.  The environment gives the sigil if the command
line does not. -/
def read (arguments : List String) (environment : Environment) :
    Except Halt Options := do
  let draft ← takeArguments ⟨.empty, none⟩ arguments
  match draft.sigil, environment.value? sigilVariable with
  | none, some value =>
      pure (← enterValue draft .sigil value).options
  | _, _ => pure draft.options

end LineShell.CommandLine
