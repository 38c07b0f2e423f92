import LineShell.Command.Installation
import LineShell.Settings.Sigil
import LineShell.Shell
import LineShell.Text.Utf8
import LineShell.Toml.Tree

/-!
# The settings file

A settings file is a TOML document.  Every setting has a default, so a missing
file or an empty one gives a usable configuration, and keys that mean nothing
to the program are passed over.
-/

namespace LineShell.Settings

open Command (BuiltinSwitches)
open Toml (Value)

/-- What can be set in a file. -/
structure Configuration where
  /-- The character that starts a command line. -/
  sigil : Char
  failFast : Bool
  builtins : BuiltinSwitches
  deriving DecidableEq, Repr

namespace Configuration

/-- The configuration of a file that says nothing. -/
def standard : Configuration :=
  ⟨defaultSigil, false, .all⟩

end Configuration

/-- What is found where the settings file is looked for. -/
inductive SettingsFile where
  | absent
  /-- There is something that cannot be read, for the given reason. -/
  | unreadable (reason : String)
  | content (bytes : Text.Bytes)
  deriving DecidableEq, Repr

def boolean? : Value → Option Bool
  | .boolean truth => some truth
  | _ => none

def character? : Value → Option Char
  | .text content =>
      match content.toList with
      | [c] => some c
      | _ => none
  | _ => none

/-- The setting of a key, or its default if the key is not there. -/
def settingOr {α : Type} (read? : Value → Option α) (otherwise : α) :
    Option Value → Option α
  | none => some otherwise
  | some value => read? value

/-- The switches of the commands that act on the shell.  They are given by
name, or in the order help, exit, quit; a date names none of them. -/
def switches? : Value → Option BuiltinSwitches
  | .table entries => do
      let help ← settingOr boolean? true (entries.lookup "help")
      let exit ← settingOr boolean? true (entries.lookup "exit")
      let quit ← settingOr boolean? true (entries.lookup "quit")
      pure ⟨help, exit, quit⟩
  | .array items => do
      let help ← settingOr boolean? true items[0]?
      let exit ← settingOr boolean? true items[1]?
      let quit ← settingOr boolean? true items[2]?
      pure ⟨help, exit, quit⟩
  | .dateTime => some .all
  | _ => none

/-- The configuration that a document describes, whatever its sigil. -/
def ofDocument? (entries : List (String × Value)) : Option Configuration := do
  let sigil ← settingOr character? defaultSigil (entries.lookup "prefix")
  let failFast ← settingOr boolean? false (entries.lookup "fail_fast")
  let builtins ← settingOr switches? .all (entries.lookup "builtins")
  pure ⟨sigil, failFast, builtins⟩

def unreadableFile (reason : String) : Failure :=
  .configuration ("Failed to read config file: " ++ reason)

/-- The failure of a file that is no settings document. -/
def unusableFile (path : String) : Failure :=
  .configuration ("Configuration error in " ++ path ++
    ":\n  not a TOML document with usable settings")

def ofText (path text : String) : Except Failure Configuration :=
  match Toml.parse? text >>= ofDocument? with
  | none => .error (unusableFile path)
  | some configuration => do
      checkSigil configuration.sigil
      pure configuration

def load (path : String) : SettingsFile → Except Failure Configuration
  | .absent => .ok .standard
  | .unreadable reason => .error (unreadableFile reason)
  | .content bytes =>
      match Text.decode? bytes with
      | none =>
          .error (unreadableFile "stream did not contain valid UTF-8")
      | some text => ofText path text

end LineShell.Settings
