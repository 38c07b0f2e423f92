import LineShell.Files.Path
import LineShell.Log.Destination
import LineShell.Log.Filter
import LineShell.Log.Record
import LineShell.Log.Stamp
import LineShell.Program.Machine
import LineShell.Program.Plan
import Std.Time.DateTime.Timestamp

/-!
# The program

Carries out the plan of the program on the real machine.
-/

namespace LineShell.Main

open CommandLine (InputChoice)
open Input (Action Outcome)
open Log (Filter)
open Program (Plan)
open Settings (SettingsFile)
open Text (Bytes)

def systemMessage : IO.Error → String
  | .alreadyExists _ code details | .otherError code details
  | .resourceBusy code details | .resourceVanished code details
  | .unsupportedOperation code details | .hardwareFault code details
  | .unsatisfiedConstraints code details | .illegalOperation code details
  | .protocolError code details | .timeExpired code details
  | .interrupted _ code details | .noFileOrDirectory _ code details
  | .invalidArgument _ code details | .permissionDenied _ code details
  | .resourceExhausted _ code details | .inappropriateType _ code details
  | .noSuchThing _ code details =>
      details ++ " (os error " ++ toString code.toNat ++ ")"
  | .unexpectedEof => "unexpected end of file"
  | .userError details => details

def isMissing : IO.Error → Bool
  | .noFileOrDirectory .. | .noSuchThing .. => true
  | _ => false

/-- Where records go and which. -/
structure Console where
  filter : Filter
  log : Option IO.FS.Handle

/-- Writes an event to the log, unless it is too unimportant. -/
def record (console : Console) (event : Event) : IO Unit :=
  if console.filter.admits event then do
    let now ← Std.Time.Timestamp.now
    let microseconds := now.toNanosecondsSinceUnixEpoch.val.toNat / 1000
    let line := Log.line (Log.stamp microseconds) event
    match console.log with
    | some handle =>
        handle.putStr line
        handle.flush
    | none => IO.eprint line
  else pure ()

def isDirectory (path : String) : IO Bool :=
  try (← IO.FS.realPath path).isDir catch _ => pure false

/-- Makes the first of some directories, each of which lies in the next, and
those of the others that are missing. -/
def makeInside : List String → IO Unit
  | [] => pure ()
  | path :: outer => do
      try IO.FS.createDir path
      catch error =>
        if isMissing error then
          makeInside outer
          try IO.FS.createDir path
          catch later => unless ← isDirectory path do throw later
        else unless ← isDirectory path do throw error

def openLog (path : String) : IO (Except Failure IO.FS.Handle) := do
  try
    match Log.directoryOf? path with
    | some directory =>
        try makeInside (Files.surrounding directory)
        catch error =>
          return .error (Log.directoryFailed directory (systemMessage error))
    | none => pure ()
    return .ok (← IO.FS.Handle.mk path .write)
  catch error => return .error (Log.fileFailed path (systemMessage error))

def settingsFile (path : String) : IO SettingsFile := do
  let found ← try (← IO.FS.realPath path).pathExists catch _ => pure false
  if found then
    try return .content (← IO.FS.readBinFile path).data.toList
    catch error => return .unreadable (systemMessage error)
  else return .absent

def perform (console : Console) (output : IO.FS.Stream) : Action → IO Unit
  | .write bytes => output.write ⟨bytes.toArray⟩
  | .flush => output.flush
  | .log event => record console event
  | .read _ | .call .. => pure ()

/-- Performs actions until the session ends or the actions do. -/
def performAll (console : Console) (output : IO.FS.Stream)
    (actions : List Action) (stop : Option (Except Failure Outcome)) :
    IO (Option (Except Failure Outcome)) := do
  try
    actions.forM (perform console output)
    return stop
  catch error => return some (.error (.inputOutput (systemMessage error)))

/-- The first complete line of some bytes, and the bytes after it. -/
def firstLine? (bytes : Bytes) : Option (Bytes × Bytes) :=
  match bytes.span (· ≠ Input.newline) with
  | (_, []) => none
  | (line, ending :: rest) => some (line ++ [ending], rest)

/-- Answers the lines of an input, of which a part has been taken. -/
partial def converse (console : Console) (shell : Shell)
    (input output : IO.FS.Stream) (taken : Bytes) :
    IO (Except Failure Outcome) := do
  match firstLine? taken with
  | some (line, rest) =>
      let response := shell.respond line
      match ← performAll console output response.actions response.stop with
      | some ending => return ending
      | none => converse console shell input output rest
  | none => more
where
  /-- Takes more of the input, or answers its last line. -/
  more : IO (Except Failure Outcome) := do
    let chunk ← try pure (Except.ok (← input.read 8192))
      catch error =>
        pure (Except.error (Failure.inputOutput (systemMessage error)))
    match chunk with
    | .error failure => return .error failure
    | .ok bytes =>
        if bytes.isEmpty then
          let response : Input.Response :=
            if taken.isEmpty then ⟨[], none⟩ else shell.respond taken
          match ← performAll console output response.actions response.stop with
          | some ending => return ending
          | none =>
              let closed ← performAll console output Input.closing none
              return closed.getD (.ok .endOfInput)
        else converse console shell input output (taken ++ bytes.data.toList)

def openInput : InputChoice → IO (Except Failure IO.FS.Stream)
  | .standardInput => do return .ok (← IO.getStdin)
  | .script path => do
      try return .ok (.ofHandle (← IO.FS.Handle.mk path .read))
      catch error =>
        return .error
          (Program.Machine.scriptFailed path (systemMessage error))

def carryOut : Plan → Console → IO UInt32
  | .finish code, _ => pure code.toUInt32
  | .print text next, console => do
      IO.print text
      carryOut next console
  | .complain text next, console => do
      IO.eprint text
      carryOut next console
  | .log event next, console => do
      record console event
      carryOut next console
  | .openLog path next, console => do
      match ← openLog path with
      | .ok handle => carryOut (next (.ok ())) { console with log := some handle }
      | .error failure => carryOut (next (.error failure)) console
  | .readSettings path next, console => do
      carryOut (next (← settingsFile path)) console
  | .converse shell choice next, console => do
      let ending ← match ← openInput choice with
        | .ok input => converse console shell input (← IO.getStdout) []
        | .error failure => pure (.error failure)
      carryOut (next ending) console

def environment : IO Environment := do
  let names := ["HOME", "XDG_CONFIG_HOME", "XDG_STATE_HOME",
    CommandLine.sigilVariable, CommandLine.plainVariable,
    CommandLine.styleVariable, Filter.variableName]
  names.filterMapM fun name => do
    return (← IO.getEnv name).map fun value => (name, value)

end LineShell.Main

def main (arguments : List String) : IO UInt32 := do
  let environment ← LineShell.Main.environment
  let filter := LineShell.Log.Filter.ofVariable
    (environment.value? LineShell.Log.Filter.variableName)
  LineShell.Main.carryOut (LineShell.Program.plan arguments environment)
    ⟨filter, none⟩
