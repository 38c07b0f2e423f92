import LineShell.Input.Device

/-!
# Sessions

A session answers the lines of an input one after the other until a line ends
it, the output fails or there are no more lines.  Its transcript holds the
actions that came to pass and the way in which it ended.
-/

namespace LineShell

open Text (Bytes)

namespace Input

/-- Where lines come from: the lines that can be read, and the failure that
follows them if the input does not end there. -/
structure Source where
  lines : List Bytes
  failure : Option Failure

namespace Source

def ofBytes (bytes : Bytes) : Source :=
  ⟨cutLines bytes, none⟩

/-- An input that fails where it would end; an unfinished line is lost. -/
def failing (bytes : Bytes) (failure : Failure) : Source :=
  ⟨completeLines bytes, some failure⟩

end Source

/-- What happened in a session and how it ended. -/
structure Transcript where
  actions : List Action
  ending : Except Failure Outcome

namespace Transcript

def after (actions : List Action) (transcript : Transcript) : Transcript :=
  ⟨actions ++ transcript.actions, transcript.ending⟩

def output (transcript : Transcript) : Bytes :=
  transcript.actions.flatMap Action.written

def flushes (transcript : Transcript) : Nat :=
  transcript.actions.countP Action.isFlush

def events (transcript : Transcript) : List Event :=
  transcript.actions.filterMap Action.event?

end Transcript

end Input

namespace Shell

open Input

def close {State : Type} (device : Device State) (state : State) :
    Option Failure → Transcript
  | some failure => ⟨[], .error failure⟩
  | none =>
      let performance := device.perform state closing
      ⟨performance.actions,
        performance.result.map fun _ => Outcome.endOfInput⟩

def answerLines {State : Type} (shell : Shell) (device : Device State)
    (failure : Option Failure) : State → List Bytes → Transcript
  | state, [] => close device state failure
  | state, line :: rest =>
      let response := shell.respond line
      let performance := device.perform state response.actions
      match performance.result with
      | .error broken => ⟨performance.actions, .error broken⟩
      | .ok next =>
          match response.stop with
          | some ending => ⟨performance.actions, ending⟩
          | none =>
              (answerLines shell device failure next rest).after
                performance.actions

def runOn {State : Type} (shell : Shell) (device : Device State)
    (state : State) (source : Source) : Transcript :=
  shell.answerLines device source.failure state source.lines

/-- A session on a device that never fails. -/
def run (shell : Shell) (bytes : Bytes) : Transcript :=
  shell.runOn reliable () (.ofBytes bytes)

end Shell

end LineShell
