import LineShell.Input.Line
import LineShell.Shell

/-!
# The response to a line

What a shell does about one line is a list of actions, the first of which is
reading the line, and possibly the way in which the session ends.  The list is
the same whatever happens to the output; a device decides how much of it comes
to pass.
-/

namespace LineShell

open Text (Bytes)

namespace Input

/-- How a session ends when nothing fails. -/
inductive Outcome where
  | endOfInput
  | exitRequested
  deriving DecidableEq, Repr

/-- One thing that a shell does. -/
inductive Action where
  | read (line : Bytes)
  | log (event : Event)
  | call (name : String) (arguments : List String)
  | write (bytes : Bytes)
  | flush
  deriving DecidableEq, Repr

namespace Action

def event? : Action → Option Event
  | .log event => some event
  | .read _ | .call .. | .write _ | .flush => none

def written : Action → Bytes
  | .write bytes => bytes
  | .read _ | .log _ | .call .. | .flush => []

def isFlush : Action → Bool
  | .flush => true
  | .read _ | .log _ | .call .. | .write _ => false

end Action

/-- The actions that answer with a text: it is written with a newline and sent
off. -/
def answer (text : String) : List Action :=
  [.write (Text.encode (text ++ "\n")), .flush]

/-- What a shell does about a line. -/
structure Response where
  actions : List Action
  /-- How the session ends with this line, if it does. -/
  stop : Option (Except Failure Outcome)

/-- What a shell does when there are no more lines. -/
def closing : List Action :=
  [.log .inputEnded, .flush]

end Input

namespace Statement

/-- What reading and carrying out a statement does before there is a result. -/
def actions (statement : Statement) : List Input.Action :=
  statement.readEvent?.toList.map .log ++
    match statement with
    | .call name _ arguments =>
        statement.executeEvent?.toList.map .log ++ [.call name arguments]
    | .rejected _ => []

end Statement

namespace Shell

open Input (Action Outcome Response answer)

/-- What a shell does with the result of a statement. -/
def settle (shell : Shell) : Except Failure Command.Reply → Response
  | .ok (.text message) => ⟨answer message, none⟩
  | .ok .silent => ⟨[], none⟩
  | .ok .leave =>
      ⟨[.log .exitRequested, .flush], some (.ok .exitRequested)⟩
  | .error failure =>
      match shell.policy with
      | .report =>
          ⟨.log (.commandFailed failure) ::
            answer ("Error: " ++ failure.message), none⟩
      | .abort => ⟨[], some (.error failure)⟩

def respondToText (shell : Shell) (line : String) : Response :=
  let statement := shell.read line
  let settled := shell.settle (statement.execute shell.context)
  ⟨statement.actions ++ settled.actions, settled.stop⟩

/-- What a shell does about a line of bytes.  A line that is not text is
answered without being read. -/
def respond (shell : Shell) (line : Bytes) : Response :=
  match Text.decode? (Input.content line) with
  | none =>
      ⟨.read line :: .log (.undecodable line.length) ::
        answer "Error: invalid input", none⟩
  | some text =>
      let response := shell.respondToText text
      ⟨.read line :: response.actions, response.stop⟩

end Shell

end LineShell
