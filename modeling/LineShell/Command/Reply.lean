/-!
# Replies

What a command gives back to the shell that called it.
-/

namespace LineShell.Command

/-- The reply of a command that did not fail. -/
inductive Reply where
  | text (message : String)
  /-- The command ran and has nothing to show. -/
  | silent
  | leave
  deriving DecidableEq, Repr

namespace Reply

def ofOption : Option String → Reply
  | some message => .text message
  | none => .silent

def text? : Reply → Option String
  | .text message => some message
  | .silent | .leave => none

def isLeave : Reply → Bool
  | .leave => true
  | .text _ | .silent => false

end Reply

end LineShell.Command
