import LineShell.Input.Response

/-!
# Output devices

A device takes bytes and may break down while it does.  Performing a list of
actions on a device stops at the first action that the device fails; a write
that fails may have stored the beginning of its bytes.
-/

namespace LineShell.Input

open Text (Bytes)

/-- What became of a write. -/
inductive Written (State : Type) where
  | complete (next : State)
  /-- Only so many bytes were stored. -/
  | broken (stored : Nat) (failure : Failure)

/-- The behaviour of an output. -/
structure Device (State : Type) where
  write : State → Bytes → Written State
  flush : State → Except Failure State

/-- The actions that came to pass, and the device after them or its failure. -/
structure Performance (State : Type) where
  actions : List Action
  result : Except Failure State

namespace Performance

def after {State : Type} (action : Action) (performance : Performance State) :
    Performance State :=
  ⟨action :: performance.actions, performance.result⟩

end Performance

/-- Performs actions on a device, as far as it lets them. -/
def Device.perform {State : Type} (device : Device State) (state : State) :
    List Action → Performance State
  | [] => ⟨[], .ok state⟩
  | .write bytes :: rest =>
      match device.write state bytes with
      | .complete next =>
          (device.perform next rest).after (.write bytes)
      | .broken stored failure =>
          ⟨[.write (bytes.take stored)], .error failure⟩
  | .flush :: rest =>
      match device.flush state with
      | .ok next => (device.perform next rest).after .flush
      | .error failure => ⟨[], .error failure⟩
  | .read line :: rest => (device.perform state rest).after (.read line)
  | .log event :: rest => (device.perform state rest).after (.log event)
  | .call name arguments :: rest =>
      (device.perform state rest).after (.call name arguments)

def reliable : Device Unit where
  write _ _ := .complete ()
  flush _ := .ok ()

/-- What a device of limited means has left; without a number the means are
unlimited. -/
structure Allowance where
  bytes : Option Nat
  flushes : Option Nat
  deriving DecidableEq, Repr

/-- The failure of a device that can store no more. -/
def sinkFull : Failure :=
  .inputOutput "sink full"

/-- The failure of a device that can flush no more. -/
def flushFailed : Failure :=
  .inputOutput "flush failed"

/-- A device that stores so many bytes and flushes so many times. -/
def limited : Device Allowance where
  write allowance bytes :=
    match allowance.bytes with
    | none => .complete allowance
    | some room =>
        if bytes.length ≤ room then
          .complete { allowance with bytes := some (room - bytes.length) }
        else .broken room sinkFull
  flush allowance :=
    match allowance.flushes with
    | none => .ok allowance
    | some 0 => .error flushFailed
    | some (left + 1) => .ok { allowance with flushes := some left }

end LineShell.Input
