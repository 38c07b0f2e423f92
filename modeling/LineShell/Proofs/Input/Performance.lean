import LineShell.Proofs.Input.Reference

/-!
# Sessions on devices

What a shell wants to do does not depend on the device that it writes to.  The
session on a device that never fails is the ideal one, and the session on any
other device is the ideal one as far as the device lets it
(`runOn_eq_enact`).
-/

namespace LineShell

open Text (Bytes)

namespace Input

variable {State : Type}

namespace Action

/-- Whether an action reaches the device. -/
def isOutput : Action → Bool
  | .write _ | .flush => true
  | .read _ | .log _ | .call .. => false

/-- Whether an action calls a command, or reports that a statement was read or
is carried out. -/
def isOfStatement : Action → Bool
  | .call .. | .log (.unknownCommand _) | .log (.argumentsUnreadable ..)
  | .log (.tooFewArguments ..) | .log (.executing ..) => true
  | _ => false

theorem isOutput_eq_false {action : Action}
    (ofStatement : action.isOfStatement = true) : action.isOutput = false := by
  cases action with
  | write | flush => cases ofStatement
  | read | log | call => rfl

end Action

namespace Performance

/-- Goes on after a performance unless the device has failed. -/
def andThen (performance : Performance State)
    (next : State → Performance State) : Performance State :=
  match performance.result with
  | .error failure => ⟨performance.actions, .error failure⟩
  | .ok state =>
      ⟨performance.actions ++ (next state).actions, (next state).result⟩

theorem after_andThen (action : Action) (performance : Performance State)
    (next : State → Performance State) :
    (performance.after action).andThen next =
      (performance.andThen next).after action := by
  obtain ⟨actions, result⟩ := performance
  cases result <;> rfl

end Performance

namespace Device

variable (device : Device State) (state : State)

theorem perform_append (first second : List Action) :
    device.perform state (first ++ second) =
      (device.perform state first).andThen fun next =>
        device.perform next second := by
  induction first generalizing state with
  | nil => rfl
  | cons action first induction =>
      cases action with
      | write bytes =>
          simp only [List.cons_append, perform]
          cases device.write state bytes with
          | complete next =>
              simp only [induction, Performance.after_andThen]
          | broken stored failure => rfl
      | flush =>
          simp only [List.cons_append, perform]
          cases device.flush state with
          | ok next =>
              simp only [induction, Performance.after_andThen]
          | error failure => rfl
      | read | log | call =>
          simp only [List.cons_append, perform, induction,
            Performance.after_andThen]

/-- An ideal session as far as a device lets it. -/
def enact (ideal : Transcript) : Transcript :=
  let performance := device.perform state ideal.actions
  ⟨performance.actions, performance.result.bind fun _ => ideal.ending⟩

end Device

end Input

theorem Statement.isOfStatement_actions (statement : Statement) :
    ∀ action ∈ statement.actions, action.isOfStatement = true := by
  cases statement with
  | call name handler arguments =>
      simp [actions, readEvent?, executeEvent?, Input.Action.isOfStatement]
  | rejected rejection =>
      cases rejection <;>
        simp [actions, readEvent?, Rejection.event?,
          Input.Action.isOfStatement]

namespace Shell

open Input

variable (shell : Shell) (failure : Option Failure)

theorem answerLines_reliable_cons (line : Bytes) (rest : List Bytes) :
    shell.answerLines reliable failure () (line :: rest) =
      match (shell.respond line).stop with
      | some ending => ⟨(shell.respond line).actions, ending⟩
      | none => (shell.answerLines reliable failure () rest).after
          (shell.respond line).actions := by
  cases stop : (shell.respond line).stop <;>
    simp only [answerLines, perform_reliable, stop]

variable {State : Type} (device : Device State) (state : State)

theorem answerLines_eq_enact (lines : List Bytes) :
    shell.answerLines device failure state lines =
      device.enact state (shell.answerLines reliable failure () lines) := by
  induction lines generalizing state with
  | nil =>
      cases failure with
      | some failure => rfl
      | none =>
          simp only [answerLines, close, perform_reliable, Device.enact]
          cases (device.perform state closing).result <;> rfl
  | cons line rest induction =>
      rw [answerLines_reliable_cons, answerLines]
      cases (shell.respond line).stop with
      | some ending =>
          simp only [Device.enact]
          cases (device.perform state (shell.respond line).actions).result <;>
            rfl
      | none =>
          simp only [Device.enact, Transcript.after, Device.perform_append,
            Performance.andThen]
          cases (device.perform state (shell.respond line).actions).result with
          | error broken => rfl
          | ok next => simp only [induction, Device.enact]

theorem runOn_eq_enact (source : Source) :
    shell.runOn device state source =
      device.enact state (shell.runOn reliable () source) :=
  shell.answerLines_eq_enact source.failure device state source.lines

end Shell

end LineShell
