import LineShell.Command.Installation
import LineShell.Proofs.Input.Stages

/-!
# Nothing is left unflushed

A device may fail any write, of which it stores a part, and any flush; the
session is over then, and it is the ideal session up to there
(`runOn_cases`).  As long as the device does not fail, everything that has been
written is flushed before the session tries to take another line and before it
ends, however it ends.  If the device fails, what is left unflushed belongs to
the one answer that was in progress (`run_flushed`).
-/

namespace LineShell

open Text (Bytes)

namespace Input

variable {State : Type}

/-- A device performs some actions and fails the next one, of which it may do a
part. -/
inductive Breakdown (device : Device State) (state : State)
    (before : List Action) : Action → List Action → Failure → Prop where
  | write {next : State} {bytes : Bytes} {stored : Nat} {failure : Failure} :
      device.perform state before = ⟨before, .ok next⟩ →
      device.write next bytes = .broken stored failure →
      Breakdown device state before (.write bytes)
        [.write (bytes.take stored)] failure
  | flush {next : State} {failure : Failure} :
      device.perform state before = ⟨before, .ok next⟩ →
      device.flush next = .error failure →
      Breakdown device state before .flush [] failure

section Performing

variable (device : Device State) (state : State)

theorem Device.perform_cons {device : Device State} {state next : State}
    {action : Action}
    (performed : device.perform state [action] = ⟨[action], .ok next⟩)
    (rest : List Action) :
    device.perform state (action :: rest) =
      (device.perform next rest).after action := by
  rw [← List.singleton_append, perform_append, performed]
  rfl

theorem Breakdown.cons {device : Device State} {state next : State}
    {action failed : Action} {before part : List Action} {failure : Failure}
    (performed : device.perform state [action] = ⟨[action], .ok next⟩)
    (breakdown : Breakdown device next before failed part failure) :
    Breakdown device state (action :: before) failed part failure := by
  have earlier {last : State}
      (rest : device.perform next before = ⟨before, .ok last⟩) :
      device.perform state (action :: before) =
        ⟨action :: before, .ok last⟩ := by
    rw [Device.perform_cons performed, rest]
    rfl
  cases breakdown with
  | write rest failed => exact .write (earlier rest) failed
  | flush rest failed => exact .flush (earlier rest) failed

theorem Device.perform_singleton_cases (action : Action) :
    (∃ next, device.perform state [action] = ⟨[action], .ok next⟩) ∨
      ∃ part failure, Breakdown device state [] action part failure ∧
        ∀ rest, device.perform state (action :: rest) =
          ⟨part, .error failure⟩ := by
  cases action with
  | read line => exact .inl ⟨state, rfl⟩
  | log event => exact .inl ⟨state, rfl⟩
  | call name arguments => exact .inl ⟨state, rfl⟩
  | write bytes =>
      cases written : device.write state bytes with
      | complete next =>
          left
          exact ⟨next, by simp [perform, written, Performance.after]⟩
      | broken stored failure =>
          right
          refine ⟨_, failure, .write rfl written, ?_⟩
          intro rest
          simp only [perform, written]
  | flush =>
      cases flushed : device.flush state with
      | ok next =>
          left
          exact ⟨next, by simp [perform, flushed, Performance.after]⟩
      | error failure =>
          right
          refine ⟨_, failure, .flush rfl flushed, ?_⟩
          intro rest
          simp only [perform, flushed]

/-- A device performs all of some actions, or those before one that it
fails. -/
theorem Device.perform_cases (actions : List Action) :
    (∃ last, device.perform state actions = ⟨actions, .ok last⟩) ∨
      ∃ before failed after part failure,
        actions = before ++ failed :: after ∧
        Breakdown device state before failed part failure ∧
        device.perform state actions = ⟨before ++ part, .error failure⟩ := by
  induction actions generalizing state with
  | nil => exact .inl ⟨state, rfl⟩
  | cons action actions ih =>
      rcases device.perform_singleton_cases state action with
        ⟨next, performed⟩ | ⟨part, failure, breakdown, result⟩
      · rw [Device.perform_cons performed]
        rcases ih next with ⟨last, all⟩ |
          ⟨before, failed, after, part, failure, rfl, breakdown, result⟩
        · left
          rw [all]
          exact ⟨last, rfl⟩
        · right
          rw [result]
          exact ⟨action :: before, failed, after, part, failure, rfl,
            breakdown.cons performed, rfl⟩
      · right
        exact ⟨[], action, actions, part, failure, rfl, breakdown,
          result actions⟩

end Performing

theorem Breakdown.passes {shell : Shell} {device : Device State}
    {state : State} {before part after : List Action} {failed : Action}
    {failure : Failure} {first last : Stage}
    (breakdown : Breakdown device state before failed part failure)
    (passes : Passes shell first (before ++ failed :: after) last) :
    ∃ stage, Passes shell first (before ++ part) stage := by
  obtain ⟨stage, earlier, later⟩ := passes.split
  cases breakdown with
  | flush =>
      rw [List.append_nil]
      exact ⟨stage, earlier⟩
  | @write _ bytes stored =>
      cases later with
      | cons step rest =>
          cases step with
          | silent quiet => cases quiet
          | answer answered whole =>
              have part := (List.take_prefix stored bytes).trans whole
              exact ⟨_, earlier.append (.cons (.answer answered part) .nil)⟩

namespace Transcript

/-- The line that a session took last. -/
def lastLine? (session : Transcript) : Option Bytes :=
  (session.actions.filterMap Action.line?).getLast?

end Transcript

/-- How a session ends that its device does not break off. -/
inductive Returned (shell : Shell) (source : Source) (session : Transcript) :
    Prop where
  | inputEnded :
      source.failure = none →
      session.ending = .ok .endOfInput →
      Returned shell source session
  | readFailed {reason : Failure} :
      source.failure = some reason →
      session.ending = .error reason →
      Returned shell source session
  | left {line : Bytes} :
      session.lastLine? = some line →
      shell.verdict line = .stop (.ok .exitRequested) →
      session.ending = .ok .exitRequested →
      Returned shell source session
  | commandFailed {line : Bytes} {reason : Failure} :
      session.lastLine? = some line →
      shell.verdict line = .stop (.error reason) →
      session.ending = .error reason →
      Returned shell source session

theorem unflushed_eq_waiting {shell : Shell} {actions : List Action}
    {stage : Stage} (passes : Passes shell .start actions stage) :
    unflushed actions = stage.waiting :=
  passes.unflushed.symm

section Sessions

variable {shell : Shell} {session : Transcript} {stage : Stage}
  (passes : Passes shell .start session.actions stage)

include passes

theorem lastLine?_eq {line : Bytes} (current : stage.line? = some line) :
    session.lastLine? = some line := by
  have taken := passes.line? current
  rwa [Stage.line?, Option.or_none] at taken

theorem unflushed_cases :
    unflushed session.actions = [] ∨
      ∃ line answer, session.lastLine? = some line ∧
        (shell.verdict line).chunk? = some answer ∧
        unflushed session.actions <+: answer := by
  rw [unflushed_eq_waiting passes]
  rcases passes.answering (.inl rfl) with
    nothing | ⟨line, answer, current, answered, part⟩
  · exact .inl nothing
  · exact .inr ⟨line, answer, lastLine?_eq passes current, answered, part⟩

theorem returned_of_ends {source : Source}
    (ends : Ends shell source.failure stage session.ending) :
    Returned shell source session ∧ unflushed session.actions = [] := by
  rw [unflushed_eq_waiting passes]
  generalize same : session.ending = ending at ends
  cases ends with
  | inputEnded absent => exact ⟨.inputEnded absent same, rfl⟩
  | readFailed failed idle =>
      exact ⟨.readFailed failed same, Stage.waiting_of_isIdle idle⟩
  | left verdict => exact ⟨.left (lastLine?_eq passes rfl) verdict same, rfl⟩
  | commandFailed verdict =>
      exact ⟨.commandFailed (lastLine?_eq passes rfl) verdict same, rfl⟩

end Sessions

end Input

namespace Shell

open Input

section Runs

variable {State : Type} (shell : Shell) (device : Device State)
  (state : State) (source : Source)

/-- A device does not disturb a session or breaks it off. -/
theorem runOn_cases :
    ((∃ last, device.perform state (shell.runOn device state source).actions =
        ⟨(shell.runOn device state source).actions, .ok last⟩) ∧
      shell.runOn device state source = shell.runOn reliable () source) ∨
    ∃ before failed after part failure,
      (shell.runOn reliable () source).actions = before ++ failed :: after ∧
      Breakdown device state before failed part failure ∧
      shell.runOn device state source = ⟨before ++ part, .error failure⟩ := by
  rw [shell.runOn_eq_enact device state source]
  generalize shell.runOn reliable () source = ideal
  unfold Device.enact
  rcases device.perform_cases state ideal.actions with
    ⟨last, all⟩ |
      ⟨before, failed, after, part, failure, whole, breakdown, result⟩
  · left
    rw [all]
    exact ⟨⟨last, all⟩, rfl⟩
  · right
    rw [result]
    exact ⟨before, failed, after, part, failure, whole, breakdown, rfl⟩

theorem passes_reliable :
    ∃ last, Passes shell .start (shell.runOn reliable () source).actions last ∧
      Ends shell source.failure last
        (shell.runOn reliable () source).ending :=
  @passes_answerLines shell source.failure .start rfl source.lines

theorem returned_reliable :
    Returned shell source (shell.runOn reliable () source) ∧
      unflushed (shell.runOn reliable () source).actions = [] := by
  obtain ⟨last, passes, ends⟩ := shell.passes_reliable source
  exact returned_of_ends passes ends

/-- On any device, what a session does passes through the stages. -/
theorem passes_runOn :
    ∃ stage, Passes shell .start (shell.runOn device state source).actions
      stage := by
  obtain ⟨last, passes, -⟩ := shell.passes_reliable source
  rcases shell.runOn_cases device state source with
    ⟨-, same⟩ | ⟨before, failed, after, part, failure, whole, breakdown, broken⟩
  · rw [same]
    exact ⟨last, passes⟩
  · rw [broken]
    rw [whole] at passes
    exact breakdown.passes passes

end Runs

/-- Nothing is unflushed when a session tries to take a line; what it writes
between two attempts is at most one answer to the line it took, flushed at most
once; and it returns with nothing unflushed, unless the device fails in the
middle of an answer. -/
theorem run_flushed {State : Type} (shell : Shell) (device : Device State)
    (state : State) (source : Source) :
    let session := shell.runOn device state source
    (∀ before attempt after,
      session.actions = before ++ attempt :: after →
      attempt.isAttempt = true → unflushed before = []) ∧
    (∀ before line during after,
      session.actions = before ++ .read line :: (during ++ after) →
      (∀ action ∈ during, action.isAttempt = false) →
      ∃ bytes,
        (during.filter Action.isOutput).Sublist [.write bytes, .flush] ∧
        (.write bytes ∈ during → ∃ answer,
          (shell.verdict line).chunk? = some answer ∧ bytes <+: answer)) ∧
    ((∃ last, device.perform state session.actions =
          ⟨session.actions, .ok last⟩) ∧
        Returned shell source session ∧ unflushed session.actions = [] ∨
      ∃ before failed part failure,
        Breakdown device state before failed part failure ∧
        session = ⟨before ++ part, .error failure⟩ ∧
        (unflushed session.actions = [] ∨
          ∃ line answer, session.lastLine? = some line ∧
            (shell.verdict line).chunk? = some answer ∧
            unflushed session.actions <+: answer)) := by
  intro session
  obtain ⟨stage, passes⟩ := shell.passes_runOn device state source
  refine ⟨?_, ?_, ?_⟩
  · intro before attempt after whole isAttempt
    change Passes shell .start session.actions stage at passes
    rw [whole] at passes
    obtain ⟨here, earlier, later⟩ := passes.split
    cases later with
    | cons step _ =>
        rw [unflushed_eq_waiting earlier]
        exact step.waiting_of_isAttempt isAttempt
  · intro before line during after whole noAttempt
    change Passes shell .start session.actions stage at passes
    rw [whole] at passes
    obtain ⟨here, -, later⟩ := passes.split
    cases later with
    | cons step rest =>
        obtain ⟨there, within, -⟩ := rest.split
        cases step with
        | read => exact within.outputs noAttempt
        | silent _ other => cases other
  · rcases shell.runOn_cases device state source with
      ⟨performed, same⟩ |
        ⟨before, failed, after, part, failure, -, breakdown, broken⟩
    · left
      refine ⟨performed, ?_⟩
      change session = _ at same
      rw [same]
      exact shell.returned_reliable source
    · right
      refine ⟨before, failed, part, failure, breakdown, broken, ?_⟩
      exact unflushed_cases passes

/-- The device has room for the first answer and for five bytes of the
second. -/
theorem run_flushed_brokenAnswer :
    let session := (ofTable .empty).runOn limited ⟨some 30, some 1⟩
      (.ofBytes [120, 10, 33, 10])
    unflushed (session.actions.take 3) = [] ∧
      unflushed session.actions = Text.encode "Error" ∧
      ∃ line answer, session.lastLine? = some line ∧
        ((ofTable .empty).verdict line).chunk? = some answer ∧
        unflushed session.actions <+: answer := by
  intro session
  have left : unflushed session.actions = Text.encode "Error" := by
    decide +kernel
  obtain ⟨idle, -, returned⟩ := (ofTable .empty).run_flushed limited
    ⟨some 30, some 1⟩ (.ofBytes [120, 10, 33, 10])
  refine ⟨?_, left, ?_⟩
  · exact idle (session.actions.take 3) (.read [33, 10])
      (session.actions.drop 4) (by decide +kernel) rfl
  · rcases returned with ⟨-, -, nothing⟩ | ⟨-, -, -, -, -, -, nothing | answer⟩
    · exact absurd (left.symm.trans nothing) (by decide)
    · exact absurd (left.symm.trans nothing) (by decide)
    · exact answer

end Shell

end LineShell
