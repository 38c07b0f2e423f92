import LineShell.Proofs.Input.Rounds

/-!
# Stages of a session

A session passes through stages: it takes a line, answers it, flushes the
answer and takes the next one, until it finds no more lines and closes.  `Step`
says which action leads from which stage to which, and `Passes` follows the
actions one by one, so a fact about all sessions is proved of one step and
carried along (`Passes.unflushed`, `Passes.answering`).  What a shell does
about any lines passes through the stages (`passes_answerLines`).
-/

namespace LineShell

open Text (Bytes)

namespace Input

namespace Action

/-- Whether an action shows that the session has tried to take a line: it took
one, or it found that the input has ended. -/
def isAttempt : Action → Bool
  | .read _ | .log .inputEnded => true
  | _ => false

theorem isAttempt_eq_false {action : Action}
    (ofStatement : action.isOfStatement = true) : action.isAttempt = false := by
  cases action with
  | read | write | flush => cases ofStatement
  | call => rfl
  | log event => cases event <;> first | rfl | cases ofStatement

/-- The bytes that wait for a flush after an action, given those that wait
before it. -/
def unflushed (waiting : Bytes) : Action → Bytes
  | .write bytes => waiting ++ bytes
  | .flush => []
  | .read _ | .log _ | .call .. => waiting

end Action

/-- The bytes that have been written since the last flush. -/
def unflushed (actions : List Action) : Bytes :=
  actions.foldl Action.unflushed []

/-- How far a session is with the last line that it took. -/
inductive Stage where
  /-- No line has been taken. -/
  | start
  | taken (line : Bytes)
  /-- These bytes of an answer have been written. -/
  | answered (line bytes : Bytes)
  | flushed (line : Bytes)
  /-- There are no more lines. -/
  | ended
  | closed

namespace Stage

/-- The bytes that wait for a flush. -/
def waiting : Stage → Bytes
  | .answered _ bytes => bytes
  | .start | .taken _ | .flushed _ | .ended | .closed => []

/-- Whether the session can go on to the next line. -/
def isIdle : Stage → Bool
  | .start | .taken _ | .flushed _ => true
  | .answered .. | .ended | .closed => false

/-- The line that the session is at. -/
def line? : Stage → Option Bytes
  | .taken line | .answered line _ | .flushed line => some line
  | .start | .ended | .closed => none

theorem waiting_of_isIdle {stage : Stage} (idle : stage.isIdle = true) :
    stage.waiting = [] := by
  cases stage with
  | answered => cases idle
  | start | taken | flushed | ended | closed => rfl

end Stage

/-- What an action makes of a stage. -/
inductive Step (shell : Shell) : Stage → Action → Stage → Prop where
  | read {stage : Stage} (line : Bytes) :
      stage.isIdle = true →
      Step shell stage (.read line) (.taken line)
  | silent {line : Bytes} {action : Action} :
      action.isOutput = false →
      action.isAttempt = false →
      Step shell (.taken line) action (.taken line)
  /-- An answer may be broken off. -/
  | answer {line answer bytes : Bytes} :
      (shell.verdict line).chunk? = some answer →
      bytes <+: answer →
      Step shell (.taken line) (.write bytes) (.answered line bytes)
  | flush {line bytes : Bytes} :
      Step shell (.answered line bytes) .flush (.flushed line)
  | leave {line : Bytes} {outcome : Outcome} :
      shell.verdict line = .stop (.ok outcome) →
      Step shell (.taken line) .flush (.flushed line)
  | finish {stage : Stage} :
      stage.isIdle = true →
      Step shell stage (.log .inputEnded) .ended
  | close : Step shell .ended .flush .closed

/-- The stages that actions lead through. -/
inductive Passes (shell : Shell) : Stage → List Action → Stage → Prop where
  | nil {stage : Stage} : Passes shell stage [] stage
  | cons {first next last : Stage} {action : Action} {rest : List Action} :
      Step shell first action next →
      Passes shell next rest last →
      Passes shell first (action :: rest) last

/-- The stage in which a session ends of its own accord. -/
inductive Ends (shell : Shell) (failure : Option Failure) :
    Stage → Except Failure Outcome → Prop where
  | inputEnded : failure = none → Ends shell failure .closed (.ok .endOfInput)
  | readFailed {stage : Stage} {reason : Failure} :
      failure = some reason →
      stage.isIdle = true →
      Ends shell failure stage (.error reason)
  | left {line : Bytes} :
      shell.verdict line = .stop (.ok .exitRequested) →
      Ends shell failure (.flushed line) (.ok .exitRequested)
  | commandFailed {line : Bytes} {reason : Failure} :
      shell.verdict line = .stop (.error reason) →
      Ends shell failure (.taken line) (.error reason)

section Steps

variable {shell : Shell} {first next last : Stage} {action : Action}

theorem Step.unflushed (step : Step shell first action next) :
    next.waiting = action.unflushed first.waiting := by
  cases step with
  | read line idle => exact (Stage.waiting_of_isIdle idle).symm
  | silent quiet =>
      cases action with
      | write | flush => cases quiet
      | read | log | call => rfl
  | answer | flush | leave | close => rfl
  | finish idle => exact (Stage.waiting_of_isIdle idle).symm

theorem Step.waiting_of_isAttempt (step : Step shell first action next)
    (attempt : action.isAttempt = true) : first.waiting = [] := by
  cases step with
  | read line idle => exact Stage.waiting_of_isIdle idle
  | finish idle => exact Stage.waiting_of_isIdle idle
  | silent _ other =>
      rw [other] at attempt
      cases attempt
  | answer | flush | leave | close => cases attempt

theorem Step.line? (step : Step shell first action next) {line : Bytes}
    (current : next.line? = some line) :
    action.line?.or first.line? = some line := by
  cases step with
  | read => exact current
  | silent quiet other =>
      cases action with
      | write | flush => cases quiet
      | read => cases other
      | log | call => exact current
  | answer | flush | leave => exact current
  | finish | close => cases current

end Steps

/-- What waits is the beginning of the answer to the line that the session is
at. -/
def Stage.Answering (shell : Shell) (stage : Stage) : Prop :=
  stage.waiting = [] ∨
    ∃ line answer, stage.line? = some line ∧
      (shell.verdict line).chunk? = some answer ∧ stage.waiting <+: answer

section Passages

variable {shell : Shell} {first middle last : Stage}
  {actions later : List Action}

theorem Passes.append (passes : Passes shell first actions middle)
    (goesOn : Passes shell middle later last) :
    Passes shell first (actions ++ later) last := by
  induction passes with
  | nil => exact goesOn
  | cons step _ ih => exact .cons step (ih goesOn)

theorem Passes.split (passes : Passes shell first (actions ++ later) last) :
    ∃ middle, Passes shell first actions middle ∧
      Passes shell middle later last := by
  induction actions generalizing first with
  | nil => exact ⟨first, .nil, passes⟩
  | cons action actions ih =>
      cases passes with
      | cons step rest =>
          obtain ⟨middle, earlier, goesOn⟩ := ih rest
          exact ⟨middle, .cons step earlier, goesOn⟩

/-- The stage that actions lead to tells what they have left unflushed. -/
theorem Passes.unflushed (passes : Passes shell first actions last) :
    last.waiting = actions.foldl Action.unflushed first.waiting := by
  induction passes with
  | nil => rfl
  | cons step _ ih => rw [ih, step.unflushed, List.foldl_cons]

theorem Passes.line? (passes : Passes shell first actions last) {line : Bytes}
    (current : last.line? = some line) :
    (actions.filterMap Action.line?).getLast?.or first.line? = some line := by
  induction passes with
  | nil => exact current
  | @cons first next last action rest step _ ih =>
      have earlier := ih current
      cases read : (rest.filterMap Action.line?).getLast? with
      | some other =>
          rw [read, Option.some_or] at earlier
          rw [List.filterMap_cons]
          cases action.line? <;> simp [List.getLast?_cons, read, earlier]
      | none =>
          rw [read, Option.none_or] at earlier
          have nothing : rest.filterMap Action.line? = [] :=
            List.getLast?_eq_none_iff.mp read
          have here := step.line? earlier
          rw [List.filterMap_cons, nothing]
          cases taken : action.line? with
          | some other => simpa [taken] using here
          | none => simpa [taken] using here

theorem Step.answering {action : Action} (step : Step shell first action last)
    (answering : first.Answering shell) : last.Answering shell := by
  cases step with
  | read | silent | flush | leave | finish | close => exact .inl rfl
  | answer answered part => exact .inr ⟨_, _, rfl, answered, part⟩

theorem Passes.answering (passes : Passes shell first actions last)
    (answering : first.Answering shell) : last.Answering shell := by
  induction passes with
  | nil => exact answering
  | cons step _ ih => exact ih (step.answering answering)

theorem Passes.eq_nil_of_flushed {line : Bytes}
    (passes : Passes shell (.flushed line) actions last)
    (noAttempt : ∀ action ∈ actions, action.isAttempt = false) :
    actions = [] := by
  cases passes with
  | nil => rfl
  | cons step =>
      have other := noAttempt _ List.mem_cons_self
      cases step with
      | read | finish => cases other

theorem Passes.eq_of_answered {line bytes : Bytes}
    (passes : Passes shell (.answered line bytes) actions last)
    (noAttempt : ∀ action ∈ actions, action.isAttempt = false) :
    actions = [] ∨ actions = [.flush] := by
  cases passes with
  | nil => exact .inl rfl
  | cons step rest =>
      cases step with
      | read _ idle | finish idle => cases idle
      | flush =>
          right
          rw [rest.eq_nil_of_flushed]
          intro action member
          exact noAttempt action (List.mem_cons_of_mem _ member)

/-- What reaches the device between a line and the next attempt to take one is
an answer to the line, at most one, and after it a flush. -/
theorem Passes.outputs {line : Bytes}
    (passes : Passes shell (.taken line) actions last)
    (noAttempt : ∀ action ∈ actions, action.isAttempt = false) :
    ∃ bytes, (actions.filter Action.isOutput).Sublist [.write bytes, .flush] ∧
      (.write bytes ∈ actions → ∃ answer,
        (shell.verdict line).chunk? = some answer ∧ bytes <+: answer) := by
  induction actions with
  | nil => exact ⟨[], List.nil_sublist _, nofun⟩
  | cons action rest ih =>
      have later : ∀ action ∈ rest, action.isAttempt = false :=
        fun other member => noAttempt other (List.mem_cons_of_mem _ member)
      cases passes with
      | cons step passes =>
          cases step with
          | read | finish => cases noAttempt _ List.mem_cons_self
          | silent quiet _ =>
              obtain ⟨bytes, outputs, answers⟩ := ih passes later
              refine ⟨bytes, ?_, ?_⟩
              · rw [List.filter_cons_of_neg (by simp [quiet])]
                exact outputs
              · intro member
                rcases List.mem_cons.mp member with rfl | inside
                · cases quiet
                · exact answers inside
          | @answer _ answer bytes answered part =>
              refine ⟨bytes, ?_, fun _ => ⟨answer, answered, part⟩⟩
              rcases passes.eq_of_answered later with rfl | rfl
              · exact List.cons_sublist_cons.mpr (List.nil_sublist _)
              · exact List.Sublist.refl _
          | leave =>
              rw [passes.eq_nil_of_flushed later]
              refine ⟨[], ?_, nofun⟩
              exact List.sublist_cons_self _ _

end Passages

end Input

namespace Shell

open Input

variable (shell : Shell)

theorem settle_actions (result : Except Failure Command.Reply) :
    ∃ reports : List Action,
      (∀ action ∈ reports,
        action.isOutput = false ∧ action.isAttempt = false) ∧
      (shell.settle result).actions =
        reports ++ (verdictOfResult shell.policy result).effects := by
  cases result with
  | ok reply =>
      cases reply with
      | text message => exact ⟨[], nofun, rfl⟩
      | silent => exact ⟨[], nofun, rfl⟩
      | leave =>
          exact ⟨[.log .exitRequested],
            by simp [Action.isOutput, Action.isAttempt], rfl⟩
  | error failure =>
      unfold settle verdictOfResult
      cases shell.policy with
      | report =>
          exact ⟨[.log (.commandFailed failure)],
            by simp [Action.isOutput, Action.isAttempt], rfl⟩
      | abort => exact ⟨[], nofun, rfl⟩

/-- A line is taken, read and carried out before anything is done to the
output, and that is what its verdict says. -/
theorem respond_actions (line : Bytes) :
    ∃ reports : List Action,
      (∀ action ∈ reports,
        action.isOutput = false ∧ action.isAttempt = false) ∧
      (shell.respond line).actions =
        .read line :: reports ++ (shell.verdict line).effects := by
  unfold verdict
  cases decoded : textOf? line with
  | none =>
      rw [respond_of_undecodable decoded]
      exact ⟨[.log (.undecodable line.length)],
        by simp [Action.isOutput, Action.isAttempt], rfl⟩
  | some text =>
      obtain ⟨reports, silent, settled⟩ := shell.settle_actions
        ((shell.read text).execute shell.context)
      rw [respond_of_text decoded]
      refine ⟨(shell.read text).actions ++ reports, ?_, ?_⟩
      · intro action member
        rcases List.mem_append.mp member with reading | later
        · have ofStatement :=
            (shell.read text).isOfStatement_actions action reading
          exact ⟨Action.isOutput_eq_false ofStatement,
            Action.isAttempt_eq_false ofStatement⟩
        · exact silent action later
      · simp only [respondToText, settled, executeLine, List.cons_append,
          List.append_assoc]

theorem passes_silent {line : Bytes} {actions : List Action}
    (silent : ∀ action ∈ actions,
      action.isOutput = false ∧ action.isAttempt = false) :
    Passes shell (.taken line) actions (.taken line) := by
  induction actions with
  | nil => exact .nil
  | cons action actions ih =>
      have here := silent action List.mem_cons_self
      refine .cons (.silent here.1 here.2) (ih ?_)
      intro other member
      exact silent other (List.mem_cons_of_mem _ member)

variable (failure : Option Failure)

theorem passes_effects (line : Bytes) :
    ∃ next, Passes shell (.taken line) (shell.verdict line).effects next ∧
      match (shell.verdict line).ending? with
      | none => next.isIdle = true
      | some ending => Ends shell failure next ending := by
  cases verdict : shell.verdict line with
  | answer message =>
      refine ⟨.flushed line, ?_, rfl⟩
      refine .cons (.answer ?_ (List.prefix_refl _)) (.cons .flush .nil)
      rw [verdict]
      rfl
  | silence => exact ⟨.taken line, .nil, rfl⟩
  | stop ending =>
      cases ending with
      | error reason => exact ⟨.taken line, .nil, .commandFailed verdict⟩
      | ok outcome =>
          cases outcome with
          | endOfInput =>
              refine absurd ?_ (shell.ending?_ne_endOfInput line)
              rw [verdict]
              rfl
          | exitRequested =>
              exact ⟨.flushed line, .cons (.leave verdict) .nil,
                .left verdict⟩

theorem passes_respond {stage : Stage} (idle : stage.isIdle = true)
    (line : Bytes) :
    ∃ next, Passes shell stage (shell.respond line).actions next ∧
      match (shell.verdict line).ending? with
      | none => next.isIdle = true
      | some ending => Ends shell failure next ending := by
  obtain ⟨reports, silent, actions⟩ := shell.respond_actions line
  obtain ⟨next, effects, leads⟩ := shell.passes_effects failure line
  refine ⟨next, ?_, leads⟩
  rw [actions]
  exact .cons (.read line idle) ((shell.passes_silent silent).append effects)

/-- What a session does on a device that never fails passes through the stages
and ends in one where sessions end. -/
theorem passes_answerLines {stage : Stage} (idle : stage.isIdle = true)
    (lines : List Bytes) :
    ∃ last, Passes shell stage
        (shell.answerLines reliable failure () lines).actions last ∧
      Ends shell failure last
        (shell.answerLines reliable failure () lines).ending := by
  induction lines generalizing stage with
  | nil =>
      cases failure with
      | none =>
          exact ⟨.closed, .cons (.finish idle) (.cons .close .nil),
            .inputEnded rfl⟩
      | some reason => exact ⟨stage, .nil, .readFailed rfl idle⟩
  | cons line rest ih =>
      obtain ⟨next, passes, leads⟩ := shell.passes_respond failure idle line
      rw [answerLines_reliable_cons, respond_stop]
      cases stop : (shell.verdict line).ending? with
      | some ending =>
          rw [stop] at leads
          exact ⟨next, passes, leads⟩
      | none =>
          rw [stop] at leads
          obtain ⟨last, later, ends⟩ := ih leads
          exact ⟨last, passes.append later, ends⟩

end Shell

end LineShell
