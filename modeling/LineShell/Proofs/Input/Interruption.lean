import LineShell.Command.Installation
import LineShell.Proofs.Input.Reading
import LineShell.Proofs.Input.Rounds

/-!
# Sessions on failing inputs

An input that fails where it would end is answered like the part of it up to
its last newline.  If a line of that part ends the session, the failure is
never met; otherwise it takes the place of closing, after the answer to the
last complete line (`run_failing`).
-/

namespace LineShell

open Text (Bytes)

namespace Input

/-- A session that does what another does but for closing, where it ends with
a failure. -/
structure Interrupted (whole broken : Transcript) (failure : Failure) :
    Prop where
  ending : broken.ending = .error failure
  output : broken.output = whole.output
  flushes : whole.flushes = broken.flushes + 1
  events : whole.events = broken.events ++ [.inputEnded]
  actions : whole.actions = broken.actions ++ [.log .inputEnded, .flush]

theorem interrupted_of_closing (actions : List Action) (failure : Failure) :
    Interrupted ⟨actions ++ closing, .ok .endOfInput⟩
      ⟨actions, .error failure⟩ failure where
  ending := rfl
  output := by
    unfold Transcript.output
    rw [List.flatMap_append]
    exact (List.append_nil _).symm
  flushes := by
    unfold Transcript.flushes
    rw [List.countP_append]
    rfl
  events := by
    unfold Transcript.events
    rw [List.filterMap_append]
    rfl
  actions := rfl

end Input

namespace Shell

open Input

/-- A session on an input that fails where it would end. -/
def runFailing (shell : Shell) (bytes : Bytes) (failure : Failure) :
    Transcript :=
  shell.runOn reliable () (.failing bytes failure)

variable (shell : Shell)

/-- Lines that a failure follows are answered like lines that the end of the
input follows, as long as none of them ends the session. -/
theorem answerLines_failing (failure : Failure) (lines : List Bytes) :
    (∃ actions,
        shell.answerLines reliable (some failure) () lines =
          ⟨actions, .error failure⟩ ∧
        shell.answerLines reliable none () lines =
          ⟨actions ++ closing, .ok .endOfInput⟩) ∨
      ((shell.answerLines reliable none () lines).ending ≠ .ok .endOfInput ∧
        shell.answerLines reliable (some failure) () lines =
          shell.answerLines reliable none () lines) := by
  rw [answerLines_eq_foldr, answerLines_eq_foldr]
  rcases shell.foldr_round_cases lines with
    ⟨actions, leads⟩ | ⟨session, ended, stays⟩
  · left
    refine ⟨actions, ?_, ?_⟩
    · rw [leads]
      simp [close, Transcript.after]
    · rw [leads]
      rfl
  · right
    rw [stays, stays]
    exact ⟨ended, rfl⟩

variable (bytes : Bytes)

/-- A failing input is answered up to its last newline. -/
theorem runFailing_cases (failure : Failure) :
    (∃ actions,
        shell.runFailing bytes failure = ⟨actions, .error failure⟩ ∧
        shell.run (finished bytes) =
          ⟨actions ++ closing, .ok .endOfInput⟩) ∨
      ((shell.run (finished bytes)).ending ≠ .ok .endOfInput ∧
        shell.runFailing bytes failure = shell.run (finished bytes)) := by
  have sessions := shell.answerLines_failing failure (completeLines bytes)
  have whole : shell.run (finished bytes) =
      shell.answerLines reliable none () (completeLines bytes) := by
    rw [← cutLines_finished]
    rfl
  rw [whole]
  exact sessions

theorem reads_runFailing (failure : Failure) :
    (shell.runFailing bytes failure).actions.filterMap Action.line? =
      shell.processed (completeLines bytes) := by
  have whole := shell.reads_run (finished bytes)
  rw [cutLines_finished] at whole
  rw [← whole]
  rcases shell.runFailing_cases bytes failure with
    ⟨actions, broken, healthy⟩ | ⟨-, same⟩
  · rw [broken, healthy, List.filterMap_append]
    exact (List.append_nil _).symm
  · rw [same]

theorem output_runFailing (failure : Failure) :
    (shell.runFailing bytes failure).output =
      (shell.answers (completeLines bytes)).flatten := by
  have whole := shell.output_run (finished bytes)
  rw [← cutLines_eq_linesOf, cutLines_finished] at whole
  rw [← whole]
  rcases shell.runFailing_cases bytes failure with
    ⟨actions, broken, healthy⟩ | ⟨-, same⟩
  · rw [broken, healthy]
    exact (interrupted_of_closing actions failure).output
  · rw [same]

/-- A failure to read comes after the answers to all complete lines, unless one
of them ends the session.  These answers are all that is written, so an
unfinished line is neither read nor answered. -/
theorem run_failing (message : String) :
    (∀ source, Yields none (finished bytes) source ↔
      source = .ofBytes (finished bytes)) ∧
      (∀ source, Yields (some (.inputOutput message)) bytes source ↔
        source = .failing bytes (.inputOutput message)) ∧
      ((shell.run (finished bytes)).ending = .ok .endOfInput →
        Interrupted (shell.run (finished bytes))
          (shell.runFailing bytes (.inputOutput message))
          (.inputOutput message)) ∧
      ((shell.run (finished bytes)).ending ≠ .ok .endOfInput →
        shell.runFailing bytes (.inputOutput message) =
          shell.run (finished bytes)) ∧
      (shell.runFailing bytes (.inputOutput message)).actions.filterMap
          Action.line? =
        shell.processed (completeLines bytes) ∧
      (shell.runFailing bytes (.inputOutput message)).output =
        (shell.answers (completeLines bytes)).flatten := by
  refine ⟨fun source => yields_none_iff, fun source => yields_some_iff, ?_, ?_,
    shell.reads_runFailing bytes _, shell.output_runFailing bytes _⟩
  · intro ended
    rcases shell.runFailing_cases bytes (.inputOutput message) with
      ⟨actions, broken, whole⟩ | ⟨stopped, -⟩
    · rw [broken, whole]
      exact interrupted_of_closing actions _
    · exact absurd ended stopped
  · intro stopped
    rcases shell.runFailing_cases bytes (.inputOutput message) with
      ⟨actions, -, whole⟩ | ⟨-, same⟩
    · rw [whole] at stopped
      exact absurd rfl stopped
    · exact same

/-- A call to leave that is not finished is lost, and one that is finished
comes before the failure.  The line before is answered in any case. -/
theorem run_failing_leaving :
    let shell := ofTable (Command.Table.empty.installBuiltins .all).table
    let failure := Failure.inputOutput "source broken"
    let unfinished := shell.runFailing (Text.encode "x\n!quit") failure
    let complete := shell.runFailing (Text.encode "x\n!quit\n!") failure
    Interrupted (shell.run (Text.encode "x\n")) unfinished failure ∧
      (shell.run (Text.encode "x\n!quit\n")).ending = .ok .exitRequested ∧
      complete = shell.run (Text.encode "x\n!quit\n") ∧
      unfinished.output = Text.encode "Error: invalid statement\n" ∧
      complete.output = Text.encode "Error: invalid statement\n" := by
  intro shell failure unfinished complete
  have kept : finished (Text.encode "x\n!quit") = Text.encode "x\n" := by
    decide +kernel
  have keptToo : finished (Text.encode "x\n!quit\n!") =
      Text.encode "x\n!quit\n" := by
    decide +kernel
  have ended : (shell.run (Text.encode "x\n")).ending = .ok .endOfInput := by
    decide +kernel
  have left : (shell.run (Text.encode "x\n!quit\n")).ending =
      .ok .exitRequested := by
    decide +kernel
  obtain ⟨-, -, interrupted, -, -, written⟩ :=
    shell.run_failing (Text.encode "x\n!quit") "source broken"
  obtain ⟨-, -, -, same, -, writtenToo⟩ :=
    shell.run_failing (Text.encode "x\n!quit\n!") "source broken"
  rw [kept] at interrupted
  rw [keptToo, left] at same
  refine ⟨interrupted ended, left, same nofun, ?_, ?_⟩
  · rw [written]
    decide +kernel
  · rw [writtenToo]
    decide +kernel

end Shell

end LineShell
