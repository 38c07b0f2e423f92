import LineShell.Proofs.Input.Endings
import LineShell.Proofs.Program.Course

/-!
# Which failures the program can have

With the commands that come with the shell only one thing can fail: a sum, and
a line shows whether it asks for one that does.  An accepted program therefore
fails exactly if it is to stop at failures and such a line comes before every
line that leaves (`run_failures`).
-/

namespace LineShell.Program

open Input (Outcome linesOf)
open Shell (textOf?)
open Text (Bytes)

theorem shell_eq_ofSwitches (settings : CommandLine.SessionSettings) :
    shell settings = .ofSwitches settings.configuration.builtins settings.sigil
      settings.policy :=
  rfl

namespace Surroundings

/-- A line fails exactly if it asks for a sum with a first argument that is
wrong, and says what is wrong with that argument; joining never lacks its
delimiter.  An accepted program exits with a failure exactly if it is to stop at
failures and such a line comes before every line that leaves.  Otherwise it
succeeds, and it does so on request exactly if it processes a line that
leaves. -/
theorem run_failures :
    (∀ switches sigil policy line,
      let shell := Shell.ofSwitches switches sigil policy
      (∀ failure, shell.executeLine line = .error failure ↔
        FailingSum sigil line failure) ∧
      (∀ failure, shell.executeLine line = .error failure →
        failure.kind = .command) ∧
      shell.executeLine line ≠ .error (.command "join needs a delimiter")) ∧
    ∀ (surroundings : Surroundings) options settings bytes,
      surroundings.Accepted options settings bytes →
      let session := (shell settings).run bytes
      (∃ machine : Machine, machine.output = session.output ∧
        surroundings.run = (conclude session.ending).carryOut machine) ∧
      (surroundings.run.code = 1 ↔ settings.policy = .abort ∧
        ∃ before line later, linesOf bytes = before ++ line :: later ∧
          (∃ text failure, textOf? line = some text ∧
            FailingSum settings.sigil text failure) ∧
          ∀ other ∈ before, ¬∃ text, textOf? other = some text ∧
            Leaving settings.configuration.builtins settings.sigil text) ∧
      (surroundings.run.code ≠ 1 ↔ surroundings.run.code = 0) ∧
      (surroundings.run.code = 0 ↔ ∃ outcome, session.ending = .ok outcome) ∧
      (session.ending = .ok .exitRequested ↔
        ∃ line ∈ (shell settings).processed (linesOf bytes),
          ∃ text, textOf? line = some text ∧
            Leaving settings.configuration.builtins settings.sigil text) := by
  refine ⟨?_, ?_⟩
  · intro switches sigil policy line shell
    refine ⟨fun failure => Shell.executeLine_eq_error_iff, ?_, ?_⟩
    · intro failure failed
      exact (Shell.executeLine_eq_error_iff.mp failed).kind
    · intro failed
      exact (Shell.executeLine_eq_error_iff.mp failed).ne_delimiterMissing rfl
  · intro surroundings options settings bytes accepted session
    obtain ⟨machine, written, concluded⟩ := run_of_accepted accepted
    have fails := @Shell.ofSwitches_fails_iff settings.configuration.builtins
      settings.sigil settings.policy bytes
    have leaves := @Shell.ofSwitches_leaves_iff settings.configuration.builtins
      settings.sigil settings.policy bytes
    rw [← shell_eq_ofSwitches] at fails leaves
    have failed := code_conclude_eq_one_iff session.ending machine
    have succeeded := code_conclude_eq_zero_iff session.ending machine
    rw [← concluded] at failed succeeded
    refine ⟨⟨machine, written, concluded⟩, failed.trans fails, ?_, succeeded,
      leaves⟩
    · rw [ne_eq, failed, succeeded]
      cases session.ending with
      | ok outcome => simp
      | error failure => simp

/-- A program that is to stop at failures is asked for a sum with an argument
that is no integer, before it is asked to leave. -/
theorem run_failures_notAnInteger :
    let surroundings : Surroundings := ⟨["--fail-fast"], [],
      ⟨.directory [], []⟩, Text.encode "!add 1 x\n!quit\n", "T"⟩
    surroundings.Accepted ⟨none, none, none, true, .errorOutput⟩
        ⟨'!', .abort, .standard⟩ surroundings.input ∧
      FailingSum '!' "!add 1 x" (.command "'x' is not an integer") ∧
      surroundings.run.code = 1 := by
  intro surroundings
  have accepted : surroundings.Accepted
      ⟨none, none, none, true, .errorOutput⟩ ⟨'!', .abort, .standard⟩
      surroundings.input :=
    ⟨by rfl, by decide +kernel, .standardInput⟩
  have lines : linesOf surroundings.input =
      [] ++ Text.encode "!add 1 x\n" :: [Text.encode "!quit\n"] := by
    decide +kernel
  have decoded : textOf? (Text.encode "!add 1 x\n") = some "!add 1 x" := by
    decide +kernel
  obtain ⟨failures, exits⟩ := run_failures
  have failing : FailingSum '!' "!add 1 x"
      (.command "'x' is not an integer") :=
    ((failures .all '!' .abort "!add 1 x").1 _).mp (by decide +kernel)
  obtain ⟨-, failed, -⟩ := exits surroundings _ _ _ accepted
  refine ⟨accepted, failing, failed.mpr ⟨rfl, _, _, _, lines, ?_, nofun⟩⟩
  exact ⟨_, _, decoded, failing⟩

end Surroundings

end LineShell.Program
