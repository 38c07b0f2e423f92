import LineShell.Command.Installation
import LineShell.Proofs.Input.Interruption

/-!
# One input after another

A session keeps nothing but its place in the input.  If an input that breaks
off after a newline is followed by another, its session goes on with that over
the other one instead of closing, and if one of its lines ends the session,
what follows is never looked at (`run_append`).
-/

namespace LineShell

open Text (Bytes)

namespace Input

/-- A session that does what one session does up to where it closes, and then
what another one does. -/
structure Continued (first second both : Transcript) : Prop where
  ending : both.ending = second.ending
  output : both.output = first.output ++ second.output
  flushes : 1 ≤ first.flushes ∧
    both.flushes = first.flushes - 1 + second.flushes
  events : ∃ events, first.events = events ++ [.inputEnded] ∧
    both.events = events ++ second.events
  actions : ∃ actions, first.actions = actions ++ closing ∧
    both.actions = actions ++ second.actions

namespace Transcript

variable (actions : List Action) (transcript : Transcript)

theorem output_after :
    (transcript.after actions).output =
      actions.flatMap Action.written ++ transcript.output := by
  simp [output, after]

theorem flushes_after :
    (transcript.after actions).flushes =
      actions.countP Action.isFlush + transcript.flushes := by
  simp [flushes, after]

theorem events_after :
    (transcript.after actions).events =
      actions.filterMap Action.event? ++ transcript.events := by
  simp [events, after]

end Transcript

theorem continued_of_closing (actions : List Action) (second : Transcript) :
    Continued ((⟨closing, .ok .endOfInput⟩ : Transcript).after actions) second
      (second.after actions) where
  ending := rfl
  output := by
    have silent : (⟨closing, .ok .endOfInput⟩ : Transcript).output = [] := rfl
    rw [Transcript.output_after, Transcript.output_after, silent,
      List.append_nil]
  flushes := by
    have once : (⟨closing, .ok .endOfInput⟩ : Transcript).flushes = 1 := rfl
    rw [Transcript.flushes_after, Transcript.flushes_after, once,
      Nat.add_sub_cancel]
    exact ⟨Nat.le_add_left _ _, rfl⟩
  events := by
    refine ⟨actions.filterMap Action.event?, ?_, ?_⟩
    · exact Transcript.events_after _ _
    · exact Transcript.events_after _ _
  actions := ⟨actions, rfl, rfl⟩

theorem cutLines_append {first : Bytes}
    (whole : first = [] ∨ first.getLast? = some newline) (second : Bytes) :
    cutLines (first ++ second) = cutLines first ++ cutLines second := by
  induction first using byLine with
  | unfinished first absent =>
      rcases whole with rfl | final
      · rfl
      · exact absurd (List.mem_of_getLast? final) absent
  | line before rest absent ih =>
      have restWhole : rest = [] ∨ rest.getLast? = some newline := by
        cases rest with
        | nil => exact .inl rfl
        | cons byte rest =>
            right
            simpa using whole
      rw [List.append_assoc, List.cons_append, cutLines_line absent,
        cutLines_line absent, ih restWhole, List.cons_append]

end Input

namespace Shell

open Input

variable (shell : Shell)

/-- A session over lines leads on to the lines that follow them, or it has
ended before. -/
theorem answerLines_append_cases (lines later : List Bytes) :
    ((shell.answerLines reliable none () lines).ending = .ok .endOfInput ∧
      Continued (shell.answerLines reliable none () lines)
        (shell.answerLines reliable none () later)
        (shell.answerLines reliable none () (lines ++ later))) ∨
    ((shell.answerLines reliable none () lines).ending ≠ .ok .endOfInput ∧
      shell.answerLines reliable none () (lines ++ later) =
        shell.answerLines reliable none () lines) := by
  simp only [answerLines_eq_foldr, List.foldr_append]
  rcases shell.foldr_round_cases lines with
    ⟨actions, leads⟩ | ⟨session, ended, stays⟩
  · left
    rw [leads, leads]
    exact ⟨rfl, continued_of_closing actions _⟩
  · right
    rw [stays, stays]
    exact ⟨ended, rfl⟩

/-- A session over two inputs, the first of which has no unfinished line, is
that over the first, continued by that over the second.  If the first ends
before its end, the second is not looked at, whatever bytes it consists of. -/
theorem run_append {first : Bytes}
    (whole : first = [] ∨ first.getLast? = some newline) (second : Bytes) :
    ((shell.run first).ending = .ok .endOfInput →
      Continued (shell.run first) (shell.run second)
        (shell.run (first ++ second))) ∧
    ((shell.run first).ending ≠ .ok .endOfInput →
      shell.run (first ++ second) = shell.run first ∧
        (shell.run (first ++ second)).actions.filterMap Action.line? =
          shell.processed (cutLines first)) := by
  have reads := shell.reads_run first
  simp only [run_eq_answerLines, cutLines_append whole] at reads ⊢
  rcases shell.answerLines_append_cases (cutLines first) (cutLines second)
    with ⟨ended, continued⟩ | ⟨stopped, same⟩
  · refine ⟨fun _ => continued, ?_⟩
    intro stopped
    exact absurd ended stopped
  · refine ⟨fun ended => absurd ended stopped, ?_⟩
    intro _
    rw [same]
    exact ⟨rfl, reads⟩

/-- A last line that is half a character, after a line that is answered and
after one that leaves. -/
theorem run_append_halfCharacter :
    let shell := ofTable (Command.Table.empty.installBuiltins .all).table
    let answered := Text.encode "x\n"
    let leaving := Text.encode "x\n!quit\n"
    let half := [0xC3]
    answered.getLast? = some newline ∧ leaving.getLast? = some newline ∧
      (shell.run answered).ending = .ok .endOfInput ∧
      Continued (shell.run answered) (shell.run half)
        (shell.run (answered ++ half)) ∧
      (shell.run leaving).ending = .ok .exitRequested ∧
      shell.run (leaving ++ half) = shell.run leaving := by
  intro shell answered leaving half
  have finished : answered.getLast? = some newline := by decide +kernel
  have finishedToo : leaving.getLast? = some newline := by decide +kernel
  have ended : (shell.run answered).ending = .ok .endOfInput := by
    decide +kernel
  have left : (shell.run leaving).ending = .ok .exitRequested := by
    decide +kernel
  have stopped : (shell.run leaving).ending ≠ .ok .endOfInput := by
    rw [left]
    nofun
  have continues := (shell.run_append (.inr finished) half).1 ended
  have stays := (shell.run_append (.inr finishedToo) half).2 stopped
  exact ⟨finished, finishedToo, ended, continues, left, stays.1⟩

end Shell

end LineShell
