import LineShell.Proofs.Input.Performance

/-!
# Rounds of a session

A session is a chain of rounds, one for each line, in front of what is done
when there are no more lines.  A round leads on to the next one or ends the
session, so some lines lead on to whatever follows them or keep all of it from
being looked at (`foldr_round_cases`).  Nothing but the rounds tells sessions
apart (`answerLines_congr`).
-/

namespace LineShell

open Text (Bytes)

namespace Shell

open Input

variable (shell : Shell)

/-- What a session does from a line on, given what it does after it. -/
def round (line : Bytes) (rest : Transcript) : Transcript :=
  match (shell.respond line).stop with
  | some ending => ⟨(shell.respond line).actions, ending⟩
  | none => rest.after (shell.respond line).actions

theorem run_eq_answerLines (bytes : Bytes) :
    shell.run bytes = shell.answerLines reliable none () (cutLines bytes) :=
  rfl

theorem answerLines_eq_foldr (failure : Option Failure) (lines : List Bytes) :
    shell.answerLines reliable failure () lines =
      lines.foldr shell.round (close reliable () failure) := by
  induction lines with
  | nil => rfl
  | cons line rest ih =>
      rw [answerLines_reliable_cons, List.foldr_cons, ih]
      rfl

theorem ending?_verdictOfResult_ne (policy : FailurePolicy)
    (result : Except Failure Command.Reply) :
    (verdictOfResult policy result).ending? ≠ some (.ok .endOfInput) := by
  intro ended
  cases result with
  | ok reply => cases reply <;> cases ended
  | error failure => cases policy <;> cases ended

theorem ending?_ne_endOfInput (line : Bytes) :
    (shell.verdict line).ending? ≠ some (.ok .endOfInput) := by
  rw [verdict]
  cases textOf? line with
  | none =>
      intro ended
      cases ended
  | some text => exact ending?_verdictOfResult_ne _ _

theorem stop_ne_endOfInput (line : Bytes) :
    (shell.respond line).stop ≠ some (.ok .endOfInput) := by
  rw [respond_stop]
  exact shell.ending?_ne_endOfInput line

theorem ending_eq_endOfInput_iff {lines : List Bytes} :
    shell.ending lines = .ok .endOfInput ↔ lines.all shell.goesOn = true := by
  induction lines with
  | nil => exact iff_of_true rfl rfl
  | cons line rest ih =>
      have proceeds := shell.ending?_ne_endOfInput line
      rw [ending_cons, List.all_cons, goesOn_eq_isNone]
      cases stop : (shell.verdict line).ending? with
      | none => simpa using ih
      | some ending =>
          rw [stop] at proceeds
          simpa using proceeds

/-- Lines lead on to what follows them, or end the session before it. -/
theorem foldr_round_cases (lines : List Bytes) :
    (∃ actions, ∀ rest, lines.foldr shell.round rest = rest.after actions) ∨
      ∃ session : Transcript, session.ending ≠ .ok .endOfInput ∧
        ∀ rest, lines.foldr shell.round rest = session := by
  induction lines with
  | nil => exact .inl ⟨[], fun _ => rfl⟩
  | cons line lines ih =>
      cases stop : (shell.respond line).stop with
      | some ending =>
          right
          refine ⟨⟨(shell.respond line).actions, ending⟩, ?_, ?_⟩
          · rintro rfl
            exact shell.stop_ne_endOfInput line stop
          · intro rest
            rw [List.foldr_cons, round, stop]
      | none =>
          rcases ih with ⟨actions, leads⟩ | ⟨session, ended, stays⟩
          · left
            refine ⟨(shell.respond line).actions ++ actions, ?_⟩
            intro rest
            rw [List.foldr_cons, round, stop, leads]
            simp [Transcript.after]
          · right
            refine ⟨session.after (shell.respond line).actions, ended, ?_⟩
            intro rest
            rw [List.foldr_cons, round, stop, stays]

variable {shell} in
/-- Shells that respond alike to every line that is processed hold the same
session, on any device. -/
theorem answerLines_congr {State : Type} {other : Shell} {lines : List Bytes}
    (alike : ∀ line ∈ shell.processed lines,
      other.respond line = shell.respond line)
    (device : Device State) (failure : Option Failure) (state : State) :
    other.answerLines device failure state lines =
      shell.answerLines device failure state lines := by
  induction lines generalizing state with
  | nil => rfl
  | cons line rest ih =>
      rw [processed_cons] at alike
      have first := alike line List.mem_cons_self
      simp only [answerLines, first]
      cases (device.perform state (shell.respond line).actions).result with
      | error broken => rfl
      | ok next =>
          cases stop : (shell.respond line).stop with
          | some ending => rfl
          | none =>
              have goes : shell.goesOn line = true := by
                rw [goesOn_eq, stop]
                rfl
              rw [if_pos goes] at alike
              simp only [ih fun later member =>
                alike later (List.mem_cons_of_mem _ member)]

end Shell

end LineShell
