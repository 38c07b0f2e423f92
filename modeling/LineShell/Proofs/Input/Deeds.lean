import LineShell.Proofs.Input.Reference

/-!
# What a session does about statements

Reading and reporting apart, what a session does about a line depends on the
statement that the line makes, and on nothing else about it.  The deeds of a
session are therefore those of the list of its statements (`deeds_run`), and
inputs that make the same statements cannot be told apart by what is called,
written and flushed.
-/

namespace LineShell

open Text (Bytes)

namespace Input

/-- Whether an action calls a command or reaches the output. -/
def Action.isDeed : Action → Bool
  | .call .. | .write _ | .flush => true
  | .read _ | .log _ => false

namespace Transcript

/-- A session without what it reads and reports. -/
def deeds (transcript : Transcript) : Transcript :=
  ⟨transcript.actions.filter Action.isDeed, transcript.ending⟩

/-- The commands that a session calls, with their arguments. -/
def calls (transcript : Transcript) : List (String × List String) :=
  transcript.actions.filterMap Action.called?

variable (transcript : Transcript)

@[simp] theorem ending_deeds : transcript.deeds.ending = transcript.ending :=
  rfl

theorem deeds_after (actions : List Action) :
    (transcript.after actions).deeds =
      transcript.deeds.after (actions.filter Action.isDeed) := by
  simp [deeds, after]

theorem output_deeds : transcript.deeds.output = transcript.output := by
  unfold output deeds
  induction transcript.actions with
  | nil => rfl
  | cons action actions ih =>
      rw [List.filter_cons, List.flatMap_cons, ← ih]
      cases action <;> rfl

theorem flushes_deeds : transcript.deeds.flushes = transcript.flushes := by
  unfold flushes deeds
  rw [List.countP_filter]
  congr 1
  funext action
  cases action <;> rfl

theorem calls_deeds : transcript.deeds.calls = transcript.calls := by
  unfold calls deeds
  rw [List.filterMap_filter]
  congr 1
  funext action
  cases action <;> rfl

theorem calls_after (actions : List Action) :
    (transcript.after actions).calls =
      actions.filterMap Action.called? ++ transcript.calls := by
  simp [calls, after]

end Transcript

end Input

namespace Shell

open Input

variable (shell : Shell)

/-- The statement that a line of bytes makes, if it is text. -/
def statement? (line : Bytes) : Option Statement :=
  (textOf? line).map shell.read

/-- What a statement leads to, or a line that makes none. -/
def verdictOf : Option Statement → Verdict
  | none => .answer "Error: invalid input"
  | some statement =>
      verdictOfResult shell.policy (statement.execute shell.context)

/-- What a shell does about a statement, or about a line that makes none. -/
def deedsOf (statement : Option Statement) : List Action :=
  ((statement.bind Statement.called?).toList.map fun called =>
    .call called.1 called.2) ++ (shell.verdictOf statement).effects

/-- A session over statements. -/
def sessionOver : List (Option Statement) → Transcript
  | [] => ⟨[.flush], .ok .endOfInput⟩
  | statement :: rest =>
      match (shell.verdictOf statement).ending? with
      | some ending => ⟨shell.deedsOf statement, ending⟩
      | none => (sessionOver rest).after (shell.deedsOf statement)

theorem verdict_eq_verdictOf (line : Bytes) :
    shell.verdict line = shell.verdictOf (shell.statement? line) := by
  unfold verdict statement?
  cases textOf? line <;> rfl

theorem calledBy?_eq_called? (line : Bytes) :
    shell.calledBy? line = (shell.statement? line).bind Statement.called? := by
  unfold calledBy? statement?
  cases textOf? line <;> rfl

theorem filter_isDeed_respond (line : Bytes) :
    (shell.respond line).actions.filter Action.isDeed =
      shell.deedsOf (shell.statement? line) := by
  have deeds : (shell.respond line).actions.filter Action.isDeed =
      (shell.effects line).filter Action.isDeed := by
    rw [← filter_isEffect_respond, List.filter_filter]
    congr 1
    funext action
    cases action <;> rfl
  have kept : (shell.verdict line).effects.filter Action.isDeed =
      (shell.verdict line).effects := by
    cases shell.verdict line with
    | answer message => rfl
    | silence => rfl
    | stop ending => cases ending <;> rfl
  rw [deeds, deedsOf, ← verdict_eq_verdictOf, ← calledBy?_eq_called?, effects,
    List.filter_append, kept]
  cases shell.calledBy? line <;> rfl

theorem deeds_answerLines (lines : List Bytes) :
    (shell.answerLines reliable none () lines).deeds =
      shell.sessionOver (lines.map shell.statement?) := by
  induction lines with
  | nil => rfl
  | cons line rest ih =>
      rw [answerLines_cons, verdict_eq_verdictOf, List.map_cons, sessionOver]
      cases (shell.verdictOf (shell.statement? line)).ending? with
      | some ending =>
          simp only [Transcript.deeds, filter_isDeed_respond]
      | none =>
          simp only [Transcript.deeds_after, filter_isDeed_respond, ih]

theorem deeds_run (bytes : Bytes) :
    (shell.run bytes).deeds =
      shell.sessionOver ((cutLines bytes).map shell.statement?) :=
  shell.deeds_answerLines (cutLines bytes)

theorem filterMap_called?_deedsOf (statement : Option Statement) :
    (shell.deedsOf statement).filterMap Action.called? =
      (statement.bind Statement.called?).toList := by
  have quiet : (shell.verdictOf statement).effects.filterMap
      Action.called? = [] := by
    cases shell.verdictOf statement with
    | answer message => rfl
    | silence => rfl
    | stop ending => cases ending <;> rfl
  rw [deedsOf, List.filterMap_append, quiet, List.append_nil]
  cases statement.bind Statement.called? <;> rfl

theorem filterMap_called?_effects (line : Bytes) :
    (shell.effects line).filterMap Action.called? =
      (shell.calledBy? line).toList := by
  have own := shell.filterMap_called?_deedsOf (shell.statement? line)
  rw [deedsOf, ← calledBy?_eq_called?, ← verdict_eq_verdictOf] at own
  exact own

theorem calls_run (bytes : Bytes) :
    (shell.run bytes).calls =
      (shell.processed (linesOf bytes)).filterMap shell.calledBy? := by
  rw [Transcript.calls, shell.filterMap_run bytes (fun _ => rfl) rfl,
    List.filterMap_eq_flatMap_toList]
  simp only [filterMap_called?_effects]

theorem statement_of_mem_calls {statements : List (Option Statement)}
    {called : String × List String}
    (member : called ∈ (shell.sessionOver statements).calls) :
    ∃ statement ∈ statements,
      statement.bind Statement.called? = some called := by
  induction statements with
  | nil => cases member
  | cons statement rest ih =>
      have own := shell.filterMap_called?_deedsOf statement
      rw [sessionOver] at member
      cases ended : (shell.verdictOf statement).ending? with
      | some ending =>
          simp only [ended, Transcript.calls, own, Option.mem_toList] at member
          exact ⟨statement, List.mem_cons_self, member⟩
      | none =>
          simp only [ended, Transcript.calls_after, own, List.mem_append,
            Option.mem_toList] at member
          rcases member with first | later
          · exact ⟨statement, List.mem_cons_self, first⟩
          · obtain ⟨other, inside, same⟩ := ih later
            exact ⟨other, List.mem_cons_of_mem _ inside, same⟩

end Shell

end LineShell
