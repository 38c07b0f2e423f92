import LineShell.Command.Installation
import LineShell.Proofs.Input.Deeds
import LineShell.Proofs.Input.Framing

/-!
# Failures and policies

The policy of a shell matters where a command fails, and nowhere else.  Shells
that differ in their policy do the same about every line until then.  There
one session is over, and the other reports the failure and goes on with the
lines that follow (`run_under_policies`).  Lines that call no command end no
session.
-/

namespace LineShell

open Text (Bytes)

namespace Statement

/-- The failure of the command that a statement calls. -/
def failure? (context : Command.Context) : Statement → Option Failure
  | .call _ handler arguments =>
      match handler context arguments with
      | .ok _ => none
      | .error failure => some failure
  | .rejected _ => none

theorem failure?_eq_some_iff {context : Command.Context}
    {statement : Statement} {failure : Failure} :
    statement.failure? context = some failure ↔
      statement.execute context = .error failure := by
  cases statement with
  | rejected rejection => simp [failure?, execute]
  | call name handler arguments =>
      cases result : handler context arguments <;>
        simp [failure?, execute, result]

end Statement

namespace Shell

open Input

/-- The shell with another policy. -/
def under (shell : Shell) (policy : FailurePolicy) : Shell :=
  ⟨shell.table, shell.sigil, policy⟩

/-- The failure of the command that a line calls. -/
def failureOf? (shell : Shell) (line : Bytes) : Option Failure :=
  (shell.statement? line).bind (Statement.failure? shell.context)

/-- The first failure of a command in a session that reports failures. -/
def firstFailure? (shell : Shell) (bytes : Bytes) : Option Failure :=
  ((shell.under .report).processed (linesOf bytes)).findSome?
    shell.failureOf?

variable (shell : Shell)

section Line

variable {shell} {line : Bytes}

theorem goesOn_of_uncalled (uncalled : shell.calledBy? line = none) :
    shell.goesOn line = true := by
  unfold goesOn verdict
  unfold calledBy? at uncalled
  cases decoded : textOf? line with
  | none => rfl
  | some text =>
      rw [decoded, Option.bind_some] at uncalled
      cases statement : shell.read text with
      | rejected rejection =>
          simp only [executeLine, statement]
          rfl
      | call name handler arguments =>
          rw [statement] at uncalled
          cases uncalled

theorem respond_under (policy : FailurePolicy) {text : String}
    (decoded : textOf? line = some text) :
    (shell.under policy).respond line =
      let settled := (shell.under policy).settle
        ((shell.read text).execute shell.context)
      ⟨.read line :: (shell.read text).actions ++ settled.actions,
        settled.stop⟩ :=
  respond_of_text decoded

theorem respond_under_of_absent (absent : shell.failureOf? line = none)
    (policy other : FailurePolicy) :
    (shell.under policy).respond line = (shell.under other).respond line := by
  unfold failureOf? statement? at absent
  cases decoded : textOf? line with
  | none =>
      rw [respond_of_undecodable decoded, respond_of_undecodable decoded]
  | some text =>
      rw [decoded, Option.map_some, Option.bind_some] at absent
      rw [respond_under _ decoded, respond_under _ decoded]
      cases result : (shell.read text).execute shell.context with
      | ok reply => cases reply <;> rfl
      | error failure =>
          rw [← Statement.failure?_eq_some_iff, absent] at result
          cases result

/-- Where a command fails, one policy ends the session and the other reports
the failure after the same actions. -/
theorem respond_under_of_failed {failure : Failure}
    (failed : shell.failureOf? line = some failure) :
    ∃ actions,
      (shell.under .abort).respond line =
          ⟨actions, some (.error failure)⟩ ∧
        (shell.under .report).respond line =
          ⟨actions ++ .log (.commandFailed failure) ::
            answer ("Error: " ++ failure.message), none⟩ := by
  obtain ⟨statement, made, failed⟩ := Option.bind_eq_some_iff.mp failed
  obtain ⟨text, decoded, rfl⟩ := Option.map_eq_some_iff.mp made
  rw [Statement.failure?_eq_some_iff] at failed
  refine ⟨.read line :: (shell.read text).actions, ?_, ?_⟩
  · rw [respond_under _ decoded, failed]
    simp [settle, under]
  · rw [respond_under _ decoded, failed]
    simp [settle, under]

end Line

theorem answerLines_under {lines : List Bytes}
    (absent : ∀ line ∈ (shell.under .report).processed lines,
      shell.failureOf? line = none) :
    (shell.under .abort).answerLines reliable none () lines =
      (shell.under .report).answerLines reliable none () lines := by
  induction lines with
  | nil => rfl
  | cons line rest ih =>
      rw [processed_cons, List.forall_mem_cons] at absent
      obtain ⟨first, later⟩ := absent
      have same := respond_under_of_absent first .abort .report
      have goes := (shell.under .report).goesOn_eq line
      rw [answerLines_cons, answerLines_cons, ← respond_stop, ← respond_stop,
        same]
      cases stop : ((shell.under .report).respond line).stop with
      | some ending => rfl
      | none =>
          rw [stop, Option.isNone_none] at goes
          rw [if_pos goes] at later
          simp only [ih later]

/-- The part of an input that a session answers before a command fails for the
first time, the line that calls it, and the rest. -/
theorem exists_firstFailure {bytes : Bytes} {failure : Failure}
    (first : shell.firstFailure? bytes = some failure) :
    ∃ before line later,
      linesOf bytes = before ++ line :: later ∧
        (∀ other ∈ before, (shell.under .report).goesOn other = true ∧
          shell.failureOf? other = none) ∧
        shell.failureOf? line = some failure := by
  obtain ⟨before, line, rest, shape, failed, absent⟩ :=
    List.findSome?_eq_some_iff.mp first
  obtain ⟨unread, whole⟩ :=
    processed_prefix (shell.under .report) (linesOf bytes)
  rw [shape] at whole
  refine ⟨before, line, rest ++ unread, ?_, ?_, failed⟩
  · rw [← whole, List.append_assoc, List.cons_append]
  · intro other member
    exact ⟨(shell.under .report).goesOn_of_processed shape other member,
      absent other member⟩

section Before

variable {before : List Bytes}
  (goOn : ∀ line ∈ before, (shell.under .report).goesOn line = true)
  (absent : ∀ line ∈ before, shell.failureOf? line = none)

include goOn absent

theorem goesOn_under (policy : FailurePolicy) :
    ∀ line ∈ before, (shell.under policy).goesOn line = true := by
  intro line member
  rw [goesOn_eq, respond_under_of_absent (absent line member) policy .report,
    ← goesOn_eq]
  exact goOn line member

theorem answerLines_under_append (policy : FailurePolicy)
    (later : List Bytes) :
    (shell.under policy).answerLines reliable none () (before ++ later) =
      ((shell.under policy).answerLines reliable none () later).after
        (before.flatMap fun line =>
          ((shell.under .report).respond line).actions) := by
  rw [answerLines_append _ (shell.goesOn_under goOn absent policy)]
  congr 1
  apply List.flatMap_congr
  intro line member
  rw [respond_under_of_absent (absent line member) policy .report]

/-- Sessions part at the line whose command fails first. -/
theorem answerLines_under_of_failed {line : Bytes} {failure : Failure}
    (failed : shell.failureOf? line = some failure) (later : List Bytes) :
    ∃ actions,
      (shell.under .abort).answerLines reliable none ()
          (before ++ line :: later) = ⟨actions, .error failure⟩ ∧
        (shell.under .report).answerLines reliable none ()
            (before ++ line :: later) =
          ((shell.under .report).answerLines reliable none () later).after
            (actions ++ .log (.commandFailed failure) ::
              answer ("Error: " ++ failure.message)) := by
  obtain ⟨actions, aborting, reporting⟩ := respond_under_of_failed failed
  refine ⟨(before.flatMap fun line =>
    ((shell.under .report).respond line).actions) ++ actions, ?_, ?_⟩
  · rw [shell.answerLines_under_append goOn absent, answerLines_cons,
      ← respond_stop, aborting]
    rfl
  · rw [shell.answerLines_under_append goOn absent, answerLines_cons,
      ← respond_stop, reporting]
    simp [Transcript.after]

theorem processed_under_of_failed {line : Bytes} {failure : Failure}
    (failed : shell.failureOf? line = some failure) (later : List Bytes) :
    (shell.under .abort).processed (before ++ line :: later) =
      before ++ [line] := by
  obtain ⟨actions, aborting, -⟩ := respond_under_of_failed failed
  have stops : (shell.under .abort).goesOn line = false := by
    rw [goesOn_eq, aborting]
    rfl
  rw [processed_append _ (shell.goesOn_under goOn absent .abort),
    processed_cons, stops]
  rfl

end Before

/-- Up to the first failure of a command, shells that report failures and
shells that end with them do the same.  The failure ends the session of the
latter as it is, and the former report it and go on.  Lines that call no
command end no session. -/
theorem run_under_policies (bytes : Bytes) :
    (shell.firstFailure? bytes = none →
      (shell.under .abort).run bytes = (shell.under .report).run bytes) ∧
    (∀ failure, shell.firstFailure? bytes = some failure →
      ((shell.under .abort).run bytes).ending = .error failure ∧
      ∃ before line later,
        linesOf bytes = before ++ line :: later ∧
        (∀ other ∈ before, shell.failureOf? other = none) ∧
        shell.failureOf? line = some failure ∧
        (shell.under .abort).processed (linesOf bytes) = before ++ [line] ∧
        (shell.under .report).run bytes =
          ((shell.under .report).answerLines reliable none () later).after
            (((shell.under .abort).run bytes).actions ++
              .log (.commandFailed failure) ::
                answer ("Error: " ++ failure.message)) ∧
        ((shell.under .report).run bytes).output =
          ((shell.under .abort).run bytes).output ++
            Text.encode ("Error: " ++ failure.message ++ "\n") ++
            ((shell.under .report).answers later).flatten) ∧
    (∀ line, shell.calledBy? line = none →
      ((shell.under .abort).respond line).stop = none) ∧
    (((shell.under .abort).run bytes).ending ≠ .ok .endOfInput →
      ∃ line called,
        ((shell.under .abort).processed (linesOf bytes)).getLast? =
          some line ∧
        shell.calledBy? line = some called) := by
  have run : ∀ policy, (shell.under policy).run bytes =
      (shell.under policy).answerLines reliable none () (linesOf bytes) := by
    intro policy
    rw [← cutLines_eq_linesOf]
    rfl
  refine ⟨?_, ?_, ?_, ?_⟩
  · intro absent
    rw [run, run]
    exact shell.answerLines_under (List.findSome?_eq_none_iff.mp absent)
  · intro failure first
    obtain ⟨before, line, later, whole, earlier, failed⟩ :=
      shell.exists_firstFailure first
    have goOn := fun other member => (earlier other member).1
    have absent := fun other member => (earlier other member).2
    obtain ⟨actions, aborting, reporting⟩ :=
      shell.answerLines_under_of_failed goOn absent failed later
    have processed :=
      shell.processed_under_of_failed goOn absent failed later
    rw [← whole, ← run] at aborting reporting
    rw [← whole] at processed
    rw [aborting]
    refine ⟨rfl, before, line, later, whole, absent, failed, processed,
      reporting, ?_⟩
    rw [reporting, ← output_answerLines]
    simp [Transcript.output, Transcript.after, answer, Action.written]
  · intro line uncalled
    have goes : (shell.under .abort).goesOn line = true :=
      goesOn_of_uncalled uncalled
    rwa [goesOn_eq, Option.isNone_iff_eq_none] at goes
  · intro ended
    rw [run_ending] at ended
    obtain ⟨line, last, stops⟩ :=
      (shell.under .abort).exists_last_processed ended
    cases calling : shell.calledBy? line with
    | none =>
        have goes : (shell.under .abort).goesOn line = true :=
          goesOn_of_uncalled calling
        rw [goes] at stops
        cases stops
    | some called => exact ⟨line, called, last, calling⟩

/-- Adding a word fails after a line that is no call; a shell that reports it
goes on and leaves. -/
theorem run_under_policies_notAnInteger :
    let shell := ofTable
      ((Command.Table.empty.installBuiltins .all).table.installDemo).table
    let quiet := Text.encode "hello\n!echo a\n!add 1\n"
    let failing := Text.encode "hello\n!add 1 x\n!quit\n!add y 1\n"
    let failure := Command.notAnInteger "x"
    shell.firstFailure? quiet = none ∧
      (shell.under .abort).run quiet = (shell.under .report).run quiet ∧
      shell.firstFailure? failing = some failure ∧
      ((shell.under .abort).run failing).ending = .error failure ∧
      shell.calledBy? (Text.encode "hello\n") = none ∧
      ((shell.under .abort).respond (Text.encode "hello\n")).stop = none ∧
      ((shell.under .abort).run failing).ending ≠ .ok .endOfInput ∧
      ∃ line called,
        ((shell.under .abort).processed (linesOf failing)).getLast? =
          some line ∧
        shell.calledBy? line = some called := by
  intro shell quiet failing failure
  have absent : shell.firstFailure? quiet = none := by decide +kernel
  have first : shell.firstFailure? failing = some failure := by
    decide +kernel
  have uncalled : shell.calledBy? (Text.encode "hello\n") = none := by
    decide +kernel
  have ended := ((shell.run_under_policies failing).2.1 failure first).1
  have stopped : ((shell.under .abort).run failing).ending ≠
      .ok .endOfInput := by
    rw [ended]
    nofun
  exact ⟨absent, (shell.run_under_policies quiet).1 absent, first, ended,
    uncalled, (shell.run_under_policies failing).2.2.1 _ uncalled, stopped,
    (shell.run_under_policies failing).2.2.2 stopped⟩

end Shell

end LineShell
