import Mathlib.Data.List.Forall2
import LineShell.Proofs.Input.Policies
import LineShell.Proofs.Input.Rounds
import LineShell.Proofs.Statement.Language

/-!
# What a session reports

A session reports something about some of its lines, and the end of its input.
`LineReport` says what is reported about a line: of a line that is not text how
long it is, of a line with the sigil how it was understood, and then what came
of it if its command failed or asked to leave.  The trace of a session is these
reports put together in the order of the processed lines, and nothing else
(`run_trace`).
-/

namespace LineShell

open Command (Entry Reply Table)
open Text (Bytes)

/-- An event as it is seen from outside. -/
structure Notice where
  level : Level
  target : String
  message : String
  fields : List (String × Event.FieldValue)
  deriving DecidableEq, Repr

namespace Notice

def ofEvent (event : Event) : Notice :=
  ⟨event.level, event.target, event.message, event.fields⟩

/-- Whether a notice has the given message. -/
def hasMessage (message : String) (notice : Notice) : Bool :=
  notice.message = message

end Notice

/-- What is reported of reading and carrying out a line of text. -/
inductive ReadingReport (table : Table) (sigil : Char) (line : String) :
    List Notice → Prop where
  | notACall :
      (¬∃ rest, line = String.singleton sigil ++ rest) →
      ReadingReport table sigil line []
  | unknownCommand {name text : String} :
      Composed sigil line name text →
      table.find? name = none →
      ReadingReport table sigil line
        [⟨.debug, "linecmd::commands::statement", "Unknown command",
          [("name", .quoted name)]⟩]
  | argumentsUnreadable {name text : String} {entry : Entry}
      {error : Argument.TextError} :
      Composed sigil line name text →
      table.find? name = some entry →
      Argument.tokenize text = .error error →
      ReadingReport table sigil line
        [⟨.debug, "linecmd::commands::statement", "Failed to parse arguments",
          [("name", .quoted name), ("error", .bare error.message)]⟩]
  | tooFewArguments {name text : String} {entry : Entry}
      {arguments : List String} :
      Composed sigil line name text →
      table.find? name = some entry →
      Argument.tokenize text = .ok arguments →
      arguments.length < entry.minArguments →
      ReadingReport table sigil line
        [⟨.debug, "linecmd::commands::statement", "Too few arguments",
          [("name", .quoted name), ("given", .number arguments.length),
            ("required", .number entry.minArguments)]⟩]
  | executing {name text : String} {entry : Entry}
      {arguments : List String} :
      Composed sigil line name text →
      table.find? name = some entry →
      Argument.tokenize text = .ok arguments →
      entry.minArguments ≤ arguments.length →
      ReadingReport table sigil line
        [⟨.debug, "linecmd::commands::dispatcher", "Executing command",
          [("command", .bare name), ("args", .number arguments.length)]⟩]

/-- What is reported of the result of a line. -/
inductive ResultReport (policy : FailurePolicy) :
    Except Failure Reply → List Notice → Prop where
  | answered {message : String} :
      ResultReport policy (.ok (.text message)) []
  | silent : ResultReport policy (.ok .silent) []
  | leaving :
      ResultReport policy (.ok .leave)
        [⟨.info, "linecmd::commands::processor", "Exit requested", []⟩]
  | failed {failure : Failure} :
      policy = .report →
      ResultReport policy (.error failure)
        [⟨.warn, "linecmd::commands::processor", "Command failed",
          [("error", .bare failure.display)]⟩]
  | aborted {failure : Failure} :
      policy = .abort →
      ResultReport policy (.error failure) []

/-- What is reported about a line of bytes. -/
inductive LineReport (shell : Shell) (line : Bytes) : List Notice → Prop where
  | undecodable :
      Shell.textOf? line = none →
      LineReport shell line
        [⟨.warn, "linecmd::commands::processor",
          "Skipping line with invalid UTF-8",
          [("bytes", .number line.length)]⟩]
  | text {text : String} {reading result : List Notice} :
      Shell.textOf? line = some text →
      ReadingReport shell.table shell.sigil text reading →
      ResultReport shell.policy (shell.executeLine text) result →
      LineReport shell line (reading ++ result)

/-- What is reported when there are no more lines. -/
def inputEndedNotice : Notice :=
  ⟨.debug, "linecmd::commands::processor", "End of input", []⟩

namespace Input

/-- The events among some actions, as they are seen from outside. -/
def noticesOf (actions : List Action) : List Notice :=
  (actions.filterMap Action.event?).map .ofEvent

@[simp] theorem noticesOf_append (first second : List Action) :
    noticesOf (first ++ second) = noticesOf first ++ noticesOf second := by
  simp [noticesOf]

theorem noticesOf_flatMap {α : Type} (items : List α)
    (actions : α → List Action) :
    noticesOf (items.flatMap actions) =
      items.flatMap fun item => noticesOf (actions item) := by
  simp [noticesOf, List.filterMap_flatMap, List.map_flatMap]

namespace Transcript

/-- The events of a session, as they are seen from outside. -/
def notices (transcript : Transcript) : List Notice :=
  transcript.events.map .ofEvent

theorem notices_eq_noticesOf (transcript : Transcript) :
    transcript.notices = noticesOf transcript.actions :=
  rfl

end Transcript

end Input

open Input

section Reading

variable {table : Table} {sigil : Char} {line : String}

theorem readingReport_of_meaning {statement : Statement}
    (meaning : Meaning table sigil line statement) :
    ReadingReport table sigil line (noticesOf statement.actions) := by
  cases meaning with
  | call composed found split enough =>
      exact .executing composed found split enough
  | notACall foreign => exact .notACall foreign
  | unknownCommand composed absent => exact .unknownCommand composed absent
  | argumentsUnreadable composed found split =>
      exact .argumentsUnreadable composed found split
  | tooFewArguments composed found split few =>
      exact .tooFewArguments composed found split few

theorem readingReport_iff {notices : List Notice} :
    ReadingReport table sigil line notices ↔
      notices = noticesOf (Statement.ofLine table sigil line).actions := by
  constructor
  · intro report
    cases report with
    | notACall foreign =>
        rw [ofLine_of_meaning (.notACall foreign)]
        rfl
    | unknownCommand composed absent =>
        rw [ofLine_of_meaning (.unknownCommand composed absent)]
        rfl
    | argumentsUnreadable composed found split =>
        rw [ofLine_of_meaning (.argumentsUnreadable composed found split)]
        rfl
    | tooFewArguments composed found split few =>
        rw [ofLine_of_meaning (.tooFewArguments composed found split few)]
        rfl
    | executing composed found split enough =>
        rw [ofLine_of_meaning (.call composed found split enough)]
        rfl
  · rintro rfl
    exact readingReport_of_meaning (meaning_ofLine table sigil line)

end Reading

namespace Shell

variable {shell : Shell}

theorem resultReport_iff {result : Except Failure Reply}
    {notices : List Notice} :
    ResultReport shell.policy result notices ↔
      notices = noticesOf (shell.settle result).actions := by
  unfold settle
  constructor
  · intro report
    cases report with
    | answered | silent | leaving => rfl
    | failed reporting =>
        rw [reporting]
        rfl
    | aborted aborting =>
        rw [aborting]
        rfl
  · rintro rfl
    cases result with
    | ok reply =>
        cases reply with
        | text message => exact .answered
        | silent => exact .silent
        | leave => exact .leaving
    | error failure =>
        cases policy : shell.policy with
        | report => exact .failed rfl
        | abort => exact .aborted rfl

theorem noticesOf_respond_of_text {line : Bytes} {text : String}
    (decoded : textOf? line = some text) :
    noticesOf (shell.respond line).actions =
      noticesOf (shell.read text).actions ++
        noticesOf (shell.settle (shell.executeLine text)).actions := by
  rw [respond_of_text decoded, ← noticesOf_append]
  rfl

theorem lineReport_iff {line : Bytes} {notices : List Notice} :
    LineReport shell line notices ↔
      notices = noticesOf (shell.respond line).actions := by
  constructor
  · intro report
    cases report with
    | undecodable decoded =>
        rw [respond_of_undecodable decoded]
        rfl
    | text decoded reading result =>
        rw [noticesOf_respond_of_text decoded, readingReport_iff.mp reading,
          resultReport_iff.mp result]
        rfl
  · rintro rfl
    cases decoded : textOf? line with
    | none =>
        rw [respond_of_undecodable decoded]
        exact .undecodable decoded
    | some text =>
        rw [noticesOf_respond_of_text decoded]
        exact .text decoded (readingReport_iff.mpr rfl)
          (resultReport_iff.mpr rfl)

theorem forall₂_lineReport (lines : List Bytes) :
    List.Forall₂ (LineReport shell) lines
      (lines.map fun line => noticesOf (shell.respond line).actions) := by
  rw [List.forall₂_map_right_iff, List.forall₂_same]
  intro line _
  exact lineReport_iff.mpr rfl

variable (shell)

/-- The trace of a session is made of what its responses report. -/
theorem notices_run (bytes : Bytes) :
    (shell.run bytes).notices =
      ((shell.processed (linesOf bytes)).flatMap fun line =>
          noticesOf (shell.respond line).actions) ++
        if (shell.run bytes).ending = .ok .endOfInput then [inputEndedNotice]
        else [] := by
  have actions := shell.answerLines_actions (linesOf bytes)
  rw [← cutLines_eq_linesOf, ← run_eq_answerLines] at actions
  have ended := @ending_eq_endOfInput_iff shell (linesOf bytes)
  rw [← run_ending, ← cutLines_eq_linesOf] at ended
  rw [Transcript.notices_eq_noticesOf, actions, noticesOf_append,
    noticesOf_flatMap, ← cutLines_eq_linesOf]
  simp only [ended]
  split <;> rfl

section Counts

/-- Whether a line ends the session on request. -/
def leaves (line : Bytes) : Bool :=
  (shell.verdict line).ending? = some (.ok .exitRequested)

/-- Whether the session reports that the command of a line failed. -/
def reportsFailure (line : Bytes) : Bool :=
  shell.policy = .report && (shell.failureOf? line).isSome

theorem countP_flatMap_of_each {α β : Type} {items : List α}
    {function : α → List β} {counted : β → Bool} {counting : α → Bool}
    (each : ∀ item, (function item).countP counted =
      if counting item then 1 else 0) :
    (items.flatMap function).countP counted = items.countP counting := by
  induction items with
  | nil => rfl
  | cons item items ih =>
      rw [List.flatMap_cons, List.countP_append, List.countP_cons, each, ih,
        Nat.add_comm]

theorem countP_executing_statement (statement : Statement) :
    (noticesOf statement.actions).countP
        (Notice.hasMessage "Executing command") =
      if statement.called?.isSome then 1 else 0 := by
  cases statement with
  | call name handler arguments => rfl
  | rejected rejection => cases rejection <;> rfl

theorem countP_result_statement (statement : Statement) {message : String}
    (ofResult : message = "Command failed" ∨ message = "Exit requested") :
    (noticesOf statement.actions).countP (Notice.hasMessage message) = 0 := by
  rcases ofResult with rfl | rfl <;>
    cases statement with
    | call name handler arguments => rfl
    | rejected rejection => cases rejection <;> rfl

theorem countP_executing_settle (result : Except Failure Reply) :
    (noticesOf (shell.settle result).actions).countP
      (Notice.hasMessage "Executing command") = 0 := by
  have report : ResultReport shell.policy result _ := resultReport_iff.mpr rfl
  generalize noticesOf (shell.settle result).actions = notices at report
  cases report <;> rfl

theorem countP_exit_settle (result : Except Failure Reply) :
    (noticesOf (shell.settle result).actions).countP
        (Notice.hasMessage "Exit requested") =
      if (verdictOfResult shell.policy result).ending? =
        some (.ok .exitRequested) then 1 else 0 := by
  cases result with
  | ok reply => cases reply <;> rfl
  | error failure =>
      simp only [settle, verdictOfResult]
      cases shell.policy <;> rfl

variable (line : Bytes)

theorem countP_executing_respond :
    (noticesOf (shell.respond line).actions).countP
        (Notice.hasMessage "Executing command") =
      if (shell.calledBy? line).isSome then 1 else 0 := by
  unfold calledBy?
  cases decoded : textOf? line with
  | none =>
      rw [respond_of_undecodable decoded]
      rfl
  | some text =>
      rw [noticesOf_respond_of_text decoded, List.countP_append,
        countP_executing_statement, countP_executing_settle]
      rfl

theorem countP_failed_respond :
    (noticesOf (shell.respond line).actions).countP
        (Notice.hasMessage "Command failed") =
      if shell.reportsFailure line then 1 else 0 := by
  unfold reportsFailure failureOf? statement?
  cases decoded : textOf? line with
  | none =>
      rw [respond_of_undecodable decoded]
      cases shell.policy <;> rfl
  | some text =>
      rw [noticesOf_respond_of_text decoded, List.countP_append,
        countP_result_statement _ (.inl rfl)]
      rw [Option.map_some, Option.bind_some]
      cases result : shell.executeLine text with
      | ok reply =>
          have absent : (shell.read text).failure? shell.context = none := by
            rw [Option.eq_none_iff_forall_ne_some]
            intro failure failed
            rw [Statement.failure?_eq_some_iff] at failed
            cases result.symm.trans failed
          rw [absent, Option.isSome_none, Bool.and_false]
          cases reply <;> rfl
      | error failure =>
          rw [Statement.failure?_eq_some_iff.mpr result, Option.isSome_some,
            Bool.and_true, settle]
          cases shell.policy <;> rfl

theorem countP_exit_respond :
    (noticesOf (shell.respond line).actions).countP
        (Notice.hasMessage "Exit requested") =
      if shell.leaves line then 1 else 0 := by
  unfold leaves verdict
  cases decoded : textOf? line with
  | none =>
      rw [respond_of_undecodable decoded]
      rfl
  | some text =>
      rw [noticesOf_respond_of_text decoded, List.countP_append,
        countP_result_statement _ (.inr rfl), countP_exit_settle, Nat.zero_add]
      simp only [decide_eq_true_eq]

theorem countP_leaves_processed (lines : List Bytes) :
    (shell.processed lines).countP shell.leaves =
      if shell.ending lines = .ok .exitRequested then 1 else 0 := by
  induction lines with
  | nil => rfl
  | cons line rest ih =>
      rw [processed_cons, List.countP_cons, ending_cons, leaves,
        goesOn_eq_isNone]
      cases (shell.verdict line).ending? with
      | none => simpa using ih
      | some ending => simp

end Counts

/-- Every line has exactly one report, and the trace of a session is the reports
of the lines that it processes, one after the other, with the end of its input
if it comes to that.  So it says as often that a command is executed as commands
are called, as often that one failed as failures are answered, and that the
shell was asked to leave exactly if that is how it ends. -/
theorem run_trace (bytes : Bytes) :
    (∀ line, ∃! notices, LineReport shell line notices) ∧
      (∃ reports,
        List.Forall₂ (LineReport shell) (shell.processed (linesOf bytes))
          reports ∧
        (shell.run bytes).notices = reports.flatten ++
          if (shell.run bytes).ending = .ok .endOfInput
          then [inputEndedNotice] else []) ∧
      (shell.run bytes).notices.countP
          (Notice.hasMessage "Executing command") =
        (shell.run bytes).calls.length ∧
      (shell.run bytes).notices.countP (Notice.hasMessage "Command failed") =
        (shell.processed (linesOf bytes)).countP shell.reportsFailure ∧
      (shell.run bytes).notices.countP (Notice.hasMessage "Exit requested") =
        if (shell.run bytes).ending = .ok .exitRequested then 1 else 0 := by
  have notices := shell.notices_run bytes
  have final (message : String) (other : message ≠ "End of input") :
      (if (shell.run bytes).ending = .ok .endOfInput then [inputEndedNotice]
        else []).countP (Notice.hasMessage message) = 0 := by
    split
    · simp [Notice.hasMessage, inputEndedNotice, other.symm]
    · rfl
  refine ⟨?_, ⟨_, shell.forall₂_lineReport _, ?_⟩, ?_, ?_, ?_⟩
  · intro line
    exact ⟨_, lineReport_iff.mpr rfl, fun _ report => lineReport_iff.mp report⟩
  · rw [notices, List.flatMap_def]
  · rw [notices, List.countP_append, final _ (by decide), calls_run,
      countP_flatMap_of_each shell.countP_executing_respond,
      List.length_filterMap_eq_countP]
    rfl
  · rw [notices, List.countP_append, final _ (by decide),
      countP_flatMap_of_each shell.countP_failed_respond]
    rfl
  · rw [notices, List.countP_append, final _ (by decide), run_ending,
      countP_flatMap_of_each shell.countP_exit_respond,
      countP_leaves_processed]
    rfl

end Shell

end LineShell
