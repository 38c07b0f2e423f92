import LineShell.Input.Session
import LineShell.Proofs.Input.Framing

/-!
# Sessions line by line

What a session does can be told from its lines alone.  Each line leads to a
verdict: an answer, silence, or the end of the session.  The session processes
the lines up to the first that ends it, one after the other and each once, and
writes their answers.
-/

namespace LineShell

open Text (Bytes)

namespace Input

/-- What a line leads to. -/
inductive Verdict where
  | answer (message : String)
  | silence
  | stop (ending : Except Failure Outcome)

namespace Verdict

def chunk? : Verdict → Option Bytes
  | .answer message => some (Text.encode (message ++ "\n"))
  | .silence | .stop _ => none

/-- What a verdict makes the session do, reports apart. -/
def effects : Verdict → List Action
  | .answer message => Input.answer message
  | .silence => []
  | .stop (.ok _) => [.flush]
  | .stop (.error _) => []

def ending? : Verdict → Option (Except Failure Outcome)
  | .stop ending => some ending
  | .answer _ | .silence => none

end Verdict

/-- The flushes that belong to the end of a session: one, unless a failure
ended it. -/
def endingFlushes : Except Failure Outcome → Nat
  | .ok _ => 1
  | .error _ => 0

namespace Action

/-- Whether an action does more than report. -/
def isEffect : Action → Bool
  | .log _ => false
  | .read _ | .call .. | .write _ | .flush => true

def line? : Action → Option Bytes
  | .read line => some line
  | .log _ | .call .. | .write _ | .flush => none

def called? : Action → Option (String × List String)
  | .call name arguments => some (name, arguments)
  | .read _ | .log _ | .write _ | .flush => none

end Action

end Input

namespace Statement

def called? : Statement → Option (String × List String)
  | .call name _ arguments => some (name, arguments)
  | .rejected _ => none

theorem filter_isEffect_actions (statement : Statement) :
    statement.actions.filter Input.Action.isEffect =
      statement.called?.toList.map fun called =>
        .call called.1 called.2 := by
  cases statement with
  | call name handler arguments => rfl
  | rejected rejection =>
      simp only [actions, readEvent?]
      cases rejection.event? <;> rfl

end Statement

namespace Shell

open Input

def textOf? (line : Bytes) : Option String :=
  Text.decode? (without carriageReturn (without newline line))

/-- What the result of a line of text leads to. -/
def verdictOfResult (policy : FailurePolicy) :
    Except Failure Command.Reply → Verdict
  | .ok (.text message) => .answer message
  | .ok .silent => .silence
  | .ok .leave => .stop (.ok .exitRequested)
  | .error failure =>
      match policy with
      | .report => .answer ("Error: " ++ failure.message)
      | .abort => .stop (.error failure)

/-- What a line of bytes leads to. -/
def verdict (shell : Shell) (line : Bytes) : Verdict :=
  match textOf? line with
  | none => .answer "Error: invalid input"
  | some text => verdictOfResult shell.policy (shell.executeLine text)

/-- The command that a line runs, with its arguments. -/
def calledBy? (shell : Shell) (line : Bytes) :
    Option (String × List String) :=
  (textOf? line).bind fun text => (shell.read text).called?

/-- Whether the session goes on after a line. -/
def goesOn (shell : Shell) (line : Bytes) : Bool :=
  (shell.verdict line).ending?.isNone

theorem goesOn_eq_isNone (shell : Shell) (line : Bytes) :
    shell.goesOn line = (shell.verdict line).ending?.isNone :=
  rfl

/-- The lines up to the first that ends the session, which is included. -/
def processed (shell : Shell) (lines : List Bytes) : List Bytes :=
  lines.takeWhile shell.goesOn ++ (lines.dropWhile shell.goesOn).take 1

/-- How a session over lines ends. -/
def ending (shell : Shell) (lines : List Bytes) : Except Failure Outcome :=
  (lines.findSome? fun line => (shell.verdict line).ending?).getD
    (.ok .endOfInput)

/-- The answers that a session over lines writes, in order. -/
def answers (shell : Shell) (lines : List Bytes) : List Bytes :=
  (shell.processed lines).filterMap fun line => (shell.verdict line).chunk?

/-- What a line makes the session do, reports apart. -/
def effects (shell : Shell) (line : Bytes) : List Action :=
  .read line ::
    ((shell.calledBy? line).toList.map fun called =>
      Action.call called.1 called.2) ++
    (shell.verdict line).effects

theorem ending_cons (shell : Shell) (line : Bytes) (rest : List Bytes) :
    shell.ending (line :: rest) =
      ((shell.verdict line).ending?).getD (shell.ending rest) := by
  unfold ending
  rw [List.findSome?_cons]
  cases (shell.verdict line).ending? <;> rfl

theorem processed_cons (shell : Shell) (line : Bytes) (rest : List Bytes) :
    shell.processed (line :: rest) =
      line :: if shell.goesOn line then shell.processed rest else [] := by
  unfold processed
  cases goes : shell.goesOn line <;> simp [goes]

theorem processed_prefix (shell : Shell) (lines : List Bytes) :
    shell.processed lines <+: lines := by
  have stopping := List.take_prefix 1 (lines.dropWhile shell.goesOn)
  have processed := (List.prefix_append_right_inj
    (lines.takeWhile shell.goesOn)).mpr stopping
  rwa [List.takeWhile_append_dropWhile] at processed

theorem processed_append (shell : Shell) {before : List Bytes}
    (goOn : ∀ line ∈ before, shell.goesOn line = true) (later : List Bytes) :
    shell.processed (before ++ later) = before ++ shell.processed later := by
  induction before with
  | nil => rfl
  | cons line before ih =>
      have goes := goOn line List.mem_cons_self
      have rest := ih fun other member =>
        goOn other (List.mem_cons_of_mem _ member)
      rw [List.cons_append, processed_cons, if_pos goes, rest]
      rfl

theorem processed_eq_self (shell : Shell) {lines : List Bytes}
    (goOn : ∀ line ∈ lines, shell.goesOn line = true) :
    shell.processed lines = lines := by
  have nothing : shell.processed [] = [] := rfl
  have whole := shell.processed_append goOn []
  rwa [List.append_nil, nothing, List.append_nil] at whole

/-- After a processed line another is processed only if the session goes on. -/
theorem goesOn_of_processed (shell : Shell) {lines before later : List Bytes}
    {line : Bytes}
    (shape : shell.processed lines = before ++ line :: later) :
    ∀ other ∈ before, shell.goesOn other = true := by
  induction lines generalizing before with
  | nil => simp [processed] at shape
  | cons first rest ih =>
      cases before with
      | nil => exact nofun
      | cons head before =>
          rw [processed_cons, List.cons_append, List.cons.injEq] at shape
          obtain ⟨rfl, shape⟩ := shape
          split at shape
          · rename_i goes
            intro other member
            rcases List.mem_cons.mp member with rfl | inside
            · exact goes
            · exact ih shape other inside
          · simp at shape

theorem exists_last_processed (shell : Shell) {lines : List Bytes}
    (ended : shell.ending lines ≠ .ok .endOfInput) :
    ∃ line, (shell.processed lines).getLast? = some line ∧
      shell.goesOn line = false := by
  induction lines with
  | nil => exact absurd rfl ended
  | cons line rest ih =>
      rw [processed_cons]
      cases goes : shell.goesOn line with
      | false => exact ⟨line, rfl, goes⟩
      | true =>
          rw [ending_cons] at ended
          rw [goesOn, Option.isNone_iff_eq_none] at goes
          rw [goes, Option.getD_none] at ended
          obtain ⟨final, last, stops⟩ := ih ended
          refine ⟨final, ?_, stops⟩
          rw [if_pos rfl, List.getLast?_cons, last]
          rfl

section Decoded

variable {shell : Shell} {line : Bytes}

theorem respond_of_undecodable (undecodable : textOf? line = none) :
    shell.respond line =
      ⟨.read line :: .log (.undecodable line.length) ::
        answer "Error: invalid input", none⟩ := by
  unfold textOf? at undecodable
  unfold respond
  rw [content_eq_without, undecodable]

theorem respond_of_text {text : String} (decoded : textOf? line = some text) :
    shell.respond line =
      ⟨.read line :: (shell.respondToText text).actions,
        (shell.respondToText text).stop⟩ := by
  unfold textOf? at decoded
  unfold respond
  rw [content_eq_without, decoded]

end Decoded

theorem respond_stop (shell : Shell) (line : Bytes) :
    (shell.respond line).stop = (shell.verdict line).ending? := by
  unfold respond verdict textOf?
  rw [content_eq_without]
  cases Text.decode? (without carriageReturn (without newline line)) with
  | none => rfl
  | some text =>
      simp only [respondToText, executeLine]
      cases (shell.read text).execute shell.context with
      | ok reply => cases reply <;> rfl
      | error failure =>
          simp only [settle, verdictOfResult]
          cases shell.policy <;> rfl

theorem goesOn_eq (shell : Shell) (line : Bytes) :
    shell.goesOn line = (shell.respond line).stop.isNone := by
  rw [respond_stop]
  rfl

theorem filter_isEffect_settle (shell : Shell)
    (result : Except Failure Command.Reply) :
    (shell.settle result).actions.filter Action.isEffect =
      (verdictOfResult shell.policy result).effects := by
  cases result with
  | ok reply => cases reply <;> rfl
  | error failure =>
      simp only [settle, verdictOfResult]
      cases shell.policy <;> rfl

theorem filter_isEffect_respond (shell : Shell) (line : Bytes) :
    (shell.respond line).actions.filter Action.isEffect =
      shell.effects line := by
  unfold respond effects calledBy? verdict textOf?
  rw [content_eq_without]
  cases Text.decode? (without carriageReturn (without newline line)) with
  | none => rfl
  | some text =>
      have taken : (Action.read line).isEffect = true := rfl
      simp only [respondToText, executeLine, Option.bind_some]
      rw [List.filter_cons_of_pos taken, List.filter_append,
        Statement.filter_isEffect_actions, filter_isEffect_settle,
        List.cons_append]

theorem perform_reliable (actions : List Action) :
    reliable.perform () actions = ⟨actions, .ok ()⟩ := by
  induction actions with
  | nil => rfl
  | cons action actions induction =>
      have step : reliable.perform () (action :: actions) =
          (reliable.perform () actions).after action := by
        cases action <;> rfl
      rw [step, induction]
      rfl

theorem answerLines_cons (shell : Shell) (line : Bytes) (rest : List Bytes) :
    shell.answerLines reliable none () (line :: rest) =
      match (shell.verdict line).ending? with
      | some ending => ⟨(shell.respond line).actions, ending⟩
      | none => (shell.answerLines reliable none () rest).after
          (shell.respond line).actions := by
  have stop := shell.respond_stop line
  cases verdict : (shell.verdict line).ending? with
  | none =>
      rw [verdict] at stop
      simp only [answerLines, perform_reliable, stop]
  | some ending =>
      rw [verdict] at stop
      simp only [answerLines, perform_reliable, stop]

theorem answerLines_append (shell : Shell) {before : List Bytes}
    (goOn : ∀ line ∈ before, shell.goesOn line = true) (later : List Bytes) :
    shell.answerLines reliable none () (before ++ later) =
      (shell.answerLines reliable none () later).after
        (before.flatMap fun line => (shell.respond line).actions) := by
  induction before with
  | nil => rfl
  | cons line before ih =>
      have goes := goOn line List.mem_cons_self
      have rest := ih fun other member =>
        goOn other (List.mem_cons_of_mem _ member)
      rw [goesOn, Option.isNone_iff_eq_none] at goes
      rw [List.cons_append, answerLines_cons, goes, rest]
      simp [Transcript.after]

/-- The actions of a session are the responses to the processed lines, and
closing if no line ends it. -/
theorem answerLines_actions (shell : Shell) (lines : List Bytes) :
    (shell.answerLines reliable none () lines).actions =
      (shell.processed lines).flatMap
          (fun line => (shell.respond line).actions) ++
        if lines.all shell.goesOn then closing else [] := by
  induction lines with
  | nil => rfl
  | cons line rest induction =>
      rw [answerLines_cons, processed_cons, List.all_cons, goesOn_eq_isNone]
      cases (shell.verdict line).ending? with
      | none => simp [Transcript.after, induction]
      | some ending => simp

theorem answerLines_ending (shell : Shell) (lines : List Bytes) :
    (shell.answerLines reliable none () lines).ending =
      shell.ending lines := by
  induction lines with
  | nil => rfl
  | cons line rest induction =>
      rw [answerLines_cons, ending_cons]
      cases (shell.verdict line).ending? with
      | none => exact induction
      | some ending => rfl

theorem run_ending (shell : Shell) (bytes : Bytes) :
    (shell.run bytes).ending = shell.ending (linesOf bytes) := by
  rw [← cutLines_eq_linesOf]
  exact shell.answerLines_ending (cutLines bytes)

/-- Reports apart, a session does what the processed lines say and flushes
once more if no line ends it. -/
theorem run_effects (shell : Shell) (bytes : Bytes) :
    (shell.run bytes).actions.filter Action.isEffect =
      (shell.processed (linesOf bytes)).flatMap shell.effects ++
        if (linesOf bytes).all shell.goesOn then [.flush] else [] := by
  have actions := shell.answerLines_actions (linesOf bytes)
  rw [← cutLines_eq_linesOf] at actions ⊢
  change (shell.run bytes).actions = _ at actions
  rw [actions, List.filter_append, List.filter_flatMap]
  simp only [filter_isEffect_respond]
  split <;> rfl

theorem answers_cons (shell : Shell) (line : Bytes) (rest : List Bytes) :
    shell.answers (line :: rest) = (shell.verdict line).chunk?.toList ++
      if shell.goesOn line then shell.answers rest else [] := by
  unfold answers
  rw [processed_cons, List.filterMap_cons]
  cases (shell.verdict line).chunk? <;>
    cases shell.goesOn line <;> simp

section Views

variable (shell : Shell) (line : Bytes)

theorem flatMap_written_effects :
    (shell.effects line).flatMap Action.written =
      (shell.verdict line).chunk?.toList.flatten := by
  have verdict : (shell.verdict line).effects.flatMap Action.written =
      (shell.verdict line).chunk?.toList.flatten := by
    cases shell.verdict line with
    | answer message =>
        simp [Verdict.effects, Verdict.chunk?, answer, Action.written]
    | silence => rfl
    | stop ending => cases ending <;> rfl
  unfold effects
  rw [List.flatMap_append, verdict]
  cases shell.calledBy? line <;> rfl

theorem countP_isFlush_effects :
    (shell.effects line).countP Action.isFlush =
      (shell.verdict line).chunk?.toList.length +
        ((shell.verdict line).ending?.map endingFlushes).getD 0 := by
  have verdict : (shell.verdict line).effects.countP Action.isFlush =
      (shell.verdict line).chunk?.toList.length +
        ((shell.verdict line).ending?.map endingFlushes).getD 0 := by
    cases shell.verdict line with
    | answer message => rfl
    | silence => rfl
    | stop ending => cases ending <;> rfl
  have before : (Action.read line ::
      (shell.calledBy? line).toList.map fun called =>
        Action.call called.1 called.2).countP Action.isFlush = 0 := by
    cases shell.calledBy? line <;> rfl
  unfold effects
  rw [List.countP_append, before, verdict, Nat.zero_add]

theorem filterMap_line?_effects :
    (shell.effects line).filterMap Action.line? = [line] := by
  have verdict : (shell.verdict line).effects.filterMap Action.line? = [] := by
    cases shell.verdict line with
    | answer message => rfl
    | silence => rfl
    | stop ending => cases ending <;> rfl
  unfold effects
  rw [List.filterMap_append, verdict]
  cases shell.calledBy? line <;> rfl

end Views

theorem output_eq_effects (transcript : Transcript) :
    transcript.output =
      (transcript.actions.filter Action.isEffect).flatMap Action.written := by
  unfold Transcript.output
  induction transcript.actions with
  | nil => rfl
  | cons action actions induction =>
      rw [List.flatMap_cons, induction, List.filter_cons]
      cases action <;> rfl

theorem flushes_eq_effects (transcript : Transcript) :
    transcript.flushes =
      (transcript.actions.filter Action.isEffect).countP Action.isFlush := by
  unfold Transcript.flushes
  rw [List.countP_filter]
  congr 1
  funext action
  cases action <;> rfl

/-- What is not seen in reports can be told without them. -/
theorem filterMap_effects {View : Type} {view : Action → Option View}
    (blind : ∀ event, view (.log event) = none) (actions : List Action) :
    (actions.filter Action.isEffect).filterMap view =
      actions.filterMap view := by
  rw [List.filterMap_filter]
  congr 1
  funext action
  cases action with
  | log event => exact (blind event).symm
  | read _ | call _ _ | write _ | flush => rfl

theorem flatMap_written_respond (shell : Shell) (line : Bytes) :
    (shell.respond line).actions.flatMap Action.written =
      (shell.verdict line).chunk?.toList.flatten := by
  rw [← flatMap_written_effects, ← filter_isEffect_respond]
  exact output_eq_effects ⟨(shell.respond line).actions, .ok .endOfInput⟩

theorem flatten_answers (shell : Shell) (lines : List Bytes) :
    (shell.answers lines).flatten =
      (shell.processed lines).flatMap fun line =>
        (shell.respond line).actions.flatMap Action.written := by
  unfold answers
  rw [List.filterMap_eq_flatMap_toList, List.flatten_eq_flatMap,
    List.flatMap_assoc]
  simp only [flatMap_written_respond, List.flatten_eq_flatMap]

/-- A session writes its answers. -/
theorem output_answerLines (shell : Shell) (lines : List Bytes) :
    (shell.answerLines reliable none () lines).output =
      (shell.answers lines).flatten := by
  have closed : (if lines.all shell.goesOn then closing
      else []).flatMap Action.written = [] := by
    split <;> rfl
  unfold Transcript.output
  rw [answerLines_actions, List.flatMap_append, closed, List.append_nil,
    List.flatMap_assoc, flatten_answers]

/-- The flushes of the lines and of the end of a session.  The induction
follows the lines, because a line that ends the session on request takes the
place of closing. -/
theorem countP_isFlush_session (shell : Shell) (lines : List Bytes) :
    ((shell.processed lines).flatMap shell.effects ++
        if lines.all shell.goesOn then [Action.flush] else []).countP
          Action.isFlush =
      (shell.answers lines).length + endingFlushes (shell.ending lines) := by
  induction lines with
  | nil => rfl
  | cons line rest induction =>
      rw [processed_cons, answers_cons, ending_cons, List.all_cons,
        List.flatMap_cons, List.append_assoc, List.countP_append,
        countP_isFlush_effects, goesOn_eq_isNone]
      cases (shell.verdict line).ending? with
      | none =>
          simp only [Option.isNone_none, Bool.true_and, if_true,
            Option.map_none, Option.getD_none, List.length_append]
          rw [induction]
          omega
      | some ending => simp

section Runs

variable (shell : Shell) (bytes : Bytes)

theorem output_run :
    (shell.run bytes).output = (shell.answers (linesOf bytes)).flatten := by
  rw [← cutLines_eq_linesOf]
  exact shell.output_answerLines (cutLines bytes)

theorem flushes_run :
    (shell.run bytes).flushes = (shell.answers (linesOf bytes)).length +
      endingFlushes (shell.ending (linesOf bytes)) := by
  rw [flushes_eq_effects, run_effects]
  exact shell.countP_isFlush_session (linesOf bytes)

/-- What is seen neither in reports nor in flushes can be told line by line. -/
theorem filterMap_run {View : Type} {view : Action → Option View}
    (blind : ∀ event, view (.log event) = none) (still : view .flush = none) :
    (shell.run bytes).actions.filterMap view =
      (shell.processed (linesOf bytes)).flatMap fun line =>
        (shell.effects line).filterMap view := by
  have final : (if (linesOf bytes).all shell.goesOn then [Action.flush]
      else []).filterMap view = [] := by
    split <;> simp [still]
  rw [← filterMap_effects blind, run_effects, List.filterMap_append, final,
    List.append_nil, List.filterMap_flatMap]

theorem reads_run :
    (shell.run bytes).actions.filterMap Action.line? =
      shell.processed (cutLines bytes) := by
  rw [shell.filterMap_run bytes (fun _ => rfl) rfl, cutLines_eq_linesOf]
  simp only [filterMap_line?_effects]
  exact List.flatMap_singleton' _

end Runs

/-- A session answers the lines of its input from the first on, up to the one
that ends it.  It takes each of them once, runs its command, writes its answer
and flushes before it takes the next; what it writes is the answers put
together, and it flushes once for each and once for an end without failure.  A
line is text if it is the encoding of one, its ending apart. -/
theorem run_eq_reference (shell : Shell) (bytes : Bytes) :
    (shell.run bytes).ending = shell.ending (linesOf bytes) ∧
      (shell.run bytes).output =
        (shell.answers (linesOf bytes)).flatten ∧
      (shell.run bytes).flushes =
        (shell.answers (linesOf bytes)).length +
          endingFlushes (shell.ending (linesOf bytes)) ∧
      (shell.run bytes).actions.filterMap Action.line? =
        shell.processed (linesOf bytes) ∧
      shell.processed (linesOf bytes) <+: linesOf bytes ∧
      (shell.run bytes).actions.filter Action.isEffect =
        (shell.processed (linesOf bytes)).flatMap shell.effects ++
          (if (linesOf bytes).all shell.goesOn then [.flush] else []) ∧
      ∀ line text, textOf? line = some text ↔
        without carriageReturn (without newline line) = Text.encode text := by
  have reads := shell.reads_run bytes
  rw [cutLines_eq_linesOf] at reads
  exact ⟨shell.run_ending bytes, shell.output_run bytes,
    shell.flushes_run bytes, reads, shell.processed_prefix (linesOf bytes),
    shell.run_effects bytes, fun _ _ => Text.decode?_eq_some_iff⟩

end Shell

end LineShell
