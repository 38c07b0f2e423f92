import LineShell.Proofs.Input.Performance

/-!
# Sessions on limited devices

A limited device stores so many bytes and flushes so many times.  `Exhaustion`
says where a performance on it breaks off: at the first write that does not fit
or at the first flush that is one too many.  Which of the two comes first can
be told by counting answers, because a session flushes after each answer before
it writes the next one, and otherwise only at its end (`Prompt`).
-/

namespace LineShell

open Text (Bytes)

namespace Input

namespace Action

def chunk? : Action → Option Bytes
  | .write bytes => some bytes
  | .read _ | .log _ | .call .. | .flush => none

end Action

/-- Each write is flushed before anything else reaches the device, and no other
flush is made but at the end. -/
inductive Prompt : List Action → Prop where
  | nil : Prompt []
  | quiet {action : Action} {rest : List Action} :
      action.isOutput = false → Prompt rest → Prompt (action :: rest)
  | answer {bytes : Bytes} {rest : List Action} :
      Prompt rest → Prompt (.write bytes :: .flush :: rest)
  | final : Prompt [.flush]

/-- Where a performance on a limited device breaks off, if it does. -/
inductive Exhaustion (room flushes : Nat) (actions : List Action) :
    Performance Allowance → Prop where
  | complete (left : Allowance) :
      (actions.flatMap Action.written).length ≤ room →
      actions.countP Action.isFlush ≤ flushes →
      Exhaustion room flushes actions ⟨actions, .ok left⟩
  | sinkFull {before after : List Action} {bytes : Bytes} :
      actions = before ++ .write bytes :: after →
      (before.flatMap Action.written).length ≤ room →
      room < (before.flatMap Action.written).length + bytes.length →
      before.countP Action.isFlush ≤ flushes →
      Exhaustion room flushes actions
        ⟨before ++ [.write
          (bytes.take (room - (before.flatMap Action.written).length))],
          .error sinkFull⟩
  | flushFailed {before after : List Action} :
      actions = before ++ .flush :: after →
      (before.flatMap Action.written).length ≤ room →
      before.countP Action.isFlush = flushes →
      Exhaustion room flushes actions ⟨before, .error flushFailed⟩

section Exhaustion

variable {room flushes : Nat} {actions : List Action}

theorem Exhaustion.after {performance : Performance Allowance}
    (exhaustion : Exhaustion room flushes actions performance)
    (action : Action) :
    Exhaustion (room + action.written.length)
      (flushes + if action.isFlush then 1 else 0) (action :: actions)
      (performance.after action) := by
  have size : ∀ before : List Action,
      ((action :: before).flatMap Action.written).length =
        (before.flatMap Action.written).length + action.written.length := by
    intro before
    rw [List.flatMap_cons, List.length_append, Nat.add_comm]
  cases exhaustion with
  | complete left fits enough =>
      refine .complete left ?_ ?_
      · rw [size]
        exact Nat.add_le_add_right fits _
      · rw [List.countP_cons]
        exact Nat.add_le_add_right enough _
  | @sinkFull before after bytes whole fits full enough =>
      have stored : room - (before.flatMap Action.written).length =
          room + action.written.length -
            ((action :: before).flatMap Action.written).length := by
        rw [size]
        omega
      rw [Performance.after, stored, ← List.cons_append]
      apply Exhaustion.sinkFull
      · rw [whole, List.cons_append]
      · rw [size]
        exact Nat.add_le_add_right fits _
      · rw [size]
        omega
      · rw [List.countP_cons]
        exact Nat.add_le_add_right enough _
  | @flushFailed before after whole fits spent =>
      apply Exhaustion.flushFailed
      · rw [whole]
        rfl
      · rw [size]
        exact Nat.add_le_add_right fits _
      · rw [List.countP_cons, spent]

theorem exhaustion_perform (room flushes : Nat) (actions : List Action) :
    Exhaustion room flushes actions
      (limited.perform ⟨some room, some flushes⟩ actions) := by
  -- What one action leaves of the limits is what the rest has to do with.
  induction actions generalizing room flushes with
  | nil => exact .complete _ (Nat.zero_le _) (Nat.zero_le _)
  | cons action actions induction =>
      cases action with
      | write bytes =>
          by_cases fits : bytes.length ≤ room
          · obtain ⟨spare, rfl⟩ := Nat.exists_eq_add_of_le' fits
            simp only [Device.perform, limited, fits, if_true,
              Nat.add_sub_cancel]
            exact (induction spare flushes).after (.write bytes)
          · simp only [Device.perform, limited, fits, if_false]
            exact @Exhaustion.sinkFull room flushes _ [] actions bytes rfl
              (Nat.zero_le _) (by simpa using fits) (Nat.zero_le _)
      | flush =>
          cases flushes with
          | zero =>
              exact @Exhaustion.flushFailed room 0 _ [] actions rfl
                (Nat.zero_le _) rfl
          | succ flushes => exact (induction room flushes).after .flush
      | read line => exact (induction room flushes).after (.read line)
      | log event => exact (induction room flushes).after (.log event)
      | call name arguments =>
          exact (induction room flushes).after (.call name arguments)

end Exhaustion

section Prompt

variable {actions before after : List Action} {bytes : Bytes}

theorem Prompt.append_quiet {quiet rest : List Action}
    (silent : ∀ action ∈ quiet, action.isOutput = false)
    (prompt : Prompt rest) : Prompt (quiet ++ rest) := by
  induction quiet with
  | nil => exact prompt
  | cons action quiet induction =>
      refine .quiet (silent action List.mem_cons_self) (induction ?_)
      intro other member
      exact silent other (List.mem_cons_of_mem _ member)

theorem chunk?_of_quiet {action : Action} (silent : action.isOutput = false) :
    action.chunk? = none ∧ action.isFlush = false := by
  cases action with
  | write | flush => cases silent
  | read | log | call => exact ⟨rfl, rfl⟩

/-- When an action reaches the device, the answers written before it are those
that have been flushed, and one more if the action is to flush it. -/
theorem Prompt.chunks_before {action : Action} (prompt : Prompt actions)
    (whole : actions = before ++ action :: after)
    (output : action.isOutput = true) :
    before.filterMap Action.chunk? =
      (actions.filterMap Action.chunk?).take
        (before.countP Action.isFlush + if action.isFlush then 1 else 0) := by
  induction prompt generalizing before with
  | nil => simp at whole
  | @quiet first rest silent prompt induction =>
      cases before with
      | nil =>
          rw [List.nil_append, List.cons.injEq] at whole
          rw [whole.1, output] at silent
          cases silent
      | cons other before =>
          rw [List.cons_append, List.cons.injEq] at whole
          obtain ⟨rfl, whole⟩ := whole
          obtain ⟨noChunk, noFlush⟩ := chunk?_of_quiet silent
          rw [List.countP_cons_of_neg (by simp [noFlush]),
            List.filterMap_cons_none noChunk,
            List.filterMap_cons_none noChunk, induction whole]
  | @answer bytes rest prompt induction =>
      -- The action is the write, its flush, or one of those after both.
      rcases before with _ | ⟨first, _ | ⟨second, before⟩⟩
      · rw [List.nil_append, List.cons.injEq] at whole
        rw [← whole.1]
        rfl
      · simp only [List.cons_append, List.nil_append, List.cons.injEq] at whole
        obtain ⟨rfl, rfl, -⟩ := whole
        rfl
      · simp only [List.cons_append, List.cons.injEq] at whole
        obtain ⟨rfl, rfl, whole⟩ := whole
        have chunks : ∀ later,
            (Action.write bytes :: .flush :: later).filterMap Action.chunk? =
              bytes :: later.filterMap Action.chunk? := fun _ => rfl
        have flushes : (Action.write bytes :: .flush :: before).countP
            Action.isFlush = before.countP Action.isFlush + 1 := by
          simp [List.countP_cons, Action.isFlush]
        rw [chunks, chunks, flushes, Nat.add_right_comm, List.take_succ_cons,
          induction whole]
  | final =>
      cases before with
      | nil =>
          rw [List.nil_append, List.cons.injEq] at whole
          rw [← whole.1]
          rfl
      | cons first before => simp at whole

end Prompt

/-- The chunk at a position is the first that makes the lengths add up to more
than the room. -/
def Overflows (room : Nat) (chunks : List Bytes) (position : Nat) : Prop :=
  (chunks.take position).flatten.length ≤ room ∧
    room < (chunks.take (position + 1)).flatten.length

section Overflow

variable {room : Nat} {chunks : List Bytes}

theorem length_flatten_take_mono {fewer more : Nat} (less : fewer ≤ more) :
    (chunks.take fewer).flatten.length ≤ (chunks.take more).flatten.length := by
  obtain ⟨rest, whole⟩ := List.take_prefix_take_left (l := chunks) less
  rw [← whole, List.flatten_append, List.length_append]
  exact Nat.le_add_right _ _

theorem Overflows.le_of_fits {position count : Nat}
    (overflows : Overflows room chunks position)
    (fits : (chunks.take count).flatten.length ≤ room) : count ≤ position := by
  apply Nat.le_of_not_lt
  intro beyond
  have larger := @length_flatten_take_mono chunks _ _ beyond
  exact absurd overflows.2 (Nat.not_lt.mpr (Nat.le_trans larger fits))

theorem Overflows.not_fits {position : Nat}
    (overflows : Overflows room chunks position) :
    ¬chunks.flatten.length ≤ room := by
  intro fits
  have all : chunks.take (position + 1 + chunks.length) = chunks :=
    List.take_of_length_le (Nat.le_add_left _ _)
  rw [← all] at fits
  have bound := overflows.le_of_fits fits
  omega

theorem Overflows.unique {position other : Nat}
    (overflows : Overflows room chunks position)
    (again : Overflows room chunks other) : other = position :=
  Nat.le_antisymm (overflows.le_of_fits again.1) (again.le_of_fits overflows.1)

end Overflow

/-- A session that does what another does up to some action, and of that action
only what is given. -/
def CutAt (ideal broken : Transcript) (next : Action) (done : List Action) :
    Prop :=
  ∃ before after, ideal.actions = before ++ next :: after ∧
    broken.actions = before ++ done

/-- A session that found its device full at the answer of a position. -/
structure BrokeOffFull (ideal broken : Transcript) (chunks : List Bytes)
    (room position : Nat) : Prop where
  ending : broken.ending = .error (.inputOutput "sink full")
  output : broken.output = ideal.output.take room
  flushes : broken.flushes = position
  events : broken.events <+: ideal.events
  cut : ∃ chunk part, chunks[position]? = some chunk ∧
    part <+: chunk ∧ part ≠ chunk ∧
      CutAt ideal broken (.write chunk) [.write part]

/-- A session whose device had flushed so many times and failed to flush
again. -/
structure BrokeOffUnflushed (ideal broken : Transcript) (chunks : List Bytes)
    (limit : Nat) : Prop where
  ending : broken.ending = .error (.inputOutput "flush failed")
  output : broken.output = (chunks.take (limit + 1)).flatten
  flushes : broken.flushes = limit
  events : broken.events <+: ideal.events
  cut : CutAt ideal broken .flush []

theorem flatMap_written (actions : List Action) :
    actions.flatMap Action.written =
      (actions.filterMap Action.chunk?).flatten := by
  induction actions with
  | nil => rfl
  | cons action actions induction =>
      rw [List.flatMap_cons, induction]
      cases action <;> rfl

section Cut

variable {ideal : Transcript} {before after : List Action} {chunk : Bytes}
  {room : Nat}

theorem chunks_of_cut
    (whole : ideal.actions = before ++ .write chunk :: after) :
    ideal.actions.filterMap Action.chunk? =
      before.filterMap Action.chunk? ++
        chunk :: after.filterMap Action.chunk? := by
  rw [whole, List.filterMap_append]
  rfl

theorem flushes_before_write (prompt : Prompt ideal.actions)
    (whole : ideal.actions = before ++ .write chunk :: after) :
    before.countP Action.isFlush =
      (before.filterMap Action.chunk?).length := by
  have earlier := congrArg List.length (prompt.chunks_before whole rfl)
  rw [chunks_of_cut whole, List.length_take, List.length_append,
    List.length_cons] at earlier
  simp only [Action.isFlush, Bool.false_eq_true, if_false] at earlier
  omega

theorem overflows_of_cut (prompt : Prompt ideal.actions)
    (whole : ideal.actions = before ++ .write chunk :: after)
    (fits : (before.flatMap Action.written).length ≤ room)
    (full : room < (before.flatMap Action.written).length + chunk.length) :
    Overflows room (ideal.actions.filterMap Action.chunk?)
      (before.countP Action.isFlush) := by
  rw [flatMap_written] at fits full
  rw [flushes_before_write prompt whole, chunks_of_cut whole]
  constructor
  · rw [List.take_left]
    exact fits
  · rw [List.take_length_add_append]
    simpa using full

theorem brokeOffFull_of_cut (prompt : Prompt ideal.actions)
    (whole : ideal.actions = before ++ .write chunk :: after)
    (fits : (before.flatMap Action.written).length ≤ room)
    (full : room < (before.flatMap Action.written).length + chunk.length) :
    BrokeOffFull ideal
      ⟨before ++ [.write
        (chunk.take (room - (before.flatMap Action.written).length))],
        .error sinkFull⟩
      (ideal.actions.filterMap Action.chunk?) room
      (before.countP Action.isFlush) where
  ending := rfl
  output := by
    unfold Transcript.output
    rw [whole, List.flatMap_append, List.flatMap_append, List.take_append,
      List.take_of_length_le fits, List.flatMap_singleton,
      List.flatMap_cons]
    have inside : room - (before.flatMap Action.written).length ≤
        chunk.length := by omega
    exact congrArg _ (List.take_append_of_le_length inside).symm
  flushes := by
    unfold Transcript.flushes
    rw [List.countP_append]
    rfl
  events := by
    unfold Transcript.events
    rw [whole, List.filterMap_append, List.filterMap_append]
    exact (List.prefix_append_right_inj _).mpr (List.nil_prefix)
  cut := by
    refine ⟨chunk, chunk.take (room - (before.flatMap Action.written).length),
      ?_, List.take_prefix _ _, ?_, before, after, whole, rfl⟩
    · rw [flushes_before_write prompt whole, chunks_of_cut whole]
      simp
    · intro same
      have shorter := congrArg List.length same
      rw [List.length_take] at shorter
      omega

theorem brokeOffUnflushed_of_cut (prompt : Prompt ideal.actions)
    (whole : ideal.actions = before ++ .flush :: after) :
    BrokeOffUnflushed ideal ⟨before, .error flushFailed⟩
      (ideal.actions.filterMap Action.chunk?)
      (before.countP Action.isFlush) where
  ending := rfl
  output := by
    unfold Transcript.output
    rw [flatMap_written, prompt.chunks_before whole rfl]
    rfl
  flushes := rfl
  events := by
    unfold Transcript.events
    rw [whole, List.filterMap_append]
    exact List.prefix_append _ _
  cut := ⟨before, after, whole, (List.append_nil before).symm⟩

end Cut

end Input

namespace Shell

open Input

section Prompt

variable (shell : Shell) {rest : List Action} (prompt : Prompt rest)

include prompt

theorem prompt_settle (result : Except Failure Command.Reply) :
    Prompt ((shell.settle result).actions ++
      if (shell.settle result).stop.isNone then rest else []) := by
  cases result with
  | ok reply =>
      cases reply with
      | text message => exact .answer prompt
      | silent => exact prompt
      | leave => exact .quiet rfl .final
  | error failure =>
      unfold settle
      cases shell.policy with
      | report => exact .quiet rfl (.answer prompt)
      | abort => exact .nil

theorem prompt_respond (line : Bytes) :
    Prompt ((shell.respond line).actions ++
      if (shell.respond line).stop.isNone then rest else []) := by
  unfold respond
  cases Text.decode? (content line) with
  | none => exact .quiet rfl (.quiet rfl (.answer prompt))
  | some text =>
      have silent : ∀ action ∈ (shell.read text).actions,
          action.isOutput = false := fun action member =>
        Action.isOutput_eq_false
          ((shell.read text).isOfStatement_actions action member)
      have later := Prompt.append_quiet silent
        (shell.prompt_settle prompt
          ((shell.read text).execute shell.context))
      rw [← List.append_assoc] at later
      exact .quiet rfl later

end Prompt

theorem prompt_answerLines (shell : Shell) (failure : Option Failure)
    (lines : List Bytes) :
    Prompt (shell.answerLines reliable failure () lines).actions := by
  induction lines with
  | nil =>
      cases failure with
      | some failure => exact .nil
      | none => exact .quiet rfl .final
  | cons line rest induction =>
      have prompt := shell.prompt_respond induction line
      rw [answerLines_reliable_cons]
      cases stop : (shell.respond line).stop with
      | none =>
          rw [stop] at prompt
          exact prompt
      | some ending =>
          rw [stop] at prompt
          simpa using prompt

variable (shell : Shell) (bytes : Bytes)

theorem filterMap_chunk?_effects (line : Bytes) :
    (shell.effects line).filterMap Action.chunk? =
      (shell.verdict line).chunk?.toList := by
  have verdict : (shell.verdict line).effects.filterMap Action.chunk? =
      (shell.verdict line).chunk?.toList := by
    cases shell.verdict line with
    | answer message => rfl
    | silence => rfl
    | stop ending => cases ending <;> rfl
  unfold effects
  rw [List.filterMap_append, verdict]
  cases shell.calledBy? line <;> rfl

theorem chunks_run :
    (shell.run bytes).actions.filterMap Action.chunk? =
      shell.answers (linesOf bytes) := by
  rw [shell.filterMap_run bytes (fun _ => rfl) rfl, answers,
    List.filterMap_eq_flatMap_toList]
  simp only [filterMap_chunk?_effects]

theorem runOn_limited_cases (room limit : Nat) :
    (shell.runOn limited ⟨some room, some limit⟩ (.ofBytes bytes) =
        shell.run bytes ∧
      (shell.run bytes).output.length ≤ room ∧
      (shell.run bytes).flushes ≤ limit) ∨
    (∃ position, Overflows room (shell.answers (linesOf bytes)) position ∧
      position ≤ limit ∧
      BrokeOffFull (shell.run bytes)
        (shell.runOn limited ⟨some room, some limit⟩ (.ofBytes bytes))
        (shell.answers (linesOf bytes)) room position) ∨
    (((shell.answers (linesOf bytes)).take (limit + 1)).flatten.length ≤ room ∧
      limit < (shell.run bytes).flushes ∧
      BrokeOffUnflushed (shell.run bytes)
        (shell.runOn limited ⟨some room, some limit⟩ (.ofBytes bytes))
        (shell.answers (linesOf bytes)) limit) := by
  have enacted : shell.runOn limited ⟨some room, some limit⟩ (.ofBytes bytes) =
      limited.enact ⟨some room, some limit⟩ (shell.run bytes) :=
    shell.runOn_eq_enact limited _ (.ofBytes bytes)
  have prompt : Prompt (shell.run bytes).actions :=
    shell.prompt_answerLines none (cutLines bytes)
  have chunks := shell.chunks_run bytes
  have exhaustion :=
    exhaustion_perform room limit (shell.run bytes).actions
  rw [enacted, ← chunks]
  generalize shell.run bytes = ideal at *
  rw [Device.enact]
  generalize limited.perform ⟨some room, some limit⟩ ideal.actions =
    performance at exhaustion
  cases exhaustion with
  | complete left fits enough => exact .inl ⟨rfl, fits, enough⟩
  | @sinkFull before after chunk whole fits full enough =>
      right
      left
      exact ⟨before.countP Action.isFlush,
        overflows_of_cut prompt whole fits full, enough,
        brokeOffFull_of_cut prompt whole fits full⟩
  | @flushFailed before after whole fits spent =>
      right
      right
      rw [← spent]
      refine ⟨?_, ?_, brokeOffUnflushed_of_cut prompt whole⟩
      · rw [flatMap_written, prompt.chunks_before whole rfl] at fits
        exact fits
      · rw [Transcript.flushes, whole, List.countP_append, List.countP_cons]
        exact Nat.lt_add_of_pos_right (Nat.succ_pos _)

/-- A device that is limited in the bytes that it stores and in the times that
it flushes breaks a session off at the first answer that does not fit, if that
answer comes before the first flush that is one too many, and otherwise at that
flush; a session that needs neither is not disturbed. -/
theorem run_on_limited (room limit : Nat) :
    ((¬∃ position,
          Overflows room (shell.answers (linesOf bytes)) position) →
        (shell.run bytes).flushes ≤ limit →
          shell.runOn limited ⟨some room, some limit⟩ (.ofBytes bytes) =
            shell.run bytes) ∧
      (∀ position, Overflows room (shell.answers (linesOf bytes)) position →
        position ≤ limit ∨ (shell.run bytes).flushes ≤ limit →
          BrokeOffFull (shell.run bytes)
            (shell.runOn limited ⟨some room, some limit⟩ (.ofBytes bytes))
            (shell.answers (linesOf bytes)) room position) ∧
      (limit < (shell.run bytes).flushes →
        (∀ position, Overflows room (shell.answers (linesOf bytes)) position →
          limit < position) →
          BrokeOffUnflushed (shell.run bytes)
            (shell.runOn limited ⟨some room, some limit⟩ (.ofBytes bytes))
            (shell.answers (linesOf bytes)) limit ∧
          ((shell.run bytes).flushes = limit + 1 →
            (shell.runOn limited ⟨some room, some limit⟩
              (.ofBytes bytes)).output = (shell.run bytes).output)) := by
  rcases shell.runOn_limited_cases bytes room limit with
    ⟨same, fits, enough⟩ | ⟨position, overflows, early, broke⟩ |
      ⟨fits, spent, broke⟩
  · refine ⟨fun _ _ => same, ?_, ?_⟩
    · intro position overflows
      rw [output_run] at fits
      exact absurd fits overflows.not_fits
    · intro spent
      exact absurd enough (Nat.not_le.mpr spent)
  · refine ⟨?_, ?_, ?_⟩
    · intro none
      exact absurd ⟨position, overflows⟩ none
    · intro other again _
      rw [overflows.unique again]
      exact broke
    · intro _ late
      exact absurd early (Nat.not_le.mpr (late position overflows))
  · refine ⟨?_, ?_, ?_⟩
    · intro _ enough
      exact absurd enough (Nat.not_le.mpr spent)
    · intro position overflows first
      have late := overflows.le_of_fits fits
      omega
    · intro _ _
      refine ⟨broke, ?_⟩
      intro last
      have counted := shell.flushes_run bytes
      rw [broke.output, output_run, List.take_of_length_le]
      omega

/-- Two answers of twenty-five bytes each, on a device with room for thirty
bytes and on one with room for both that flushes only once. -/
theorem run_on_limited_twoAnswers :
    Overflows 30 ((ofTable .empty).answers (linesOf [120, 10, 33, 10])) 1 ∧
      BrokeOffFull ((ofTable .empty).run [120, 10, 33, 10])
        ((ofTable .empty).runOn limited ⟨some 30, some 1⟩
          (.ofBytes [120, 10, 33, 10]))
        ((ofTable .empty).answers (linesOf [120, 10, 33, 10])) 30 1 ∧
      1 < ((ofTable .empty).run [120, 10, 33, 10]).flushes ∧
      BrokeOffUnflushed ((ofTable .empty).run [120, 10, 33, 10])
        ((ofTable .empty).runOn limited ⟨some 50, some 1⟩
          (.ofBytes [120, 10, 33, 10]))
        ((ofTable .empty).answers (linesOf [120, 10, 33, 10])) 1 ∧
      (ofTable .empty).runOn limited ⟨some 50, some 3⟩
          (.ofBytes [120, 10, 33, 10]) =
        (ofTable .empty).run [120, 10, 33, 10] := by
  have overflows :
      Overflows 30 ((ofTable .empty).answers (linesOf [120, 10, 33, 10])) 1 :=
    ⟨by decide +kernel, by decide +kernel⟩
  have fits : ∀ position, ¬Overflows 50
      ((ofTable .empty).answers (linesOf [120, 10, 33, 10])) position := by
    intro position overflows
    exact overflows.not_fits (by decide +kernel)
  have spent : 1 < ((ofTable .empty).run [120, 10, 33, 10]).flushes := by
    decide +kernel
  refine ⟨overflows, ?_, spent, ?_, ?_⟩
  · exact (run_on_limited _ _ 30 1).2.1 1 overflows (.inl (Nat.le_refl 1))
  · refine ((run_on_limited _ _ 50 1).2.2 spent ?_).1
    intro position overflows
    exact absurd overflows (fits position)
  · refine (run_on_limited _ _ 50 3).1 ?_ (by decide +kernel)
    rintro ⟨position, overflows⟩
    exact fits position overflows

end Shell

end LineShell
