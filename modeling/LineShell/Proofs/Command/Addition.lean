import Mathlib.Algebra.Ring.Int.Defs
import LineShell.Proofs.Command.Installed
import LineShell.Proofs.Command.Numerals
import LineShell.Proofs.Command.Sums

/-!
# Addition

A sum is given back exactly if all arguments are literals and no sum of a
beginning leaves the range; it is written without signs and zeros that say
nothing (`addition_exact`).  Since a sum is read back as the number that it is
the written form of, an addition can stop after any argument and go on from
what has been written (`addition_in_stages`).
-/

namespace LineShell.Command

open Signed64 (InRange Literal Numeral)

section Sums

variable {start total : Int} {arguments : List String}

theorem addArguments_cons_of_right {argument : String} {number : Int}
    {rest : List String} (literal : Literal argument number)
    (bounded : InRange (start + number)) :
    addArguments start (argument :: rest) =
      addArguments (start + number) rest := by
  have read := Signed64.ofLiteral?_eq_some_iff.mpr literal
  have sum := Signed64.add?_eq_some_iff.mpr ⟨rfl, bounded⟩
  simp only [addArguments, read, sum]

theorem exists_of_addArguments_cons {argument : String} {rest : List String}
    (success : addArguments start (argument :: rest) = .ok total) :
    ∃ number, Literal argument number ∧ InRange (start + number) ∧
      addArguments (start + number) rest = .ok total := by
  rw [addArguments] at success
  split at success
  · cases success
  · rename_i number read
    split at success
    · cases success
    · rename_i next sum
      obtain ⟨rfl, bounded⟩ := Signed64.add?_eq_some_iff.mp sum
      exact ⟨number, Signed64.ofLiteral?_eq_some_iff.mp read, bounded, success⟩

/-- Adding succeeds exactly if all arguments are literals and every sum on the
way lies in the range. -/
theorem addArguments_eq_ok_iff (bounded : InRange start) :
    addArguments start arguments = .ok total ↔
      ∃ numbers, List.Forall₂ Literal arguments numbers ∧
        (∀ position, InRange (start + (numbers.take position).sum)) ∧
        total = start + numbers.sum := by
  induction arguments generalizing start with
  | nil =>
      constructor
      · intro success
        cases success
        exact ⟨[], .nil, by simpa using bounded, by simp⟩
      · rintro ⟨numbers, literals, -, rfl⟩
        cases literals
        simp [addArguments]
  | cons argument rest ih =>
      constructor
      · intro success
        obtain ⟨number, literal, next, later⟩ :=
          exists_of_addArguments_cons success
        obtain ⟨numbers, literals, sums, rfl⟩ := (ih next).mp later
        refine ⟨number :: numbers, .cons literal literals, ?_, ?_⟩
        · intro position
          cases position with
          | zero => simpa using bounded
          | succ position => simpa [Int.add_assoc] using sums position
        · simp [Int.add_assoc]
      · rintro ⟨numbers, literals, sums, rfl⟩
        cases literals with
        | @cons _ number _ numbers literal literals =>
            have next : InRange (start + number) := by
              simpa using sums 1
            rw [addArguments_cons_of_right literal next]
            apply (ih next).mpr
            refine ⟨numbers, literals, ?_, ?_⟩
            · intro position
              simpa [Int.add_assoc] using sums (position + 1)
            · simp [Int.add_assoc]

theorem inRange_of_addArguments (bounded : InRange start)
    (success : addArguments start arguments = .ok total) : InRange total := by
  obtain ⟨numbers, -, sums, rfl⟩ := (addArguments_eq_ok_iff bounded).mp success
  simpa using sums numbers.length

/-- Adding goes on from the sum of the arguments before, unless these have
failed. -/
theorem addArguments_append (earlier later : List String) :
    addArguments start (earlier ++ later) =
      (addArguments start earlier).bind (addArguments · later) := by
  induction earlier generalizing start with
  | nil => rfl
  | cons argument earlier ih =>
      simp only [List.cons_append, addArguments]
      split
      · rfl
      · split
        · rfl
        · exact ih

end Sums

section Faults

variable {start : Int} {arguments others : List String} {position : Nat}
  {failure : Failure}

theorem SumFault.position_lt
    (fault : SumFault start arguments position failure) :
    position < arguments.length := by
  cases fault with
  | notAnInteger found => exact (List.getElem?_eq_some_iff.mp found).1
  | overflow inside => exact inside

/-- What is wrong with an argument does not depend on those behind it. -/
theorem SumFault.congr
    (same : arguments.take (position + 1) = others.take (position + 1))
    (fault : SumFault start arguments position failure) :
    SumFault start others position failure := by
  cases fault with
  | notAnInteger found foreign =>
      refine .notAnInteger ?_ foreign
      rw [← List.getElem?_take_of_succ, ← same, List.getElem?_take_of_succ]
      exact found
  | overflow inside literals outside =>
      have sizes := congrArg List.length same
      rw [List.length_take, List.length_take] at sizes
      rw [same] at literals
      exact .overflow (by omega) literals outside

theorem FirstSumFault.congr
    (same : arguments.take (position + 1) = others.take (position + 1))
    (first : FirstSumFault start arguments position failure) :
    FirstSumFault start others position failure where
  fault := first.fault.congr same
  first := by
    intro earlier before other fault
    have shorter : others.take (earlier + 1) =
        arguments.take (earlier + 1) := by
      have cut := congrArg (List.take (earlier + 1)) same
      rw [List.take_take, List.take_take] at cut
      rwa [Nat.min_eq_left (by omega), eq_comm] at cut
    exact first.first earlier before other (fault.congr shorter)

theorem FirstSumFault.append
    (first : FirstSumFault start arguments position failure)
    (rest : List String) :
    FirstSumFault start (arguments.take (position + 1) ++ rest) position
      failure := by
  have inside := first.fault.position_lt
  have kept : position + 1 ≤ (arguments.take (position + 1)).length := by
    rw [List.length_take]
    omega
  apply first.congr
  rw [List.take_append_of_le_length kept, List.take_take, Nat.min_self]

end Faults

theorem inRange_zero : InRange 0 := by
  decide

section Stages

variable {total : Int}

theorem addArguments_literal_cons (bounded : InRange total)
    (later : List String) :
    addArguments 0 (Signed64.literal total :: later) =
      addArguments total later := by
  have literal : Literal (Signed64.literal total) total :=
    Signed64.ofLiteral?_eq_some_iff.mp (Signed64.ofLiteral?_literal bounded)
  have next : InRange (0 + total) := by
    rwa [Int.zero_add]
  rw [addArguments_cons_of_right literal next, Int.zero_add]

/-- What has been written of a sum stands for the arguments that it is the sum
of. -/
theorem addArguments_resumed {earlier : List String}
    (success : addArguments 0 earlier = .ok total) (later : List String) :
    addArguments 0 (earlier ++ later) =
      addArguments 0 (Signed64.literal total :: later) := by
  have bounded := inRange_of_addArguments inRange_zero success
  rw [addArguments_literal_cons bounded, addArguments_append, success]
  rfl

end Stages

section Replies

variable {context : Context} {arguments : List String} {text : String}
  {failure : Failure}

theorem run_add_eq_text_iff :
    Builtin.add.run context arguments = .ok (.text text) ↔
      ∃ total, addArguments 0 arguments = .ok total ∧
        Signed64.literal total = text := by
  cases sum : addArguments 0 arguments <;> simp [Builtin.run, sum, Except.map]

theorem run_add_eq_error_iff :
    Builtin.add.run context arguments = .error failure ↔
      addArguments 0 arguments = .error failure := by
  simp [Builtin.run_eq_error_iff]

theorem run_add_cases (context : Context) (arguments : List String) :
    (∃ text, Builtin.add.run context arguments = .ok (.text text)) ∨
      ∃ failure, Builtin.add.run context arguments = .error failure := by
  cases sum : addArguments 0 arguments with
  | ok total => exact .inl ⟨_, run_add_eq_text_iff.mpr ⟨total, sum, rfl⟩⟩
  | error failure => exact .inr ⟨failure, run_add_eq_error_iff.mpr sum⟩

end Replies

/-- Adding gives back a sum exactly if every argument is a literal and the sum
of every beginning lies in the range, and then the written form of the exact
sum.  Otherwise the first argument that is no literal or takes its sum out of
the range decides the failure, whatever stands behind it. -/
theorem addition_exact (context : Context) (arguments : List String) :
    (∀ text, Builtin.add.run context arguments = .ok (.text text) ↔
      ∃ numbers, List.Forall₂ Literal arguments numbers ∧
        (∀ position, InRange (numbers.take position).sum) ∧
        Numeral text.toList numbers.sum) ∧
      (∀ failure, Builtin.add.run context arguments = .error failure ↔
        ∃ position, FirstSumFault 0 arguments position failure) ∧
      ((∃ text, Builtin.add.run context arguments = .ok (.text text)) ∨
        ∃ failure, Builtin.add.run context arguments = .error failure) ∧
      ∀ position failure, FirstSumFault 0 arguments position failure →
        ∀ rest, Builtin.add.run context
          (arguments.take (position + 1) ++ rest) = .error failure := by
  refine ⟨?_, ?_, run_add_cases context arguments, ?_⟩
  · intro text
    simp only [run_add_eq_text_iff, addArguments_eq_ok_iff inRange_zero,
      Int.zero_add, Signed64.literal_eq_iff]
    constructor
    · rintro ⟨total, ⟨numbers, literals, sums, rfl⟩, written⟩
      exact ⟨numbers, literals, sums, written⟩
    · rintro ⟨numbers, literals, sums, written⟩
      exact ⟨_, ⟨numbers, literals, sums, rfl⟩, written⟩
  · intro failure
    rw [run_add_eq_error_iff, addArguments_eq_error_iff]
  · intro position failure first rest
    rw [run_add_eq_error_iff, addArguments_eq_error_iff]
    exact ⟨position, first.append rest⟩

/-- The sum leaves the range at the second argument.  That an argument behind
it would bring it back, or is no integer, plays no part. -/
theorem addition_exact_leavingRange :
    FirstSumFault 0 ["9223372036854775807", "+001", "x"] 1
        (.command "integer overflow") ∧
      Builtin.add.run ⟨'!', []⟩ ["9223372036854775807", "+001", "-1"] =
        .error (.command "integer overflow") := by
  have highest : Literal "9223372036854775807" 9223372036854775807 :=
    Signed64.ofLiteral?_eq_some_iff.mp (by decide)
  have one : Literal "+001" 1 := Signed64.ofLiteral?_eq_some_iff.mp (by decide)
  have wrong : SumFault 9223372036854775807 ["+001", "x"] 0
      integerOverflow :=
    (sumFault_zero_of_literal one).mpr ⟨rfl, by decide⟩
  have first : FirstSumFault 0 ["9223372036854775807", "+001", "x"] 1
      integerOverflow :=
    (firstSumFault_of_right highest (by decide)).mpr
      ⟨0, rfl, (firstSumFault_of_wrong wrong).mpr ⟨rfl, wrong⟩⟩
  obtain ⟨-, -, -, decided⟩ :=
    addition_exact ⟨'!', []⟩ ["9223372036854775807", "+001", "x"]
  exact ⟨first, decided 1 _ first ["-1"]⟩

/-- An addition can stop after any of its arguments.  What it gives back there
stands for these arguments in a new addition, with the same result in the end,
and a failure there is final.  Every number of the range is read back from what
is written of it. -/
theorem addition_in_stages (context : Context) (earlier later : List String) :
    (∀ text, Builtin.add.run context earlier = .ok (.text text) →
      Builtin.add.run context (earlier ++ later) =
        Builtin.add.run context ([text] ++ later)) ∧
      (∀ failure, Builtin.add.run context earlier = .error failure →
        Builtin.add.run context (earlier ++ later) = .error failure) ∧
      ∀ number, InRange number →
        Signed64.ofLiteral? (Signed64.literal number) = some number ∧
          Builtin.add.run context [Signed64.literal number] =
            .ok (.text (Signed64.literal number)) := by
  refine ⟨?_, ?_, ?_⟩
  · intro text added
    obtain ⟨total, success, rfl⟩ := run_add_eq_text_iff.mp added
    have resumed := addArguments_resumed success later
    simp only [Builtin.run, List.singleton_append, resumed]
  · intro failure failed
    rw [run_add_eq_error_iff] at failed ⊢
    rw [addArguments_append, failed]
    rfl
  · intro number bounded
    refine ⟨Signed64.ofLiteral?_literal bounded,
      run_add_eq_text_iff.mpr ⟨number, ?_, rfl⟩⟩
    rw [addArguments_literal_cons bounded]
    rfl

/-- An addition stops at the least number, from where nothing leads further
down. -/
theorem addition_in_stages_lowest :
    Builtin.add.run ⟨'!', []⟩ ["-9223372036854775807", "-1"] =
        .ok (.text "-9223372036854775808") ∧
      Builtin.add.run ⟨'!', []⟩
          (["-9223372036854775807", "-1"] ++ ["-0", "-1", "x"]) =
        Builtin.add.run ⟨'!', []⟩
          (["-9223372036854775808"] ++ ["-0", "-1", "x"]) ∧
      Builtin.add.run ⟨'!', []⟩ ["-9223372036854775808", "-0", "-1"] =
        .error integerOverflow ∧
      Builtin.add.run ⟨'!', []⟩
          (["-9223372036854775808", "-0", "-1"] ++ ["x"]) =
        .error integerOverflow ∧
      Signed64.ofLiteral? (Signed64.literal (-9223372036854775808)) =
        some (-9223372036854775808) := by
  have added : Builtin.add.run ⟨'!', []⟩ ["-9223372036854775807", "-1"] =
      .ok (.text "-9223372036854775808") := by
    decide
  have failed : Builtin.add.run ⟨'!', []⟩
      ["-9223372036854775808", "-0", "-1"] = .error integerOverflow := by
    decide
  obtain ⟨resumed, -, read⟩ := addition_in_stages ⟨'!', []⟩
    ["-9223372036854775807", "-1"] ["-0", "-1", "x"]
  obtain ⟨-, final, -⟩ := addition_in_stages ⟨'!', []⟩
    ["-9223372036854775808", "-0", "-1"] ["x"]
  exact ⟨added, resumed _ added, failed, final _ failed,
    (read _ (by decide)).1⟩

end LineShell.Command
