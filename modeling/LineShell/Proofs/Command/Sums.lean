import LineShell.Command.Library
import LineShell.Proofs.Command.Literals

/-!
# Sums that fail

An argument of a sum can be wrong in two ways: it is no integer, or the sum up
to it leaves the range.  `SumFault` says so of the argument at any position,
whether or not one before it is wrong as well.  Adding fails exactly if some
argument is wrong, and the first one that is gives the failure
(`addArguments_eq_error_iff`).
-/

namespace LineShell.Command

open Signed64 (InRange Literal)

/-- What is wrong with the argument at a position, in a sum that begins with a
number. -/
inductive SumFault (start : Int) (arguments : List String) (position : Nat) :
    Failure → Prop where
  | notAnInteger {argument : String} :
      arguments[position]? = some argument →
      (¬∃ number, Literal argument number) →
      SumFault start arguments position
        (.command ("'" ++ argument ++ "' is not an integer"))
  | overflow {numbers : List Int} :
      position < arguments.length →
      List.Forall₂ Literal (arguments.take (position + 1)) numbers →
      ¬InRange (numbers.foldl (· + ·) start) →
      SumFault start arguments position (.command "integer overflow")

/-- No argument before the one at the position is wrong. -/
structure FirstSumFault (start : Int) (arguments : List String)
    (position : Nat) (failure : Failure) : Prop where
  fault : SumFault start arguments position failure
  first : ∀ earlier < position, ∀ other, ¬SumFault start arguments earlier other

section Arguments

variable {start : Int} {argument : String} {rest : List String}
  {position : Nat} {failure : Failure}

theorem sumFault_zero_of_no_literal
    (foreign : ¬∃ number, Literal argument number) :
    SumFault start (argument :: rest) 0 failure ↔
      failure = notAnInteger argument := by
  constructor
  · intro fault
    cases fault with
    | notAnInteger found =>
        cases found
        rfl
    | overflow _ literals =>
        cases literals with
        | cons literal => exact absurd ⟨_, literal⟩ foreign
  · rintro rfl
    exact .notAnInteger rfl foreign

section Literal

variable {number : Int} (literal : Literal argument number)

include literal

theorem sumFault_zero_of_literal :
    SumFault start (argument :: rest) 0 failure ↔
      failure = integerOverflow ∧ ¬InRange (start + number) := by
  constructor
  · intro fault
    cases fault with
    | notAnInteger found foreign =>
        cases found
        exact absurd ⟨number, literal⟩ foreign
    | overflow _ literals outside =>
        cases literals with
        | cons again none =>
            cases none
            rw [literal.unique again] at outside
            exact ⟨rfl, outside⟩
  · rintro ⟨rfl, outside⟩
    exact .overflow (Nat.zero_lt_succ _) (.cons literal .nil) outside

theorem sumFault_succ_iff :
    SumFault start (argument :: rest) (position + 1) failure ↔
      SumFault (start + number) rest position failure := by
  constructor
  · intro fault
    cases fault with
    | notAnInteger found foreign => exact .notAnInteger found foreign
    | overflow inside literals outside =>
        rw [List.take_succ_cons] at literals
        cases literals with
        | cons again others =>
            rw [literal.unique again, List.foldl_cons] at outside
            exact .overflow (Nat.lt_of_succ_lt_succ inside) others outside
  · intro fault
    cases fault with
    | notAnInteger found foreign => exact .notAnInteger found foreign
    | overflow inside literals outside =>
        exact .overflow (Nat.succ_lt_succ inside) (.cons literal literals)
          outside

end Literal

theorem firstSumFault_of_wrong
    (wrong : SumFault start (argument :: rest) 0 failure) {other : Failure} :
    FirstSumFault start (argument :: rest) position other ↔
      position = 0 ∧ SumFault start (argument :: rest) 0 other := by
  constructor
  · intro found
    cases position with
    | zero => exact ⟨rfl, found.fault⟩
    | succ position =>
        exact absurd wrong (found.first 0 (Nat.zero_lt_succ _) failure)
  · rintro ⟨rfl, fault⟩
    exact ⟨fault, nofun⟩

theorem firstSumFault_of_right {number : Int}
    (literal : Literal argument number) (bounded : InRange (start + number)) :
    FirstSumFault start (argument :: rest) position failure ↔
      ∃ later, position = later + 1 ∧
        FirstSumFault (start + number) rest later failure := by
  have right (other : Failure) :
      ¬SumFault start (argument :: rest) 0 other := by
    intro wrong
    exact ((sumFault_zero_of_literal literal).mp wrong).2 bounded
  constructor
  · intro found
    cases position with
    | zero => exact absurd found.fault (right failure)
    | succ later =>
        refine ⟨later, rfl, (sumFault_succ_iff literal).mp found.fault, ?_⟩
        intro earlier before other fault
        exact found.first (earlier + 1) (Nat.succ_lt_succ before) other
          ((sumFault_succ_iff literal).mpr fault)
  · rintro ⟨later, rfl, fault, first⟩
    refine ⟨(sumFault_succ_iff literal).mpr fault, ?_⟩
    intro earlier before other wrong
    cases earlier with
    | zero => exact right other wrong
    | succ earlier =>
        exact first earlier (Nat.lt_of_succ_lt_succ before) other
          ((sumFault_succ_iff literal).mp wrong)

end Arguments

/-- Adding fails with what is wrong with the first argument that is wrong, and
only then. -/
theorem addArguments_eq_error_iff {start : Int} {arguments : List String}
    {failure : Failure} :
    addArguments start arguments = .error failure ↔
      ∃ position, FirstSumFault start arguments position failure := by
  induction arguments generalizing start with
  | nil =>
      constructor
      · nofun
      · rintro ⟨position, ⟨found⟩ | ⟨inside⟩, -⟩
        · cases found
        · cases inside
  | cons argument rest ih =>
      cases read : Signed64.ofLiteral? argument with
      | none =>
          have foreign := Signed64.ofLiteral?_eq_none_iff.mp read
          have wrong : SumFault start (argument :: rest) 0
              (notAnInteger argument) := .notAnInteger rfl foreign
          simp only [addArguments, read, firstSumFault_of_wrong wrong,
            sumFault_zero_of_no_literal foreign, exists_eq_left,
            Except.error.injEq, eq_comm]
      | some number =>
          have literal := Signed64.ofLiteral?_eq_some_iff.mp read
          cases sum : Signed64.add? start number with
          | none =>
              have outside := Signed64.add?_eq_none_iff.mp sum
              have wrong : SumFault start (argument :: rest) 0
                  integerOverflow :=
                (sumFault_zero_of_literal literal).mpr ⟨rfl, outside⟩
              simp only [addArguments, read, sum,
                firstSumFault_of_wrong wrong,
                sumFault_zero_of_literal literal, exists_eq_left, outside,
                not_false_eq_true, and_true, Except.error.injEq, eq_comm]
          | some next =>
              obtain ⟨rfl, bounded⟩ := Signed64.add?_eq_some_iff.mp sum
              simp only [addArguments, read, sum, ih,
                firstSumFault_of_right literal bounded]
              constructor
              · rintro ⟨later, first⟩
                exact ⟨later + 1, later, rfl, first⟩
              · rintro ⟨-, later, rfl, first⟩
                exact ⟨later, first⟩

end LineShell.Command
