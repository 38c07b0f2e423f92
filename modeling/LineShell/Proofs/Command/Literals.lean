import Mathlib.Data.List.Induction
import LineShell.Signed64

/-!
# Integer literals

A literal is a run of decimal digits with at most one sign in front of it.
`Decimal` says which number digits stand for, from the first digit to the last,
and `Literal` which texts are literals of which numbers of the range.  Reading a
text finds the number that it is a literal of, and nothing if there is none
(`ofLiteral?_eq_some_iff`, `ofLiteral?_eq_none_iff`).
-/

namespace LineShell.Signed64

/-- The number that a run of decimal digits stands for. -/
inductive Decimal : List Char → Nat → Prop where
  | single {digit : Nat} :
      digit < 10 →
      Decimal [digit.digitChar] digit
  /-- What stands before another digit counts ten times as much. -/
  | concat {digits : List Char} {value digit : Nat} :
      Decimal digits value →
      digit < 10 →
      Decimal (digits ++ [digit.digitChar]) (10 * value + digit)

/-- The number that digits with at most one sign stand for. -/
inductive Signed : List Char → Int → Prop where
  | unsigned {digits : List Char} {value : Nat} :
      Decimal digits value →
      Signed digits value
  | plus {digits : List Char} {value : Nat} :
      Decimal digits value →
      Signed ('+' :: digits) value
  | minus {digits : List Char} {value : Nat} :
      Decimal digits value →
      Signed ('-' :: digits) (-value)

/-- The numbers from -2^63 to 2^63 - 1. -/
def InRange (number : Int) : Prop :=
  -9223372036854775808 ≤ number ∧ number < 9223372036854775808

instance (number : Int) : Decidable (InRange number) :=
  inferInstanceAs (Decidable (_ ∧ _))

/-- A text is a literal of a number. -/
structure Literal (text : String) (number : Int) : Prop where
  signed : Signed text.toList number
  bounded : InRange number

theorem inRange_eq_true_iff {number : Int} :
    inRange number = true ↔ InRange number := by
  unfold inRange InRange lowest highest
  rw [Bool.and_eq_true, decide_eq_true_iff, decide_eq_true_iff]
  omega

theorem add?_eq_some_iff {left right sum : Int} :
    add? left right = some sum ↔ sum = left + right ∧ InRange sum := by
  rw [add?, Option.filter_eq_some_iff, Option.some.injEq, inRange_eq_true_iff,
    eq_comm]

theorem add?_eq_none_iff {left right : Int} :
    add? left right = none ↔ ¬InRange (left + right) := by
  rw [← inRange_eq_true_iff]
  simp [add?, Option.filter_eq_none_iff]

theorem exists_digit {character : Char} (isDigit : character.isDigit = true) :
    ∃ digit < 10, digit.digitChar = character := by
  have bounds : 48 ≤ character.toNat ∧ character.toNat ≤ 57 :=
    Char.isDigit_iff_toNat.mp isDigit
  have small : character.toNat - 48 < 10 := by omega
  refine ⟨character.toNat - 48, small, ?_⟩
  rw [← Char.toNat_inj, Nat.toNat_digitChar_of_lt_ten small]
  omega

section Digits

variable {digits : List Char} {value : Nat}

theorem Decimal.isDigit (decimal : Decimal digits value) :
    ∀ character ∈ digits, character.isDigit = true := by
  have ofDigit {digit : Nat} (small : digit < 10) :
      ∀ character ∈ [digit.digitChar], character.isDigit = true := by
    intro character member
    rw [List.mem_singleton.mp member, Nat.isDigit_digitChar]
    exact decide_eq_true small
  induction decimal with
  | single small => exact ofDigit small
  | concat _ small ih =>
      intro character member
      rcases List.mem_append.mp member with earlier | last
      · exact ih character earlier
      · exact ofDigit small character last

theorem Decimal.ne_nil (decimal : Decimal digits value) : digits ≠ [] := by
  cases decimal with
  | single => exact List.cons_ne_nil _ _
  | concat => exact List.append_ne_nil_of_right_ne_nil _ (List.cons_ne_nil _ _)

theorem Decimal.ofDigitChars (decimal : Decimal digits value) :
    Nat.ofDigitChars 10 digits 0 = value := by
  induction decimal with
  | single small =>
      rw [Nat.ofDigitChars_cons_digitChar_of_lt_ten small,
        Nat.ofDigitChars_nil]
      omega
  | concat _ small ih =>
      rw [Nat.ofDigitChars_append, ih,
        Nat.ofDigitChars_cons_digitChar_of_lt_ten small, Nat.ofDigitChars_nil]

theorem decimal_ofDigitChars (some : digits ≠ [])
    (all : ∀ character ∈ digits, character.isDigit = true) :
    Decimal digits (Nat.ofDigitChars 10 digits 0) := by
  induction digits using List.reverseRecOn with
  | nil => exact absurd rfl some
  | append_singleton digits last ih =>
      obtain ⟨digit, small, rfl⟩ := exists_digit (all last (by simp))
      rw [Nat.ofDigitChars_append,
        Nat.ofDigitChars_cons_digitChar_of_lt_ten small, Nat.ofDigitChars_nil]
      by_cases first : digits = []
      · subst first
        rw [Nat.ofDigitChars_nil, Nat.mul_zero, Nat.zero_add]
        exact .single small
      · refine .concat (ih first ?_) small
        intro character member
        exact all character (List.mem_append_left _ member)

theorem digitsValue?_eq_some_iff :
    digitsValue? digits = some value ↔ Decimal digits value := by
  unfold digitsValue?
  constructor
  · intro read
    split at read
    · rename_i shape
      rw [Bool.and_eq_true, List.all_eq_true, Bool.not_eq_true',
        List.isEmpty_eq_false_iff] at shape
      cases read
      exact decimal_ofDigitChars shape.1 shape.2
    · cases read
  · intro decimal
    rw [if_pos, decimal.ofDigitChars]
    rw [Bool.and_eq_true, List.all_eq_true, Bool.not_eq_true',
      List.isEmpty_eq_false_iff]
    exact ⟨decimal.ne_nil, decimal.isDigit⟩

theorem Decimal.signedValue? (decimal : Decimal digits value) :
    signedValue? digits = some (value : Int) := by
  have read := digitsValue?_eq_some_iff.mpr decimal
  unfold Signed64.signedValue?
  split
  · exact absurd (decimal.isDigit '+' List.mem_cons_self) (by decide)
  · exact absurd (decimal.isDigit '-' List.mem_cons_self) (by decide)
  · rw [read]
    rfl

end Digits

theorem signedValue?_eq_some_iff {text : List Char} {number : Int} :
    signedValue? text = some number ↔ Signed text number := by
  constructor
  · intro read
    unfold signedValue? at read
    split at read
    · obtain ⟨value, decimal, rfl⟩ := Option.map_eq_some_iff.mp read
      exact .plus (digitsValue?_eq_some_iff.mp decimal)
    · obtain ⟨value, decimal, rfl⟩ := Option.map_eq_some_iff.mp read
      exact .minus (digitsValue?_eq_some_iff.mp decimal)
    · obtain ⟨value, decimal, rfl⟩ := Option.map_eq_some_iff.mp read
      exact .unsigned (digitsValue?_eq_some_iff.mp decimal)
  · intro signed
    cases signed with
    | unsigned decimal => exact decimal.signedValue?
    | plus decimal =>
        rw [signedValue?, digitsValue?_eq_some_iff.mpr decimal]
        rfl
    | minus decimal =>
        rw [signedValue?, digitsValue?_eq_some_iff.mpr decimal]
        rfl

section Literals

variable {text : String} {number : Int}

/-- Reading a text finds the number that it is a literal of. -/
theorem ofLiteral?_eq_some_iff :
    ofLiteral? text = some number ↔ Literal text number := by
  rw [ofLiteral?, Option.filter_eq_some_iff, signedValue?_eq_some_iff,
    inRange_eq_true_iff]
  exact ⟨fun ⟨signed, bounded⟩ => ⟨signed, bounded⟩,
    fun literal => ⟨literal.signed, literal.bounded⟩⟩

theorem ofLiteral?_eq_none_iff :
    ofLiteral? text = none ↔ ¬∃ number, Literal text number := by
  simp only [← ofLiteral?_eq_some_iff, Option.eq_none_iff_forall_ne_some,
    ne_eq, not_exists]

theorem Literal.unique {other : Int} (literal : Literal text number)
    (again : Literal text other) : other = number := by
  rw [← ofLiteral?_eq_some_iff] at literal again
  rw [literal] at again
  exact (Option.some.inj again).symm

end Literals

end LineShell.Signed64
