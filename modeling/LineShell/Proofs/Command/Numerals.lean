import Mathlib.Data.List.Basic
import LineShell.Proofs.Command.Literals

/-!
# The written form of a number

Of all the literals of a number one is written: it has no plus sign, and no
zero stands idle in front of its digits.  `Numeral` says so by the digits
alone, `literal` writes this form and no other (`literal_eq_iff`), and reading
it back finds the number again (`ofLiteral?_literal`).
-/

namespace LineShell.Signed64

/-- The digits of a number with the first of them other than zero, behind a
minus sign if the number is negative, and a single digit for zero. -/
inductive Numeral : List Char → Int → Prop where
  | zero : Numeral ['0'] 0
  | positive {digits : List Char} {value : Nat} :
      Decimal digits value →
      digits.head? ≠ some '0' →
      Numeral digits value
  | negative {digits : List Char} {value : Nat} :
      Decimal digits value →
      digits.head? ≠ some '0' →
      Numeral ('-' :: digits) (-value)

section Digits

variable {digits : List Char} {value : Nat}

/-- Digits with no idle zero are those that the number is written with. -/
theorem Decimal.eq_toDigits (decimal : Decimal digits value)
    (leading : digits.head? ≠ some '0') :
    0 < value ∧ Nat.toDigits 10 value = digits := by
  induction decimal with
  | @single digit small =>
      constructor
      · apply Nat.pos_of_ne_zero
        rintro rfl
        exact leading rfl
      · exact Nat.toDigits_of_lt_base small
  | @concat digits value digit decimal small ih =>
      have first : digits.head? ≠ some '0' := by
        rwa [List.head?_append_of_ne_nil _ decimal.ne_nil] at leading
      obtain ⟨positive, written⟩ := ih first
      constructor
      · omega
      · rw [← Nat.toDigits_append_toDigits (by decide) positive small, written,
          Nat.toDigits_of_lt_base small]

theorem decimal_toDigits (value : Nat) :
    Decimal (Nat.toDigits 10 value) value := by
  have digits : ∀ character ∈ Nat.toDigits 10 value,
      character.isDigit = true := by
    intro character member
    exact Nat.isDigit_of_mem_toDigits (by decide) (by decide) member
  have decimal := decimal_ofDigitChars Nat.toDigits_ne_nil digits
  rwa [Nat.ofDigitChars_ten_toDigits] at decimal

theorem head?_toDigits_ne_zero (positive : 0 < value) :
    (Nat.toDigits 10 value).head? ≠ some '0' := by
  induction value using Nat.strongRecOn with
  | ind value ih =>
      by_cases small : value < 10
      · rw [Nat.toDigits_of_lt_base small, List.head?_cons, ne_eq,
          Option.some.injEq]
        intro zero
        have digit := Nat.toNat_digitChar_of_lt_ten small
        rw [zero] at digit
        change 48 = _ at digit
        omega
      · have large : 10 ≤ value := Nat.le_of_not_lt small
        rw [Nat.toDigits_of_base_le (by decide) large,
          List.head?_append_of_ne_nil _ Nat.toDigits_ne_nil]
        apply ih
        · exact Nat.div_lt_self positive (by decide)
        · exact Nat.div_pos large (by decide)

end Digits

section Numbers

variable {text : String} {number : Int}

theorem Numeral.signed {digits : List Char} (numeral : Numeral digits number) :
    Signed digits number := by
  cases numeral with
  | zero => exact .unsigned (decimal_toDigits 0)
  | positive decimal => exact .unsigned decimal
  | negative decimal => exact .minus decimal

theorem numeral_literal (number : Int) :
    Numeral (literal number).toList number := by
  obtain ⟨value, rfl | rfl⟩ := number.eq_nat_or_neg
  · have notNegative : ¬(value : Int) < 0 := by omega
    rw [literal, if_neg notNegative, String.toList_ofList, Int.natAbs_natCast]
    rcases Nat.eq_zero_or_pos value with rfl | positive
    · rw [Nat.toDigits_zero]
      exact .zero
    · exact .positive (decimal_toDigits value) (head?_toDigits_ne_zero positive)
  · rcases Nat.eq_zero_or_pos value with rfl | positive
    · exact .zero
    · have negative : -(value : Int) < 0 := by omega
      rw [literal, if_pos negative, String.toList_ofList, Int.natAbs_neg,
        Int.natAbs_natCast]
      exact .negative (decimal_toDigits value) (head?_toDigits_ne_zero positive)

theorem Numeral.eq_literal (numeral : Numeral text.toList number) :
    literal number = text := by
  rw [← String.toList_inj]
  generalize text.toList = digits at numeral
  cases numeral with
  | zero => rfl
  | positive decimal leading =>
      obtain ⟨-, written⟩ := decimal.eq_toDigits leading
      rw [literal, if_neg (by omega), String.toList_ofList,
        Int.natAbs_natCast, written]
  | negative decimal leading =>
      obtain ⟨positive, written⟩ := decimal.eq_toDigits leading
      rw [literal, if_pos (by omega), String.toList_ofList, Int.natAbs_neg,
        Int.natAbs_natCast, written]

theorem literal_eq_iff : literal number = text ↔ Numeral text.toList number := by
  constructor
  · rintro rfl
    exact numeral_literal number
  · exact Numeral.eq_literal

theorem ofLiteral?_literal (bounded : InRange number) :
    ofLiteral? (literal number) = some number :=
  ofLiteral?_eq_some_iff.mpr ⟨(numeral_literal number).signed, bounded⟩

end Numbers

end LineShell.Signed64
