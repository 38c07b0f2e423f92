import Mathlib.Data.List.Forall2
import LineShell.Proofs.Text.Boundary

/-!
# Well-formed byte strings

The byte strings that spell texts are put together from sequences of one to
four bytes, each of which spells one character.  The table of sequences leaves
out those that are longer than they need to be, those of surrogates and those
beyond the last code point; `isText_iff_wellFormed` says that exactly the
strings made of such sequences are decoded.
-/

namespace LineShell.Text

/-- The byte sequences of single characters, each as the ranges of its
bytes. -/
def sequences : List (List (Nat × Nat)) :=
  let tail := (0x80, 0xBF)
  [[(0x00, 0x7F)],
    [(0xC2, 0xDF), tail],
    [(0xE0, 0xE0), (0xA0, 0xBF), tail],
    [(0xE1, 0xEC), tail, tail],
    [(0xED, 0xED), (0x80, 0x9F), tail],
    [(0xEE, 0xEF), tail, tail],
    [(0xF0, 0xF0), (0x90, 0xBF), tail, tail],
    [(0xF1, 0xF3), tail, tail, tail],
    [(0xF4, 0xF4), (0x80, 0x8F), tail, tail]]

def Within (byte : UInt8) (range : Nat × Nat) : Prop :=
  range.1 ≤ byte.toNat ∧ byte.toNat ≤ range.2

def Sequence (bytes : Bytes) : Prop :=
  ∃ ranges ∈ sequences, List.Forall₂ Within bytes ranges

inductive WellFormed : Bytes → Prop where
  | nil : WellFormed []
  | append {sequence rest : Bytes} :
      Sequence sequence → WellFormed rest → WellFormed (sequence ++ rest)

/-- The numbers of characters: all up to the last code point but the
surrogates. -/
def IsScalar (v : Nat) : Prop :=
  v < 0xD800 ∨ (0xDFFF < v ∧ v < 0x110000)

theorem exists_character {v : Nat} (scalar : IsScalar v) :
    ∃ character : Char, character.val.toNat = v :=
  ⟨Char.ofNatAux v scalar, rfl⟩

theorem sequence_iff {bytes : Bytes} :
    Sequence bytes ↔
      (∃ a : UInt8, bytes = [a] ∧ a.toNat ≤ 0x7F) ∨
      (∃ a b : UInt8, bytes = [a, b] ∧
        Within a (0xC2, 0xDF) ∧ Within b (0x80, 0xBF)) ∨
      (∃ a b c : UInt8, bytes = [a, b, c] ∧
        Within a (0xE0, 0xEF) ∧ Within b (0x80, 0xBF) ∧
        Within c (0x80, 0xBF) ∧ (a.toNat = 0xE0 → 0xA0 ≤ b.toNat) ∧
        (a.toNat = 0xED → b.toNat ≤ 0x9F)) ∨
      (∃ a b c d : UInt8, bytes = [a, b, c, d] ∧
        Within a (0xF0, 0xF4) ∧ Within b (0x80, 0xBF) ∧
        Within c (0x80, 0xBF) ∧ Within d (0x80, 0xBF) ∧
        (a.toNat = 0xF0 → 0x90 ≤ b.toNat) ∧
        (a.toNat = 0xF4 → b.toNat ≤ 0x8F)) := by
  simp only [Sequence, sequences, List.mem_cons, List.not_mem_nil, or_false,
    exists_eq_or_imp, exists_eq_left]
  rcases bytes with _ | ⟨a, _ | ⟨b, _ | ⟨c, _ | ⟨d, _ | ⟨e, rest⟩⟩⟩⟩⟩
  · simp
  · simp [Within]
  · simp [Within]
  · simp [Within]
    omega
  · simp [Within]
    omega
  · simp

theorem within_ofNat {low high n : Nat} (below : low ≤ n) (above : n ≤ high)
    (small : high < 256) : Within (UInt8.ofNat n) (low, high) := by
  have number : (UInt8.ofNat n).toNat = n :=
    UInt8.toNat_ofNat_of_lt' (Nat.lt_of_le_of_lt above small)
  rw [Within, number]
  exact ⟨below, above⟩

theorem sequence_utf8EncodeChar (character : Char) :
    Sequence (String.utf8EncodeChar character) := by
  have scalar : IsScalar character.val.toNat := character.valid
  unfold IsScalar at scalar
  rw [sequence_iff]
  unfold String.utf8EncodeChar
  generalize character.val.toNat = v at scalar
  have final : Within (UInt8.ofNat (v % 0x40 + 0x80)) (0x80, 0xBF) :=
    within_ofNat (by omega) (by omega) (by decide)
  have middle : Within (UInt8.ofNat (v / 64 % 0x40 + 0x80)) (0x80, 0xBF) :=
    within_ofNat (by omega) (by omega) (by decide)
  simp only
  split
  · left
    refine ⟨_, rfl, ?_⟩
    exact (within_ofNat (Nat.zero_le v) ‹_› (by decide)).2
  · right
    split
    · left
      exact ⟨_, _, rfl, within_ofNat (by omega) (by omega) (by decide), final⟩
    · right
      split
      · left
        refine ⟨_, _, _, rfl, within_ofNat (by omega) (by omega) (by decide),
          middle, final, ?_, ?_⟩
        · simp only [UInt8.toNat_ofNat']
          omega
        · simp only [UInt8.toNat_ofNat']
          omega
      · right
        refine ⟨_, _, _, _, rfl,
          within_ofNat (by omega) (by omega) (by decide),
          within_ofNat (by omega) (by omega) (by decide), middle, final,
          ?_, ?_⟩
        · simp only [UInt8.toNat_ofNat']
          omega
        · simp only [UInt8.toNat_ofNat']
          omega

theorem ofNat_eq_of_toNat {byte : UInt8} {n : Nat} (same : n = byte.toNat) :
    UInt8.ofNat n = byte := by
  rw [same, UInt8.ofNat_toNat]

theorem exists_utf8EncodeChar {bytes : Bytes} (sequence : Sequence bytes) :
    ∃ character, String.utf8EncodeChar character = bytes := by
  unfold String.utf8EncodeChar
  rcases sequence_iff.mp sequence with
    ⟨a, rfl, first⟩ | ⟨a, b, rfl, first, second⟩ |
      ⟨a, b, c, rfl, first, second, third, least, greatest⟩ |
      ⟨a, b, c, d, rfl, first, second, third, fourth, least, greatest⟩
  · obtain ⟨character, number⟩ := @exists_character a.toNat (by
      unfold IsScalar
      omega)
    refine ⟨character, ?_⟩
    generalize character.val.toNat = v at number
    simp only
    rw [if_pos (by omega), ofNat_eq_of_toNat number]
  · unfold Within at first second
    obtain ⟨character, number⟩ := @exists_character
      ((a.toNat - 0xC0) * 64 + (b.toNat - 0x80)) (by
        unfold IsScalar
        omega)
    refine ⟨character, ?_⟩
    generalize character.val.toNat = v at number
    simp only at first second ⊢
    rw [if_neg (by omega), if_pos (by omega),
      @ofNat_eq_of_toNat a _ (by omega), @ofNat_eq_of_toNat b _ (by omega)]
  · unfold Within at first second third
    obtain ⟨character, number⟩ := @exists_character
      ((a.toNat - 0xE0) * 4096 + (b.toNat - 0x80) * 64 + (c.toNat - 0x80)) (by
        unfold IsScalar
        omega)
    refine ⟨character, ?_⟩
    generalize character.val.toNat = v at number
    simp only at first second third ⊢
    rw [if_neg (by omega), if_neg (by omega), if_pos (by omega),
      @ofNat_eq_of_toNat a _ (by omega), @ofNat_eq_of_toNat b _ (by omega),
      @ofNat_eq_of_toNat c _ (by omega)]
  · unfold Within at first second third fourth
    obtain ⟨character, number⟩ := @exists_character
      ((a.toNat - 0xF0) * 262144 + (b.toNat - 0x80) * 4096 +
        (c.toNat - 0x80) * 64 + (d.toNat - 0x80)) (by
        unfold IsScalar
        omega)
    refine ⟨character, ?_⟩
    generalize character.val.toNat = v at number
    simp only at first second third fourth ⊢
    rw [if_neg (by omega), if_neg (by omega), if_neg (by omega),
      @ofNat_eq_of_toNat a _ (by omega), @ofNat_eq_of_toNat b _ (by omega),
      @ofNat_eq_of_toNat c _ (by omega), @ofNat_eq_of_toNat d _ (by omega)]

theorem wellFormed_flatMap (characters : List Char) :
    WellFormed (characters.flatMap String.utf8EncodeChar) := by
  induction characters with
  | nil => exact .nil
  | cons character rest ih =>
      exact .append (sequence_utf8EncodeChar character) ih

/-- Bytes spell a text exactly if they are made of sequences of the table. -/
theorem isText_iff_wellFormed {bytes : Bytes} :
    isText bytes = true ↔ WellFormed bytes := by
  rw [isText_iff]
  constructor
  · rintro ⟨text, rfl⟩
    rw [encode_eq_flatMap]
    exact wellFormed_flatMap text.toList
  · intro wellFormed
    induction wellFormed with
    | nil => exact ⟨"", rfl⟩
    | append sequence _ ih =>
        obtain ⟨character, rfl⟩ := exists_utf8EncodeChar sequence
        obtain ⟨text, rfl⟩ := ih
        refine ⟨String.singleton character ++ text, ?_⟩
        rw [encode_append, encode_eq_flatMap (String.singleton character),
          String.toList_singleton, List.flatMap_singleton]

end LineShell.Text
