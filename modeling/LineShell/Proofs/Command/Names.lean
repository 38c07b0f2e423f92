import LineShell.Command.Name
import LineShell.Proofs.Text.Boundary
import LineShell.Text.WhiteSpace

/-!
# Names that a line can spell

`Spellable` says by ranges of characters what a name is.  Names are printable
ASCII, so they hold no line ending, and ordering them as texts is ordering
their bytes.
-/

namespace LineShell.Command

/-- A name made of ASCII letters, digits and underscores. -/
def Spellable (name : String) : Prop :=
  name ≠ "" ∧ ∀ c ∈ name.toList,
    ('A' ≤ c ∧ c ≤ 'Z') ∨ ('a' ≤ c ∧ c ≤ 'z') ∨ ('0' ≤ c ∧ c ≤ '9') ∨ c = '_'

theorem isNameChar_iff {c : Char} :
    isNameChar c = true ↔
      ('A' ≤ c ∧ c ≤ 'Z') ∨ ('a' ≤ c ∧ c ≤ 'z') ∨ ('0' ≤ c ∧ c ≤ '9') ∨
        c = '_' := by
  -- The classes compare code points, which is what `≤` on characters means.
  have upper : c.isUpper = true ↔ 'A' ≤ c ∧ c ≤ 'Z' := decide_eq_true_iff
  have lower : c.isLower = true ↔ 'a' ≤ c ∧ c ≤ 'z' := by
    change (decide _ && decide _) = true ↔ _
    rw [Bool.and_eq_true, decide_eq_true_iff, decide_eq_true_iff]
    rfl
  have digit : c.isDigit = true ↔ '0' ≤ c ∧ c ≤ '9' := by
    change (decide _ && decide _) = true ↔ _
    rw [Bool.and_eq_true, decide_eq_true_iff, decide_eq_true_iff]
    rfl
  change (((c.isUpper || c.isLower) || c.isDigit) || decide (c = '_')) = true ↔ _
  rw [Bool.or_eq_true, Bool.or_eq_true, Bool.or_eq_true, upper, lower, digit,
    decide_eq_true_iff, or_assoc, or_assoc]

theorem isName_iff_spellable {name : String} :
    isName name = true ↔ Spellable name := by
  unfold isName Spellable
  simp [isNameChar_iff]

instance (name : String) : Decidable (Spellable name) :=
  decidable_of_iff (isName name = true) isName_iff_spellable

theorem Spellable.printable {name : String} (spellable : Spellable name) :
    ∀ c ∈ name.toList, 32 < c.toNat ∧ c.toNat < 128 := by
  intro c member
  have shape := spellable.2 c member
  simp only [Char.le_def, UInt32.le_iff_toNat_le] at shape
  change (65 ≤ c.toNat ∧ c.toNat ≤ 90) ∨ (97 ≤ c.toNat ∧ c.toNat ≤ 122) ∨
    (48 ≤ c.toNat ∧ c.toNat ≤ 57) ∨ c = '_' at shape
  rcases shape with upper | lower | digit | rfl
  · omega
  · omega
  · omega
  · decide

theorem Spellable.unbroken {name : String} (spellable : Spellable name) :
    ∀ c ∈ name.toList, Text.isWhiteSpace c = false := by
  intro c member
  have printable := spellable.printable c member
  rw [← Bool.not_eq_true]
  intro white
  simp only [Text.isWhiteSpace, Text.inRanges, Text.whiteSpaceRanges,
    List.any_cons, List.any_nil, Bool.or_eq_true, Bool.and_eq_true,
    decide_eq_true_eq, Bool.or_false] at white
  omega

theorem encode_eq_map_of_ascii {text : String}
    (ascii : ∀ c ∈ text.toList, c.toNat < 128) :
    Text.encode text = text.toList.map Char.toUInt8 := by
  rw [Text.encode_eq_flatMap]
  generalize text.toList = characters at ascii
  induction characters with
  | nil => rfl
  | cons c rest induction =>
      have narrow : c.utf8Size = 1 := by
        rw [Char.utf8Size_eq_one_iff, UInt32.le_iff_toNat_le]
        exact Nat.le_of_lt_succ (ascii c List.mem_cons_self)
      rw [List.flatMap_cons, String.utf8EncodeChar_eq_singleton narrow,
        induction fun c member => ascii c (List.mem_cons_of_mem _ member)]
      rfl

theorem map_toUInt8_lt {left right : List Char}
    (leftAscii : ∀ c ∈ left, c.toNat < 128)
    (rightAscii : ∀ c ∈ right, c.toNat < 128) (below : left < right) :
    left.map Char.toUInt8 < right.map Char.toUInt8 := by
  induction left generalizing right with
  | nil =>
      cases right with
      | nil => exact absurd below (List.lt_irrefl [])
      | cons d right => exact List.nil_lt_cons _ _
  | cons c left induction =>
      cases right with
      | nil => exact absurd below (List.not_lt_nil _)
      | cons d right =>
          have cAscii := leftAscii c List.mem_cons_self
          have dAscii := rightAscii d List.mem_cons_self
          rw [List.cons_lt_cons_iff] at below
          rw [List.map_cons, List.map_cons, List.cons_lt_cons_iff]
          rcases below with less | ⟨same, less⟩
          · left
            rw [UInt8.lt_iff_toNat_lt]
            rw [Char.lt_def, UInt32.lt_iff_toNat_lt] at less
            change c.toNat % 256 < d.toNat % 256
            change c.toNat < d.toNat at less
            omega
          · right
            refine ⟨congrArg Char.toUInt8 same, induction ?_ ?_ less⟩
            · intro c member
              exact leftAscii c (List.mem_cons_of_mem _ member)
            · intro c member
              exact rightAscii c (List.mem_cons_of_mem _ member)

theorem Spellable.encode_lt_encode {left right : String}
    (leftSpellable : Spellable left) (rightSpellable : Spellable right)
    (below : left < right) : Text.encode left < Text.encode right := by
  have leftAscii : ∀ c ∈ left.toList, c.toNat < 128 := by
    intro c member
    exact (leftSpellable.printable c member).2
  have rightAscii : ∀ c ∈ right.toList, c.toNat < 128 := by
    intro c member
    exact (rightSpellable.printable c member).2
  rw [encode_eq_map_of_ascii leftAscii, encode_eq_map_of_ascii rightAscii]
  exact map_toUInt8_lt leftAscii rightAscii (String.lt_iff.mp below)

end LineShell.Command
