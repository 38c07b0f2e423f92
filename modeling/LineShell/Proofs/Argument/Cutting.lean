import LineShell.Argument.Piece

/-!
# Where argument text may be divided

Cutting text into pieces commutes with dividing it at every place that does
not separate a backslash from the double quote directly after it.  The facts
below are the only ones about `pieces` that the laws of the scanner use.
-/

namespace LineShell.Argument

/-- A character and the one directly after it, if there is one, form an
escaped quote. -/
def Escapes (character : Char) (next : Option Char) : Prop :=
  character = '\\' ∧ next = some '"'

/-- No escaped quote reaches over the place between two texts. -/
def Separable (left right : List Char) : Prop :=
  left.getLast? = some '\\' → right.head? ≠ some '"'

@[simp] theorem pieces_nil : pieces [] = [] := rfl

@[simp] theorem pieces_escapedQuote (rest : List Char) :
    pieces ('\\' :: '"' :: rest) = .escapedQuote :: pieces rest := by
  simp [pieces]

theorem pieces_cons {character : Char} {rest : List Char}
    (single : ¬Escapes character rest.head?) :
    pieces (character :: rest) = .ofChar character :: pieces rest := by
  cases rest with
  | nil => rfl
  | cons next rest =>
      rw [pieces]
      intro backslash quote
      apply single
      exact ⟨backslash, congrArg some quote⟩

namespace Piece

@[simp] theorem ofChar_quote : ofChar '"' = .quote := rfl

theorem ofChar_blank {character : Char}
    (white : Text.isWhiteSpace character = true) :
    ofChar character = .blank character := by
  have different : character ≠ '"' := by
    intro quote
    subst quote
    simp [Text.isWhiteSpace_quote] at white
  simp [ofChar, different, white]

theorem ofChar_letter {character : Char} (different : character ≠ '"')
    (notWhite : Text.isWhiteSpace character = false) :
    ofChar character = .letter character := by
  simp [ofChar, different, notWhite]

theorem value_ofChar (character : Char) :
    (ofChar character).value = character := by
  unfold ofChar
  split
  · simp_all [value]
  · split <;> rfl

theorem source_ne_nil (piece : Piece) : piece.source ≠ [] := by
  cases piece <;> exact List.cons_ne_nil _ _

end Piece

theorem pieces_blank_cons {character : Char} {rest : List Char}
    (white : Text.isWhiteSpace character = true) :
    pieces (character :: rest) = .blank character :: pieces rest := by
  have single : ¬Escapes character rest.head? := by
    intro escapes
    rw [escapes.1] at white
    exact absurd white (by decide)
  rw [pieces_cons single, Piece.ofChar_blank white]

theorem pieces_quote_cons (rest : List Char) :
    pieces ('"' :: rest) = .quote :: pieces rest := by
  have single : ¬Escapes '"' rest.head? := by
    intro escapes
    exact absurd escapes.1 (by decide)
  rw [pieces_cons single, Piece.ofChar_quote]

theorem Separable.nil_left (right : List Char) : Separable [] right := by
  intro final
  simp at final

theorem Separable.nil_right (left : List Char) : Separable left [] := by
  intro _
  simp

theorem Separable.of_getLast?_ne {left : List Char} (right : List Char)
    (different : left.getLast? ≠ some '\\') : Separable left right :=
  fun final => absurd final different

theorem Separable.of_head?_ne (left : List Char) {right : List Char}
    (different : right.head? ≠ some '"') : Separable left right :=
  fun _ => different

theorem Separable.of_cons {head : Char} {left right : List Char}
    (separable : Separable (head :: left) right) : Separable left right := by
  intro final
  cases left with
  | nil => simp at final
  | cons next left => exact separable (by simpa using final)

theorem pieces_append {left right : List Char}
    (separable : Separable left right) :
    pieces (left ++ right) = pieces left ++ pieces right := by
  fun_induction pieces left with
  | case1 => rfl
  | case2 character =>
      have single : ¬Escapes character right.head? := by
        intro escapes
        apply separable
        · exact congrArg some escapes.1
        · exact escapes.2
      rw [List.singleton_append, pieces_cons single]
      rfl
  | case3 rest induction =>
      simp [induction separable.of_cons.of_cons]
  | case4 character next rest single induction =>
      have apart : ¬Escapes character (next :: rest ++ right).head? := by
        intro escapes
        apply single escapes.1
        simpa using escapes.2
      have tail := induction separable.of_cons
      rw [List.cons_append, pieces_cons apart, tail, List.cons_append]

theorem pieces_eq_cons {text : List Char} {piece : Piece} {later : List Piece}
    (cut : pieces text = piece :: later) :
    ∃ rest, text = piece.source ++ rest ∧ Separable piece.source rest ∧
      pieces piece.source = [piece] ∧ pieces rest = later := by
  cases text with
  | nil => simp at cut
  | cons character rest =>
      by_cases escapes : Escapes character rest.head?
      · obtain ⟨rfl, quote⟩ := escapes
        obtain ⟨rest, rfl⟩ := List.head?_eq_some_iff.mp quote
        rw [pieces_escapedQuote, List.cons.injEq] at cut
        obtain ⟨rfl, rfl⟩ := cut
        exact ⟨rest, rfl, .of_getLast?_ne rest (by simp [Piece.source]),
          rfl, rfl⟩
      · rw [pieces_cons escapes, List.cons.injEq] at cut
        obtain ⟨rfl, rfl⟩ := cut
        refine ⟨rest, ?_, ?_, ?_, rfl⟩
        · rw [Piece.source_ofChar, List.singleton_append]
        · intro final quote
          rw [Piece.source_ofChar, List.getLast?_singleton,
            Option.some.injEq] at final
          exact escapes ⟨final, quote⟩
        · rw [Piece.source_ofChar]
          rfl

theorem Separable.of_append_right {left middle right : List Char}
    (separable : Separable left (middle ++ right)) :
    Separable left middle := by
  intro final quote
  apply separable final
  simp [List.head?_append, quote]

theorem Separable.append {left middle right : List Char}
    (outer : Separable left (middle ++ right))
    (inner : Separable middle right) : Separable (left ++ middle) right := by
  intro final
  cases middle with
  | nil => exact outer (by simpa using final)
  | cons head middle => exact inner (by simpa using final)

/-- Every division of the pieces of a text is the division of the text at a
place that divides no escaped quote. -/
theorem pieces_split {text : List Char} {first second : List Piece}
    (cut : pieces text = first ++ second) :
    ∃ left right, text = left ++ right ∧ Separable left right ∧
      pieces left = first ∧ pieces right = second := by
  induction first generalizing text with
  | nil => exact ⟨[], text, rfl, .nil_left text, rfl, cut⟩
  | cons piece first induction =>
      obtain ⟨rest, rfl, apart, alone, later⟩ := pieces_eq_cons cut
      obtain ⟨left, right, rfl, separable, firstCut, secondCut⟩ :=
        induction later
      refine ⟨piece.source ++ left, right, by simp, apart.append separable,
        ?_, secondCut⟩
      rw [pieces_append apart.of_append_right, alone, firstCut]
      rfl

theorem pieces_concat {text : List Char} {character : Char}
    (separable : Separable text [character]) :
    pieces (text ++ [character]) = pieces text ++ [.ofChar character] :=
  pieces_append separable

theorem pieces_concat_escapedQuote (text : List Char) :
    pieces (text ++ ['\\', '"']) = pieces text ++ [.escapedQuote] :=
  pieces_append (.of_head?_ne text (by simp))

/-- A bare quote stands at a place of a text exactly if the character before
it is no backslash. -/
theorem quote_mem_pieces_iff {text : List Char} :
    Piece.quote ∈ pieces text ↔
      ∃ before after, text = before ++ '"' :: after ∧
        before.getLast? ≠ some '\\' := by
  constructor
  · intro member
    obtain ⟨first, second, cut⟩ := List.append_of_mem member
    obtain ⟨before, right, rfl, separable, -, quoteCut⟩ := pieces_split cut
    obtain ⟨after, rfl, -, -, -⟩ := pieces_eq_cons quoteCut
    refine ⟨before, after, rfl, fun final => separable final ?_⟩
    rfl
  · intro divided
    obtain ⟨before, after, rfl, final⟩ := divided
    rw [pieces_append (.of_getLast?_ne _ final), pieces_quote_cons]
    simp

end LineShell.Argument
