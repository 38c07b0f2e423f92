import LineShell.Argument.Tokens
import LineShell.Proofs.Argument.Cutting
import LineShell.Text.Slice

/-!
# Laws of the scanner

A scan takes an argument from the front of its pieces in one go: a run of
pieces that the form of the argument may hold, up to what ends it.  The
equations say what a scan makes of such a run; `scan_plain_ok` and
`scan_quoted_ok` say that a scan which succeeds has found one.
-/

namespace LineShell.Argument

/-- The number of bytes that pieces occupy. -/
def extent : List Piece → Nat
  | [] => 0
  | piece :: later => piece.width + extent later

theorem extent_pieces (text : List Char) :
    extent (pieces text) = Text.byteSize text := by
  have size (cut : List Piece) :
      Text.byteSize (cut.flatMap Piece.source) = extent cut := by
    induction cut with
    | nil => rfl
    | cons piece later induction =>
        have width : Text.byteSize piece.source = piece.width := by
          cases piece <;> rfl
        rw [List.flatMap_cons, Text.byteSize_append, width, induction, extent]
  rw [← size, flatMap_source_pieces]

/-- The pieces that an argument of a form may hold. -/
def Form.holds : Form → Piece → Bool
  | _, .quote => false
  | .plain, .blank _ => false
  | .quoted, .blank _ => true
  | _, .escapedQuote => true
  | _, .letter _ => true

/-- An argument may end before pieces if nothing or a blank comes next. -/
def Ends (cut : List Piece) : Prop :=
  ∀ piece ∈ cut.head?, ∃ character, piece = .blank character

theorem ends_nil : Ends [] := by
  intro piece member
  simp at member

theorem ends_blank (character : Char) (later : List Piece) :
    Ends (.blank character :: later) := by
  intro piece member
  rw [List.head?_cons, Option.mem_some] at member
  exact ⟨character, member.symm⟩

theorem Ends.cases {cut : List Piece} (ends : Ends cut) :
    cut = [] ∨ ∃ character later, cut = .blank character :: later := by
  cases cut with
  | nil => exact .inl rfl
  | cons piece later =>
      obtain ⟨character, rfl⟩ := ends piece rfl
      exact .inr ⟨character, later, rfl⟩

section Equations

variable {position openedAt : Nat} {cut run : List Piece}

theorem scan_plain_of_ends (ends : Ends cut) :
    scan .plain position cut =
      (scan .between position cut).map (finish .plain) := by
  rcases ends.cases with rfl | ⟨character, later, rfl⟩ <;> rfl

theorem scan_closed_of_ends (ends : Ends cut) :
    scan .closed position cut = scan .between position cut := by
  rcases ends.cases with rfl | ⟨character, later, rfl⟩ <;> rfl

theorem scan_between_of_holds {piece : Piece}
    (held : Form.plain.holds piece = true) :
    scan .between position (piece :: cut) =
      scan .plain position (piece :: cut) := by
  cases piece with
  | blank | quote => simp [Form.holds] at held
  | escapedQuote | letter => rfl

theorem scan_blanks
    (blank : ∀ piece ∈ run, ∃ character, piece = .blank character) :
    scan .between position (run ++ cut) =
      scan .between (position + extent run) cut := by
  induction run generalizing position with
  | nil => rfl
  | cons piece run induction =>
      obtain ⟨character, rfl⟩ := blank piece List.mem_cons_self
      rw [List.cons_append, scan, induction
        (fun piece member => blank piece (List.mem_cons_of_mem _ member)),
        extent, Nat.add_assoc]

theorem scan_plain_run
    (held : ∀ piece ∈ run, Form.plain.holds piece = true)
    (ends : Ends cut) :
    scan .plain position (run ++ cut) =
      (scan .between (position + extent run) cut).map
        (⟨.plain, run.map Piece.value⟩ :: ·) := by
  induction run generalizing position with
  | nil => exact scan_plain_of_ends ends
  | cons piece run induction =>
      have step : scan .plain position (piece :: (run ++ cut)) =
          (scan .plain (position + piece.width) (run ++ cut)).map
            (extendFirst piece.value) := by
        have heldPiece := held piece List.mem_cons_self
        cases piece with
        | blank | quote => simp [Form.holds] at heldPiece
        | escapedQuote | letter => rfl
      rw [List.cons_append, step, induction
        (fun piece member => held piece (List.mem_cons_of_mem _ member)),
        extent, ← Nat.add_assoc]
      cases scan .between (position + piece.width + extent run) cut <;> rfl

theorem scan_quoted_run
    (held : ∀ piece ∈ run, Form.quoted.holds piece = true)
    (ends : Ends cut) :
    scan (.quoted openedAt) position (run ++ .quote :: cut) =
      (scan .between (position + extent run + 1) cut).map
        (⟨.quoted, run.map Piece.value⟩ :: ·) := by
  induction run generalizing position with
  | nil =>
      rw [List.nil_append, scan, scan_closed_of_ends ends]
      rfl
  | cons piece run induction =>
      have step : scan (.quoted openedAt) position
            (piece :: (run ++ .quote :: cut)) =
          (scan (.quoted openedAt) (position + piece.width)
            (run ++ .quote :: cut)).map (extendFirst piece.value) := by
        have heldPiece := held piece List.mem_cons_self
        cases piece with
        | quote => simp [Form.holds] at heldPiece
        | blank | escapedQuote | letter => rfl
      rw [List.cons_append, step, induction
        (fun piece member => held piece (List.mem_cons_of_mem _ member)),
        extent, ← Nat.add_assoc]
      cases scan .between (position + piece.width + extent run + 1) cut <;>
        rfl

end Equations

section Inversions

variable {position openedAt : Nat} {cut : List Piece} {tokens : List Token}

theorem exists_of_map_eq_ok {α β ε : Type} {function : α → β}
    {result : Except ε α} {value : β}
    (success : result.map function = .ok value) :
    ∃ inner, result = .ok inner ∧ function inner = value := by
  cases result with
  | error error => cases success
  | ok inner =>
      cases success
      exact ⟨inner, rfl, rfl⟩

theorem scan_closed_ok (success : scan .closed position cut = .ok tokens) :
    Ends cut := by
  cases cut with
  | nil => exact ends_nil
  | cons piece later =>
      cases piece with
      | blank character => exact ends_blank character later
      | quote | escapedQuote | letter => cases success

theorem scan_plain_ok (success : scan .plain position cut = .ok tokens) :
    ∃ run rest, cut = run ++ rest ∧
      (∀ piece ∈ run, Form.plain.holds piece = true) ∧ Ends rest := by
  induction cut generalizing position tokens with
  | nil => exact ⟨[], [], rfl, by simp, ends_nil⟩
  | cons piece later induction =>
      cases piece with
      | blank character =>
          exact ⟨[], _, rfl, by simp, ends_blank character later⟩
      | quote => cases success
      | escapedQuote | letter =>
          obtain ⟨inner, continued, -⟩ := exists_of_map_eq_ok success
          obtain ⟨run, rest, rfl, held, ends⟩ := induction continued
          exact ⟨_ :: run, rest, rfl, by simpa [Form.holds] using held, ends⟩

/-- A scan that succeeds inside a quoted argument has found its closing quote
and a place after it where an argument may end. -/
theorem scan_quoted_ok
    (success : scan (.quoted openedAt) position cut = .ok tokens) :
    ∃ run rest, cut = run ++ .quote :: rest ∧
      (∀ piece ∈ run, Form.quoted.holds piece = true) ∧ Ends rest := by
  induction cut generalizing position tokens with
  | nil => cases success
  | cons piece later induction =>
      cases piece with
      | quote =>
          obtain ⟨inner, continued, -⟩ := exists_of_map_eq_ok success
          exact ⟨[], later, rfl, by simp, scan_closed_ok continued⟩
      | blank | escapedQuote | letter =>
          obtain ⟨inner, continued, -⟩ := exists_of_map_eq_ok success
          obtain ⟨run, rest, rfl, held, ends⟩ := induction continued
          exact ⟨_ :: run, rest, rfl, by simpa [Form.holds] using held, ends⟩

end Inversions

end LineShell.Argument
