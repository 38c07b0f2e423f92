import Mathlib.Data.List.Induction
import LineShell.Proofs.Argument.Scanning

/-!
# How far a scan has come

A scan moves from place to place, one piece at a time, until a piece fits
nowhere or the text ends at a place where it must not.  `arrive` is the place
after some pieces.  Outside quoted arguments the last piece alone tells the
place, and inside one the place remembers where its quote was opened.
-/

namespace LineShell.Argument

/-- The place after one more piece, which starts at a byte position. -/
def Place.next (position : Nat) : Place → Piece → Except TextError Place
  | .between, .blank _ => .ok .between
  | .between, .quote => .ok (.quoted position)
  | .between, .escapedQuote => .ok .plain
  | .between, .letter _ => .ok .plain
  | .plain, .blank _ => .ok .between
  | .plain, .quote => .error (.unescapedQuote position)
  | .plain, .escapedQuote => .ok .plain
  | .plain, .letter _ => .ok .plain
  | .quoted _, .quote => .ok .closed
  | .quoted openedAt, .blank _ => .ok (.quoted openedAt)
  | .quoted openedAt, .escapedQuote => .ok (.quoted openedAt)
  | .quoted openedAt, .letter _ => .ok (.quoted openedAt)
  | .closed, .blank _ => .ok .between
  | .closed, .quote => .error (.trailingCharacters position)
  | .closed, .escapedQuote => .error (.trailingCharacters position)
  | .closed, .letter _ => .error (.trailingCharacters position)

/-- Whether a text may end at a place. -/
def Place.leave : Place → Except TextError Unit
  | .quoted openedAt => .error (.unterminatedQuote openedAt)
  | .between | .plain | .closed => .ok ()

/-- The place after some pieces, of which the first starts at a byte
position. -/
def arrive : Place → Nat → List Piece → Except TextError Place
  | place, _, [] => .ok place
  | place, position, piece :: later =>
      (place.next position piece).bind fun place =>
        arrive place (position + piece.width) later

/-- What a piece makes of the tokens that come after it. -/
def Place.yield (place : Place) (piece : Piece) : List Token → List Token :=
  match place with
  | .between =>
      match piece with
      | .blank _ | .quote => id
      | .escapedQuote | .letter _ => extendFirst piece.value
  | .plain =>
      match piece with
      | .blank _ => finish .plain
      | .quote | .escapedQuote | .letter _ => extendFirst piece.value
  | .quoted _ =>
      match piece with
      | .quote => finish .quoted
      | .blank _ | .escapedQuote | .letter _ => extendFirst piece.value
  | .closed => id

/-- Whether a place is inside an argument. -/
def Place.isInside : Place → Bool
  | .plain | .quoted _ => true
  | .between | .closed => false

theorem extendFirst_append {tokens : List Token} (character : Char)
    (nonempty : tokens ≠ []) (more : List Token) :
    extendFirst character (tokens ++ more) =
      extendFirst character tokens ++ more := by
  cases tokens with
  | nil => exact absurd rfl nonempty
  | cons token rest => rfl

theorem extendFirst_ne_nil {tokens : List Token} (character : Char)
    (nonempty : tokens ≠ []) : extendFirst character tokens ≠ [] := by
  cases tokens with
  | nil => exact absurd rfl nonempty
  | cons token rest => exact List.cons_ne_nil _ _

/-- A scan takes one piece and goes on from the place after it. -/
theorem scan_cons (place : Place) (position : Nat) (piece : Piece)
    (later : List Piece) :
    scan place position (piece :: later) =
      (place.next position piece).bind fun next =>
        (scan next (position + piece.width) later).map
          (place.yield piece) := by
  have unchanged (result : Except TextError (List Token)) :
      result = result.map id := by
    cases result <;> rfl
  cases place with
  | between =>
      cases piece with
      | blank | quote => exact unchanged _
      | escapedQuote | letter => rfl
  | plain | quoted => cases piece <;> rfl
  | closed =>
      cases piece with
      | blank => exact unchanged _
      | quote | escapedQuote | letter => rfl

/-- A scan fails where it cannot go on or must not end. -/
theorem scan_verdict (place : Place) (position : Nat) (cut : List Piece) :
    (scan place position cut).map (fun _ => ()) =
      (arrive place position cut).bind Place.leave := by
  have forget {α β : Type} (function : α → β) (result : Except TextError α) :
      (result.map function).map (fun _ => ()) =
        result.map (fun _ => ()) := by
    cases result <;> rfl
  induction cut generalizing place position with
  | nil => cases place <;> rfl
  | cons piece later induction =>
      rw [scan_cons, arrive]
      cases place.next position piece with
      | error error => rfl
      | ok next => exact (forget _ _).trans (induction next _)

section Success

variable {place next : Place} {position : Nat} {piece : Piece}
  {later : List Piece} {tokens : List Token}

theorem exists_of_scan_cons
    (success : scan place position (piece :: later) = .ok tokens) :
    ∃ next inner, place.next position piece = .ok next ∧
      scan next (position + piece.width) later = .ok inner ∧
      tokens = place.yield piece inner := by
  rw [scan_cons] at success
  cases step : place.next position piece with
  | error error =>
      rw [step] at success
      cases success
  | ok next =>
      rw [step] at success
      obtain ⟨inner, continued, same⟩ := exists_of_map_eq_ok success
      exact ⟨next, inner, rfl, continued, same.symm⟩

theorem yield_cases (step : place.next position piece = .ok next) :
    (place.isInside = false ∧ place.yield piece = id) ∨
      (∃ form, place.yield piece = finish form) ∨
      (next.isInside = true ∧
        place.yield piece = extendFirst piece.value) := by
  cases place with
  | between =>
      cases piece with
      | blank | quote => exact .inl ⟨rfl, rfl⟩
      | escapedQuote | letter =>
          cases step
          exact .inr (.inr ⟨rfl, rfl⟩)
  | plain =>
      cases piece with
      | blank => exact .inr (.inl ⟨.plain, rfl⟩)
      | quote => cases step
      | escapedQuote | letter =>
          cases step
          exact .inr (.inr ⟨rfl, rfl⟩)
  | quoted openedAt =>
      cases piece with
      | quote => exact .inr (.inl ⟨.quoted, rfl⟩)
      | blank | escapedQuote | letter =>
          cases step
          exact .inr (.inr ⟨rfl, rfl⟩)
  | closed => exact .inl ⟨rfl, rfl⟩

/-- Inside an argument there is a token to come. -/
theorem scan_ne_nil (inside : place.isInside = true)
    (success : scan place position later = .ok tokens) : tokens ≠ [] := by
  induction later generalizing place position tokens with
  | nil =>
      cases place with
      | plain =>
          cases success
          exact List.cons_ne_nil _ _
      | quoted openedAt => cases success
      | between | closed => cases inside
  | cons piece later induction =>
      obtain ⟨next, inner, step, continued, rfl⟩ := exists_of_scan_cons success
      rcases yield_cases step with
        ⟨outside, -⟩ | ⟨form, ends⟩ | ⟨goesOn, yields⟩
      · rw [outside] at inside
        cases inside
      · rw [ends]
        exact List.cons_ne_nil _ _
      · rw [yields]
        exact extendFirst_ne_nil _ (induction goesOn continued)

theorem yield_append (step : place.next position piece = .ok next)
    (continued : scan next (position + piece.width) later = .ok tokens)
    (more : List Token) :
    place.yield piece (tokens ++ more) = place.yield piece tokens ++ more := by
  rcases yield_cases step with ⟨-, yields⟩ | ⟨form, ends⟩ | ⟨goesOn, yields⟩
  · rw [yields]
    rfl
  · rw [ends]
    rfl
  · rw [yields]
    exact extendFirst_append _ (scan_ne_nil goesOn continued) more

end Success

theorem arrive_append (place : Place) (position : Nat)
    (first second : List Piece) :
    arrive place position (first ++ second) =
      (arrive place position first).bind fun place =>
        arrive place (position + extent first) second := by
  induction first generalizing place position with
  | nil => rfl
  | cons piece first induction =>
      rw [List.cons_append, arrive, arrive]
      cases place.next position piece with
      | error error => rfl
      | ok place =>
          simp only [Except.bind]
          rw [induction, extent, Nat.add_assoc]
          rfl

theorem arrive_concat (place : Place) (position : Nat) (cut : List Piece)
    (piece : Piece) :
    arrive place position (cut ++ [piece]) =
      (arrive place position cut).bind fun place =>
        place.next (position + extent cut) piece := by
  rw [arrive_append]
  cases arrive place position cut with
  | error error => rfl
  | ok place =>
      simp only [Except.bind, arrive]
      cases place.next (position + extent cut) piece <;> rfl

theorem arrive_error {place : Place} {position : Nat} {cut : List Piece}
    {error : TextError} (failure : arrive place position cut = .error error) :
    ∃ first piece second stopped, cut = first ++ piece :: second ∧
      arrive place position first = .ok stopped ∧
      stopped.next (position + extent first) piece = .error error := by
  induction cut generalizing place position with
  | nil => cases failure
  | cons piece later induction =>
      rw [arrive] at failure
      cases step : place.next position piece with
      | error stepError =>
          rw [step] at failure
          cases failure
          exact ⟨[], piece, later, place, rfl, rfl, step⟩
      | ok next =>
          rw [step] at failure
          obtain ⟨first, stop, second, stopped, rfl, arrived, refused⟩ :=
            induction failure
          refine ⟨piece :: first, stop, second, stopped, rfl, ?_, ?_⟩
          · rw [arrive, step]
            exact arrived
          · rw [extent, ← Nat.add_assoc]
            exact refused

/-- The place after a piece that does not belong to a quoted argument. -/
def Piece.place : Piece → Place
  | .blank _ => .between
  | .quote => .closed
  | .escapedQuote | .letter _ => .plain

/-- The place after some pieces that do not end inside a quoted argument. -/
def standing (cut : List Piece) : Place :=
  (cut.getLast?.map Piece.place).getD .between

@[simp] theorem standing_nil : standing [] = .between := rfl

@[simp] theorem standing_concat (cut : List Piece) (piece : Piece) :
    standing (cut ++ [piece]) = piece.place := by
  simp [standing]

theorem standing_ne_quoted (cut : List Piece) (openedAt : Nat) :
    standing cut ≠ .quoted openedAt := by
  unfold standing
  cases cut.getLast? with
  | none => exact Place.noConfusion
  | some piece => cases piece <;> exact Place.noConfusion

theorem leave_standing (cut : List Piece) :
    (standing cut).leave = .ok () := by
  cases place : standing cut with
  | quoted openedAt => exact absurd place (standing_ne_quoted cut openedAt)
  | between | plain | closed => rfl

theorem Place.next_quoted {openedAt position : Nat} {piece : Piece}
    (different : piece ≠ .quote) :
    (Place.quoted openedAt).next position piece = .ok (.quoted openedAt) := by
  cases piece with
  | quote => exact absurd rfl different
  | blank | escapedQuote | letter => rfl

theorem arrive_quoted {openedAt position : Nat} {cut : List Piece}
    (unclosed : Piece.quote ∉ cut) :
    arrive (.quoted openedAt) position cut = .ok (.quoted openedAt) := by
  induction cut generalizing position with
  | nil => rfl
  | cons piece later induction =>
      rw [List.mem_cons, not_or] at unclosed
      rw [arrive, Place.next_quoted (Ne.symm unclosed.1)]
      exact induction unclosed.2

/-- A place after pieces from the beginning of a text: the last piece tells
it, or a quote was opened between arguments and not closed since. -/
theorem arrive_cases {cut : List Piece} {place : Place}
    (arrived : arrive .between 0 cut = .ok place) :
    place = standing cut ∨
      ∃ first second, cut = first ++ .quote :: second ∧
        arrive .between 0 first = .ok .between ∧
        Piece.quote ∉ second ∧ place = .quoted (extent first) := by
  induction cut using List.reverseRecOn generalizing place with
  | nil =>
      cases arrived
      exact .inl rfl
  | append_singleton cut piece induction =>
      rw [arrive_concat] at arrived
      cases before : arrive .between 0 cut with
      | error error =>
          rw [before] at arrived
          cases arrived
      | ok earlier =>
          rw [before, Nat.zero_add] at arrived
          rw [standing_concat]
          cases earlier with
          | between =>
              cases piece with
              | quote =>
                  cases arrived
                  exact .inr ⟨cut, [], rfl, before, by simp, rfl⟩
              | blank | escapedQuote | letter =>
                  cases arrived
                  exact .inl rfl
          | plain | closed =>
              cases piece <;> cases arrived <;> exact .inl rfl
          | quoted openedAt =>
              rcases induction before with same | found
              · exact absurd same.symm (standing_ne_quoted cut openedAt)
              · obtain ⟨first, second, rfl, opened, unclosed, same⟩ := found
                cases same
                by_cases quote : piece = .quote
                · subst quote
                  cases arrived
                  exact .inl rfl
                · rw [Except.bind, Place.next_quoted quote] at arrived
                  cases arrived
                  exact .inr ⟨first, second ++ [piece], by simp, opened,
                    by simp [unclosed, Ne.symm quote], rfl⟩

end LineShell.Argument
