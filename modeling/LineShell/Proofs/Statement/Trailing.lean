import LineShell.Proofs.Argument.Grammar
import LineShell.Proofs.Statement.Language
import LineShell.Settings.Sigil

/-!
# White space at the end

White space at the end of argument text ends the last argument, if that has
not ended yet, and does nothing else; where the text is faulty, the fault stays
the first one.  A line with white space at its end is therefore read like the
line without it, provided that white space is no sigil.
-/

namespace LineShell

namespace Argument

section Scans

variable {run : List Piece}
  (blank : ∀ piece ∈ run, ∃ character, piece = .blank character)

include blank

theorem scan_quoted_blanks (openedAt position : Nat) :
    scan (.quoted openedAt) position run =
      .error (.unterminatedQuote openedAt) := by
  induction run generalizing position with
  | nil => rfl
  | cons piece run ih =>
      obtain ⟨character, rfl⟩ := blank piece List.mem_cons_self
      have later := ih (fun other member =>
        blank other (List.mem_cons_of_mem _ member))
        (position + (Piece.blank character).width)
      rw [scan, later]
      rfl

theorem scan_between_blanks (position : Nat) :
    scan .between position run = .ok [] := by
  have skipped := @scan_blanks position [] run blank
  rwa [List.append_nil] at skipped

theorem ends_blanks : Ends run := by
  intro piece member
  exact blank piece (List.mem_of_mem_head? member)

/-- A scan that has come to its end sees no difference in blanks. -/
theorem scan_at_blanks (place : Place) (position : Nat) :
    scan place position run = scan place position [] := by
  have between := scan_between_blanks blank position
  cases place with
  | between => exact between
  | plain =>
      rw [scan_plain_of_ends (ends_blanks blank), between]
      rfl
  | quoted openedAt => exact scan_quoted_blanks blank openedAt position
  | closed =>
      rw [scan_closed_of_ends (ends_blanks blank), between]
      rfl

theorem scan_append_blanks (place : Place) (position : Nat)
    (cut : List Piece) :
    scan place position (cut ++ run) = scan place position cut := by
  induction cut generalizing place position with
  | nil => exact scan_at_blanks blank place position
  | cons piece cut ih =>
      rw [List.cons_append]
      cases place <;> cases piece <;> simp only [scan, ih]

end Scans

theorem tokenize_append_blank (text : String) {gap : String}
    (blank : Blank gap.toList) : tokenize (text ++ gap) = tokenize text := by
  have cut := pieces_append (blank.separable_left text.toList)
  unfold tokenize tokens
  rw [String.toList_append, cut, scan_append_blanks blank.pieces]

end Argument

open Argument (Blank)

theorem Composed.append_blank {sigil : Char} {line name text gap : String}
    (composed : Composed sigil line name text) (blank : Blank gap.toList) :
    Composed sigil (line ++ gap) name (text ++ gap) where
  whole := by
    rw [composed.whole, String.append_assoc]
  unbroken := composed.unbroken
  apart := by
    rcases composed.apart with rfl | ⟨first, rest, whole, white⟩
    · rw [String.empty_append]
      cases characters : gap.toList with
      | nil => exact .inl (String.toList_eq_nil_iff.mp characters)
      | cons first rest =>
          rw [characters] at blank
          exact .inr ⟨first, rest, rfl, blank first List.mem_cons_self⟩
    · right
      refine ⟨first, rest ++ gap.toList, ?_, white⟩
      rw [String.toList_append, whole, List.cons_append]

theorem ofEntry_append_blank (name : String) (entry : Command.Entry)
    (text : String) {gap : String} (blank : Blank gap.toList) :
    Statement.ofEntry name entry (text ++ gap) =
      Statement.ofEntry name entry text := by
  unfold Statement.ofEntry
  rw [Argument.tokenize_append_blank text blank]

theorem notWhite_of_checkSigil {sigil : Char}
    (usable : Settings.checkSigil sigil = .ok ()) :
    Text.isWhiteSpace sigil = false := by
  unfold Settings.checkSigil at usable
  split at usable
  · rename_i sigilLike
    simp only [Settings.isSigil, Bool.not_eq_true', Bool.or_eq_false_iff]
      at sigilLike
    exact sigilLike.1.1
  · cases usable

theorem ofLine_append_blank {sigil : Char}
    (notWhite : Text.isWhiteSpace sigil = false) (table : Command.Table)
    (line : String) {gap : String} (blank : Blank gap.toList) :
    Statement.ofLine table sigil (line ++ gap) =
      Statement.ofLine table sigil line := by
  by_cases starts : ∃ rest, line = String.singleton sigil ++ rest
  · obtain ⟨rest, rfl⟩ := starts
    obtain ⟨name, text, composed⟩ := exists_composed sigil rest
    rw [ofLine_of_composed composed,
      ofLine_of_composed (composed.append_blank blank)]
    simp only [ofEntry_append_blank _ _ text blank]
  · rw [ofLine_of_not_startsWithSigil starts, ofLine_of_not_startsWithSigil]
    -- The sigil is no white space, so a line without it gains none.
    rintro ⟨rest, whole⟩
    rw [← String.toList_inj, String.toList_append, String.toList_append,
      String.toList_singleton, List.singleton_append] at whole
    cases characters : line.toList with
    | nil =>
        rw [characters, List.nil_append] at whole
        rw [whole] at blank
        simp [blank sigil List.mem_cons_self] at notWhite
    | cons first later =>
        rw [characters, List.cons_append, List.cons.injEq] at whole
        apply starts
        refine ⟨String.ofList later, ?_⟩
        rw [← String.toList_inj, characters, whole.1]
        simp

end LineShell
