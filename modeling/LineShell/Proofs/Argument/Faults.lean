import LineShell.Proofs.Argument.Grammar
import LineShell.Proofs.Argument.Progress

/-!
# What is wrong with argument text

`Fault` says of a text, character by character, which error it holds and at
which byte: a quote that is never closed, a bare quote inside an unquoted
argument, or something directly after a closing quote.  The text in front of
the position is in order in each case, and a text that cannot be read has
exactly one fault, the one that the scanner reports.
-/

namespace LineShell.Argument

/-- A text whose last character is a double quote without a backslash before
it. -/
def EndsInBareQuote (text : List Char) : Prop :=
  ∃ before, text = before ++ ['"'] ∧ before.getLast? ≠ some '\\'

/-- A backslash stands directly before every double quote of a text. -/
def QuotesEscaped (text : List Char) : Prop :=
  ∀ before after, text = before ++ '"' :: after →
    before.getLast? = some '\\'

/-- The argument text can be split. -/
def Accepted (text : String) : Prop :=
  ∃ arguments, tokenize text = .ok arguments

/-- A character that starts at a byte position of a text, and the text before
and after it. -/
structure Occurs (input : String) (position : Nat) (before : String)
    (character : Char) (after : String) : Prop where
  whole : input = before ++ String.singleton character ++ after
  size : before.utf8ByteSize = position

/-- The faults of a text. -/
def Fault (input : String) : TextError → Prop
  | .unterminatedQuote position =>
      ∃ before after, Occurs input position before '"' after ∧
        (before = "" ∨ ∃ final, before.toList.getLast? = some final ∧
          Text.isWhiteSpace final = true) ∧
        Accepted before ∧ QuotesEscaped after.toList
  | .unescapedQuote position =>
      ∃ before after, Occurs input position before '"' after ∧
        Accepted before ∧
        (∃ final, before.toList.getLast? = some final ∧
          Text.isWhiteSpace final = false ∧ final ≠ '\\') ∧
        ¬EndsInBareQuote before.toList
  | .trailingCharacters position =>
      ∃ before character after, Occurs input position before character after ∧
        Text.isWhiteSpace character = false ∧ Accepted before ∧
        EndsInBareQuote before.toList

theorem occurs_iff {input before after : String} {position : Nat}
    {character : Char} :
    Occurs input position before character after ↔
      input.toList = before.toList ++ character :: after.toList ∧
        Text.byteSize before.toList = position := by
  rw [Text.byteSize_toList]
  constructor
  · intro occurs
    obtain ⟨rfl, size⟩ := occurs
    exact ⟨by simp, size⟩
  · intro found
    constructor
    · rw [← String.toList_inj, found.1]
      simp
    · exact found.2

/-- A text is accepted if its pieces lead to a place where it may end, which
is the place that its last piece tells. -/
theorem accepted_iff {text : String} :
    Accepted text ↔ arrive .between 0 (pieces text.toList) =
      .ok (standing (pieces text.toList)) := by
  have verdict := scan_verdict .between 0 (pieces text.toList)
  unfold Accepted tokenize tokens
  constructor
  · intro accepted
    obtain ⟨arguments, success⟩ := accepted
    cases scanned : scan .between 0 (pieces text.toList) with
    | error error =>
        rw [scanned] at success
        cases success
    | ok found =>
        rw [scanned] at verdict
        cases arrived : arrive .between 0 (pieces text.toList) with
        | error error =>
            rw [arrived] at verdict
            cases verdict
        | ok place =>
            rcases arrive_cases arrived with
              rfl | ⟨first, second, -, -, -, rfl⟩
            · rfl
            · rw [arrived] at verdict
              cases verdict
  · intro arrived
    rw [arrived, Except.bind, leave_standing] at verdict
    cases scanned : scan .between 0 (pieces text.toList) with
    | error error =>
        rw [scanned] at verdict
        cases verdict
    | ok found => exact ⟨_, rfl⟩

theorem tokenize_error_iff {text : String} {error : TextError} :
    tokenize text = .error error ↔
      (arrive .between 0 (pieces text.toList)).bind Place.leave =
        .error error := by
  rw [← scan_verdict]
  unfold tokenize tokens
  cases scan .between 0 (pieces text.toList) <;> simp [Except.map]

theorem quotesEscaped_iff {text : List Char} :
    QuotesEscaped text ↔ Piece.quote ∉ pieces text := by
  rw [quote_mem_pieces_iff]
  constructor
  · intro escaped bare
    obtain ⟨before, after, whole, final⟩ := bare
    exact final (escaped before after whole)
  · intro absent before after whole
    exact Decidable.byContradiction fun final =>
      absent ⟨before, after, whole, final⟩

theorem standing_pieces_concat (before : List Char) (final : Char) :
    standing (pieces (before ++ [final])) =
      if Text.isWhiteSpace final = true then .between
      else if final = '"' ∧ before.getLast? ≠ some '\\' then .closed
      else .plain := by
  by_cases separable : Separable before [final]
  · rw [pieces_concat separable, standing_concat]
    rcases character_cases final with white | rfl | admitted
    · rw [Piece.ofChar_blank white, if_pos white]
      rfl
    · have bare : before.getLast? ≠ some '\\' :=
        fun last => separable last rfl
      simp [Piece.place, Text.isWhiteSpace_quote, bare]
    · simp only [Form.admits, Bool.and_eq_true, decide_eq_true_eq,
        Bool.not_eq_true'] at admitted
      rw [Piece.ofChar_letter admitted.1 admitted.2]
      simp [Piece.place, admitted]
  · simp only [Separable, List.head?_cons, ne_eq, Option.some.injEq,
      Classical.not_imp, not_not] at separable
    obtain ⟨last, rfl⟩ := separable
    obtain ⟨before, rfl⟩ := List.getLast?_eq_some_iff.mp last
    rw [List.append_assoc, List.singleton_append,
      pieces_concat_escapedQuote, standing_concat]
    simp [Piece.place, Text.isWhiteSpace_quote]

theorem endsInBareQuote_concat_iff {before : List Char} {final : Char} :
    EndsInBareQuote (before ++ [final]) ↔
      final = '"' ∧ before.getLast? ≠ some '\\' := by
  constructor
  · intro ends
    obtain ⟨other, whole, bare⟩ := ends
    obtain ⟨rfl, same⟩ := List.append_inj' whole rfl
    rw [List.cons.injEq] at same
    exact ⟨same.1, bare⟩
  · intro found
    rw [found.1]
    exact ⟨before, rfl, found.2⟩

theorem standing_eq_between_iff {text : List Char} :
    standing (pieces text) = .between ↔
      text = [] ∨ ∃ final, text.getLast? = some final ∧
        Text.isWhiteSpace final = true := by
  rcases text.eq_nil_or_concat with rfl | ⟨before, final, rfl⟩
  · simp
  · rw [List.concat_eq_append, standing_pieces_concat]
    split
    · simp_all
    · split <;> simp_all

theorem standing_eq_closed_iff {text : List Char} :
    standing (pieces text) = .closed ↔ EndsInBareQuote text := by
  rcases text.eq_nil_or_concat with rfl | ⟨before, final, rfl⟩
  · simp [EndsInBareQuote]
  · rw [List.concat_eq_append, standing_pieces_concat,
      endsInBareQuote_concat_iff]
    split
    · rename_i white
      constructor
      · exact nofun
      · intro quote
        rw [quote.1] at white
        exact absurd white (by decide)
    · split <;> simp_all

theorem standing_eq_plain_iff {text : List Char} :
    standing (pieces text) = .plain ↔
      (∃ final, text.getLast? = some final ∧
        Text.isWhiteSpace final = false) ∧ ¬EndsInBareQuote text := by
  rcases text.eq_nil_or_concat with rfl | ⟨before, final, rfl⟩
  · simp
  · rw [List.concat_eq_append, standing_pieces_concat,
      endsInBareQuote_concat_iff]
    split
    · simp_all
    · split <;> simp_all

theorem arrive_after_accepted {before : String} {rest : List Char}
    (accepted : Accepted before) (apart : Separable before.toList rest) :
    arrive .between 0 (pieces (before.toList ++ rest)) =
      arrive (standing (pieces before.toList))
        (Text.byteSize before.toList) (pieces rest) := by
  rw [pieces_append apart, arrive_append, accepted_iff.mp accepted,
    Except.bind, extent_pieces, Nat.zero_add]

theorem accepted_of_arrive {before : List Char} {place : Place}
    (arrived : arrive .between 0 (pieces before) = .ok place)
    (unquoted : ∀ openedAt, place ≠ .quoted openedAt) :
    Accepted (String.ofList before) ∧ standing (pieces before) = place := by
  rcases arrive_cases arrived with rfl | ⟨first, second, -, -, -, same⟩
  · refine ⟨accepted_iff.mpr ?_, rfl⟩
    rw [String.toList_ofList]
    exact arrived
  · exact absurd same (unquoted _)

theorem next_error {place : Place} {position : Nat} {piece : Piece}
    {error : TextError} (refused : place.next position piece = .error error) :
    (place = .plain ∧ piece = .quote ∧ error = .unescapedQuote position) ∨
      (place = .closed ∧ (∀ character, piece ≠ .blank character) ∧
        error = .trailingCharacters position) := by
  cases place with
  | between | quoted => cases piece <;> cases refused
  | plain =>
      cases piece with
      | blank | escapedQuote | letter => cases refused
      | quote =>
          cases refused
          exact .inl ⟨rfl, rfl, rfl⟩
  | closed =>
      cases piece with
      | blank => cases refused
      | quote | escapedQuote | letter =>
          cases refused
          exact .inr ⟨rfl, nofun, rfl⟩

theorem tokenize_of_fault {input : String} {error : TextError}
    (fault : Fault input error) : tokenize input = .error error := by
  rw [tokenize_error_iff]
  cases error with
  | unterminatedQuote position =>
      obtain ⟨before, after, occurs, start, accepted, escaped⟩ := fault
      obtain ⟨whole, size⟩ := occurs_iff.mp occurs
      have place : standing (pieces before.toList) = .between := by
        rw [standing_eq_between_iff]
        exact start.imp_left fun empty => by simp [empty]
      have apart : Separable before.toList ('"' :: after.toList) := by
        refine .of_getLast?_ne _ fun final => ?_
        rcases start with rfl | ⟨white, last, isWhite⟩
        · simp at final
        · rw [last, Option.some.injEq] at final
          rw [final] at isWhite
          exact absurd isWhite (by decide)
      rw [whole, arrive_after_accepted accepted apart, place, size,
        pieces_quote_cons, arrive, Place.next, Except.bind,
        arrive_quoted (quotesEscaped_iff.mp escaped)]
      rfl
  | unescapedQuote position =>
      obtain ⟨before, after, occurs, accepted,
        ⟨final, last, notWhite, notBackslash⟩, notBare⟩ := fault
      obtain ⟨whole, size⟩ := occurs_iff.mp occurs
      have place : standing (pieces before.toList) = .plain :=
        standing_eq_plain_iff.mpr ⟨⟨final, last, notWhite⟩, notBare⟩
      have apart : Separable before.toList ('"' :: after.toList) :=
        .of_getLast?_ne _ (by simpa [last] using notBackslash)
      rw [whole, arrive_after_accepted accepted apart, place, size,
        pieces_quote_cons]
      rfl
  | trailingCharacters position =>
      obtain ⟨before, character, after, occurs, notWhite, accepted, bare⟩ :=
        fault
      obtain ⟨whole, size⟩ := occurs_iff.mp occurs
      have place : standing (pieces before.toList) = .closed :=
        standing_eq_closed_iff.mpr bare
      have apart : Separable before.toList (character :: after.toList) := by
        obtain ⟨earlier, quoted, -⟩ := bare
        exact .of_getLast?_ne _ (by simp [quoted])
      rw [whole, arrive_after_accepted accepted apart, place, size]
      rcases character_cases character with white | rfl | admitted
      · simp [notWhite] at white
      · rw [pieces_quote_cons]
        rfl
      · obtain ⟨piece, later, cut, held⟩ :=
          pieces_eq_held_cons after.toList admitted
        rw [cut]
        cases piece with
        | blank | quote => simp [Form.holds] at held
        | escapedQuote | letter => rfl

theorem occurs_of_append {input : String} {before after : List Char}
    {character : Char} (whole : input.toList = before ++ character :: after) :
    Occurs input (Text.byteSize before) (String.ofList before) character
      (String.ofList after) := by
  simp [occurs_iff, whole]

theorem fault_of_tokenize {input : String} {error : TextError}
    (failure : tokenize input = .error error) : Fault input error := by
  rw [tokenize_error_iff] at failure
  cases arrived : arrive .between 0 (pieces input.toList) with
  | ok place =>
      rw [arrived, Except.bind] at failure
      rcases arrive_cases arrived with
        rfl | ⟨first, second, cut, opened, unclosed, rfl⟩
      · rw [leave_standing] at failure
        cases failure
      · cases failure
        obtain ⟨before, right, whole, -, rfl, quoteCut⟩ := pieces_split cut
        obtain ⟨after, rfl, -, -, rfl⟩ := pieces_eq_cons quoteCut
        obtain ⟨accepted, place⟩ := accepted_of_arrive opened nofun
        rw [extent_pieces]
        refine ⟨_, _, occurs_of_append whole, ?_, accepted, ?_⟩
        · refine (standing_eq_between_iff.mp place).imp ?_ ?_
          · intro empty
            rw [empty]
          · simp
        · rw [String.toList_ofList]
          exact quotesEscaped_iff.mpr unclosed
  | error stepError =>
      rw [arrived] at failure
      cases failure
      obtain ⟨first, piece, second, stopped, cut, reached, refused⟩ :=
        arrive_error arrived
      obtain ⟨before, right, whole, apart, rfl, pieceCut⟩ := pieces_split cut
      obtain ⟨after, rfl, -, alone, rfl⟩ := pieces_eq_cons pieceCut
      rw [extent_pieces, Nat.zero_add] at refused
      rcases next_error refused with
        ⟨rfl, rfl, rfl⟩ | ⟨rfl, notBlank, rfl⟩
      · obtain ⟨accepted, place⟩ := accepted_of_arrive reached nofun
        obtain ⟨⟨final, last, notWhite⟩, notBare⟩ :=
          standing_eq_plain_iff.mp place
        refine ⟨_, _, occurs_of_append whole, accepted, ?_, ?_⟩
        · rw [String.toList_ofList]
          refine ⟨final, last, notWhite, ?_⟩
          intro backslash
          rw [backslash] at last
          exact apart last rfl
        · rw [String.toList_ofList]
          exact notBare
      · obtain ⟨accepted, place⟩ := accepted_of_arrive reached nofun
        obtain ⟨character, rest, source⟩ :=
          List.exists_cons_of_ne_nil piece.source_ne_nil
        rw [source, List.cons_append] at whole
        refine ⟨_, character, _, occurs_of_append whole, ?_, accepted, ?_⟩
        · rw [← Bool.not_eq_true]
          intro white
          rw [source, pieces_blank_cons white, List.cons.injEq] at alone
          exact notBlank character alone.1.symm
        · rw [String.toList_ofList]
          exact standing_eq_closed_iff.mp place

theorem tokenize_error_iff_fault {input : String} {error : TextError} :
    tokenize input = .error error ↔ Fault input error :=
  ⟨fault_of_tokenize, tokenize_of_fault⟩

/-- A fault is found at a character of the text, and the text in front of that
character is accepted. -/
theorem Fault.occurs {input : String} {error : TextError}
    (fault : Fault input error) :
    ∃ before character after,
      Occurs input error.position before character after ∧
        Accepted before := by
  cases error with
  | unterminatedQuote position =>
      obtain ⟨before, after, occurs, -, accepted, -⟩ := fault
      exact ⟨before, _, after, occurs, accepted⟩
  | unescapedQuote position =>
      obtain ⟨before, after, occurs, accepted, -, -⟩ := fault
      exact ⟨before, _, after, occurs, accepted⟩
  | trailingCharacters position =>
      obtain ⟨before, character, after, occurs, -, accepted, -⟩ := fault
      exact ⟨before, character, after, occurs, accepted⟩

theorem Occurs.position_lt {input before after : String} {position : Nat}
    {character : Char} (occurs : Occurs input position before character after) :
    position < input.utf8ByteSize := by
  obtain ⟨rfl, rfl⟩ := occurs
  have positive := character.utf8Size_pos
  simp only [String.utf8ByteSize_append, String.utf8ByteSize_singleton]
  omega

/-- The scanner reports an error exactly if the text has that fault.  Its
position is that of a character of the text, with accepted text in front of
it, and a text is either accepted or has exactly one fault. -/
theorem tokenize_error_classification (input : String) :
    (∀ error, tokenize input = .error error ↔ Fault input error) ∧
      (∀ error, Fault input error →
        error.position < input.utf8ByteSize ∧
          ∃ before character after,
            Occurs input error.position before character after ∧
              Accepted before) ∧
      (Accepted input ∨ ∃ error, Fault input error) ∧
      ∀ error, Fault input error →
        ¬Accepted input ∧ ∀ other, Fault input other → other = error := by
  refine ⟨fun error => tokenize_error_iff_fault, fun error fault => ?_, ?_,
    fun error fault => ⟨?_, fun other otherFault => ?_⟩⟩
  · obtain ⟨before, character, after, occurs, accepted⟩ := fault.occurs
    exact ⟨occurs.position_lt, before, character, after, occurs, accepted⟩
  · cases result : tokenize input with
    | ok arguments => exact .inl ⟨arguments, result⟩
    | error error => exact .inr ⟨error, fault_of_tokenize result⟩
  · intro accepted
    obtain ⟨arguments, success⟩ := accepted
    rw [tokenize_of_fault fault] at success
    cases success
  · have reported := tokenize_of_fault otherFault
    rw [tokenize_of_fault fault, Except.error.injEq] at reported
    exact reported.symm

theorem tokenize_error_classification_afterQuote :
    Fault "ż \"a\"\"b" (.trailingCharacters 6) ∧
      6 < "ż \"a\"\"b".utf8ByteSize ∧ ¬Accepted "ż \"a\"\"b" ∧
      ∀ other, Fault "ż \"a\"\"b" other → other = .trailingCharacters 6 := by
  obtain ⟨reported, inside, -, unique⟩ :=
    tokenize_error_classification "ż \"a\"\"b"
  have fault := (reported (.trailingCharacters 6)).mp rfl
  exact ⟨fault, (inside _ fault).1, unique _ fault⟩

end LineShell.Argument
