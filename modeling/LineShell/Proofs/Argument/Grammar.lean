import LineShell.Proofs.Argument.Scanning

/-!
# The grammar of argument text

`Derives` says, without a scanner, which texts spell which arguments: units
make up an argument, white space separates arguments.  A unit is a backslash
with the double quote that it escapes, or a single character that begins no
such pair.  `tokenize` accepts exactly the texts that the grammar derives.
-/

namespace LineShell.Argument

/-- Text of nothing but white space. -/
def Blank (text : List Char) : Prop :=
  ∀ character ∈ text, Text.isWhiteSpace character = true

/-- The characters that stand for themselves in an argument of a form. -/
def Form.admits : Form → Char → Bool
  | .plain, character =>
      character ≠ '"' && !Text.isWhiteSpace character
  | .quoted, character => character ≠ '"'

/-- What follows the units of an argument and still belongs to it. -/
def Form.closing : Form → List Char
  | .plain => []
  | .quoted => ['"']

/-- The units of an argument of a form, and the characters that they stand
for.  The closing quote counts when a backslash looks at what is directly
after it. -/
inductive Units (form : Form) : List Char → List Char → Prop where
  | nil : Units form [] []
  | escapedQuote {text value : List Char} :
      Units form text value →
      Units form ('\\' :: '"' :: text) ('"' :: value)
  | single {character : Char} {text value : List Char} :
      form.admits character = true →
      ¬Escapes character (text ++ form.closing).head? →
      Units form text value →
      Units form (character :: text) (character :: value)

/-- How an argument is written. -/
inductive Spells : List Char → Token → Prop where
  | plain {text value : List Char} :
      text ≠ [] → text.head? ≠ some '"' → Units .plain text value →
      Spells text ⟨.plain, value⟩
  | quoted {text value : List Char} :
      Units .quoted text value →
      Spells ('"' :: (text ++ ['"'])) ⟨.quoted, value⟩

/-- One or more arguments with white space between them. -/
inductive Separated : List Char → List Token → Prop where
  | one {text : List Char} {token : Token} :
      Spells text token → Separated text [token]
  | more {text gap rest : List Char} {token : Token} {tokens : List Token} :
      Spells text token → Blank gap → gap ≠ [] → Separated rest tokens →
      Separated (text ++ gap ++ rest) (token :: tokens)

inductive DerivesTokens : List Char → List Token → Prop where
  | blank {text : List Char} : Blank text → DerivesTokens text []
  | arguments {before text after : List Char} {tokens : List Token} :
      Blank before → Separated text tokens → Blank after →
      DerivesTokens (before ++ text ++ after) tokens

/-- The arguments that a text spells: what its tokens say. -/
def Derives (input : String) (arguments : List String) : Prop :=
  ∃ tokens, DerivesTokens input.toList tokens ∧
    arguments = tokens.map fun token => String.ofList token.value

theorem Form.notWhite_of_admits {character : Char}
    (admitted : Form.plain.admits character = true) :
    Text.isWhiteSpace character = false := by
  simpa [Form.admits] using (Bool.and_eq_true_iff.mp admitted).2

theorem separable_singleton_iff {character : Char} {right : List Char} :
    Separable [character] right ↔ ¬Escapes character right.head? := by
  simp [Separable, Escapes]

theorem Form.holds_ofChar (form : Form) (character : Char) :
    form.holds (.ofChar character) = form.admits character := by
  unfold Piece.ofChar
  split
  · cases form <;> simp_all [Form.holds, Form.admits]
  · split <;> cases form <;> simp_all [Form.holds, Form.admits]

theorem Form.holds_escapedQuote (form : Form) :
    form.holds .escapedQuote = true := by
  cases form <;> rfl

namespace Units

variable {form : Form} {text value : List Char}

theorem separable (units : Units form text value) :
    Separable text form.closing := by
  induction units with
  | nil => exact .nil_left _
  | @escapedQuote text value units induction =>
      have outer : Separable ['\\', '"'] (text ++ form.closing) :=
        .of_getLast?_ne _ (by simp)
      exact outer.append induction
  | @single character text value admitted single units induction =>
      exact (separable_singleton_iff.mpr single).append induction

theorem holds (units : Units form text value) :
    ∀ piece ∈ pieces text, form.holds piece = true := by
  induction units with
  | nil => simp
  | escapedQuote units induction =>
      simpa [form.holds_escapedQuote] using induction
  | single admitted single units induction =>
      have apart := (separable_singleton_iff.mpr single).of_append_right
      rw [pieces_cons (separable_singleton_iff.mp apart)]
      simpa [form.holds_ofChar, admitted] using induction

theorem value_eq (units : Units form text value) :
    value = (pieces text).map Piece.value := by
  induction units with
  | nil => rfl
  | escapedQuote units induction =>
      rw [pieces_escapedQuote, List.map_cons, ← induction]
      rfl
  | single admitted single units induction =>
      have apart := (separable_singleton_iff.mpr single).of_append_right
      rw [pieces_cons (separable_singleton_iff.mp apart), List.map_cons,
        ← induction, Piece.value_ofChar]

/-- A text is made of units if the argument may hold its pieces and it leaves
the closing quote bare. -/
theorem of_pieces (held : ∀ piece ∈ pieces text, form.holds piece = true)
    (separable : Separable text form.closing) :
    Units form text ((pieces text).map Piece.value) := by
  fun_induction pieces text with
  | case1 => exact .nil
  | case2 character =>
      have admitted := held _ List.mem_cons_self
      rw [form.holds_ofChar] at admitted
      rw [List.map_singleton, Piece.value_ofChar]
      exact .single admitted (separable_singleton_iff.mp separable) .nil
  | case3 rest induction =>
      exact .escapedQuote (induction
        (fun piece member => held piece (List.mem_cons_of_mem _ member))
        separable.of_cons.of_cons)
  | case4 character next rest single induction =>
      have admitted := held _ List.mem_cons_self
      rw [form.holds_ofChar] at admitted
      rw [List.map_cons, Piece.value_ofChar]
      have apart : ¬Escapes character
          (next :: rest ++ form.closing).head? := by
        intro escapes
        apply single escapes.1
        simpa using escapes.2
      exact .single admitted apart (induction
        (fun piece member => held piece (List.mem_cons_of_mem _ member))
        separable.of_cons)

end Units

theorem Blank.tail {character : Char} {text : List Char}
    (blank : Blank (character :: text)) : Blank text :=
  fun other member => blank other (List.mem_cons_of_mem _ member)

theorem Blank.separable {gap : List Char} (blank : Blank gap)
    (rest : List Char) : Separable gap rest := by
  refine .of_getLast?_ne rest fun final => ?_
  have white := blank '\\' (List.mem_of_getLast? final)
  exact absurd white (by decide)

theorem Blank.separable_left {gap : List Char} (blank : Blank gap)
    (text : List Char) : Separable text gap := by
  refine .of_head?_ne text fun quote => ?_
  have white := blank '"' (List.mem_of_head? quote)
  exact absurd white (by decide)

theorem Blank.pieces {gap : List Char} (blank : Blank gap) :
    ∀ piece ∈ pieces gap, ∃ character, piece = .blank character := by
  induction gap with
  | nil => simp
  | cons character gap induction =>
      rw [pieces_blank_cons (blank character List.mem_cons_self)]
      intro piece member
      rcases List.mem_cons.mp member with rfl | later
      · exact ⟨character, rfl⟩
      · exact induction blank.tail piece later

theorem scan_gap {position : Nat} {gap rest : List Char}
    (blank : Blank gap) :
    scan .between position (pieces (gap ++ rest)) =
      scan .between (position + Text.byteSize gap) (pieces rest) := by
  rw [pieces_append (blank.separable rest), scan_blanks blank.pieces,
    extent_pieces]

theorem scan_blank {position : Nat} {gap : List Char} (blank : Blank gap) :
    scan .between position (pieces gap) = .ok [] := by
  have skipped : scan .between position (pieces (gap ++ [])) =
      scan .between (position + Text.byteSize gap) (pieces []) :=
    scan_gap blank
  rw [List.append_nil] at skipped
  exact skipped

theorem pieces_eq_held_cons {character : Char} (rest : List Char)
    (admitted : Form.plain.admits character = true) :
    ∃ piece later, pieces (character :: rest) = piece :: later ∧
      Form.plain.holds piece = true := by
  by_cases escapes : Escapes character rest.head?
  · obtain ⟨rfl, quote⟩ := escapes
    obtain ⟨rest, rfl⟩ := List.head?_eq_some_iff.mp quote
    exact ⟨_, _, pieces_escapedQuote rest, rfl⟩
  · exact ⟨_, _, pieces_cons escapes,
      (Form.plain.holds_ofChar character).trans admitted⟩

theorem character_cases (character : Char) :
    Text.isWhiteSpace character = true ∨ character = '"' ∨
      Form.plain.admits character = true := by
  by_cases quote : character = '"'
  · exact .inr (.inl quote)
  · cases white : Text.isWhiteSpace character <;>
      simp [Form.admits, quote, white]

theorem ends_pieces_iff {text : List Char} :
    Ends (pieces text) ↔
      ∀ character ∈ text.head?, Text.isWhiteSpace character = true := by
  cases text with
  | nil => simpa using ends_nil
  | cons character rest =>
      rcases character_cases character with white | rfl | admitted
      · rw [pieces_blank_cons white]
        simpa [white] using ends_blank character (pieces rest)
      · rw [pieces_quote_cons]
        simp [Ends, Text.isWhiteSpace_quote]
      · obtain ⟨piece, later, cut, held⟩ := pieces_eq_held_cons rest admitted
        have notWhite := Form.notWhite_of_admits admitted
        rw [cut]
        cases piece <;> simp_all [Ends, Form.holds]

theorem scan_spelled {position : Nat} {text rest : List Char} {token : Token}
    (spelled : Spells text token) (ends : Ends (pieces rest)) :
    scan .between position (pieces (text ++ rest)) =
      (scan .between (position + Text.byteSize text) (pieces rest)).map
        (token :: ·) := by
  have noQuote : rest.head? ≠ some '"' := by
    intro quote
    have white := ends_pieces_iff.mp ends '"' quote
    exact absurd white (by decide)
  cases spelled with
  | @plain _ value notEmpty first units =>
      obtain ⟨character, tail, rfl⟩ := List.exists_cons_of_ne_nil notEmpty
      have held := units.holds
      rw [pieces_append (.of_head?_ne _ noQuote), ← extent_pieces,
        units.value_eq, ← scan_plain_run held ends]
      cases cut : pieces (character :: tail) with
      | nil => simpa [cut] using flatMap_source_pieces (character :: tail)
      | cons piece later =>
          refine scan_between_of_holds (held piece ?_)
          rw [cut]
          exact List.mem_cons_self
  | @quoted text value units =>
      have whole : '"' :: (text ++ ['"']) ++ rest =
          '"' :: (text ++ '"' :: rest) := by
        simp
      have apart : Separable text ('"' :: rest) := units.separable
      rw [whole, pieces_quote_cons, pieces_append apart, pieces_quote_cons,
        units.value_eq, scan, scan_quoted_run units.holds ends]
      have size : Text.byteSize ('"' :: (text ++ ['"'])) =
          1 + extent (pieces text) + 1 := by
        rw [extent_pieces, Text.byteSize, Text.byteSize_append,
          ← Nat.add_assoc]
        rfl
      rw [size, Piece.width, ← Nat.add_assoc, ← Nat.add_assoc]

/-- A scan that succeeds on a text that does not start with white space finds
a spelled argument in front of a text where it may end. -/
theorem spelled_of_scan {position : Nat} {character : Char}
    {text : List Char} {tokens : List Token}
    (notWhite : Text.isWhiteSpace character = false)
    (success : scan .between position (pieces (character :: text)) =
      .ok tokens) :
    ∃ written rest token, character :: text = written ++ rest ∧
      written ≠ [] ∧ Spells written token ∧ Ends (pieces rest) := by
  rcases character_cases character with white | rfl | admitted
  · simp [notWhite] at white
  · rw [pieces_quote_cons, scan] at success
    obtain ⟨run, later, cut, held, ends⟩ := scan_quoted_ok success
    obtain ⟨inside, right, rfl, apart, rfl, quoteCut⟩ := pieces_split cut
    obtain ⟨rest, rfl, -, -, rfl⟩ := pieces_eq_cons quoteCut
    refine ⟨'"' :: (inside ++ ['"']), rest, ⟨.quoted, _⟩, ?_, by simp,
      .quoted (.of_pieces held apart), ends⟩
    simp [Piece.source]
  · obtain ⟨piece, later, first, heldFirst⟩ :=
      pieces_eq_held_cons text admitted
    rw [first, scan_between_of_holds heldFirst] at success
    obtain ⟨run, after, cut, held, ends⟩ := scan_plain_ok success
    rw [← first] at cut
    obtain ⟨written, rest, whole, -, rfl, rfl⟩ := pieces_split cut
    have notEmpty : written ≠ [] := by
      intro empty
      rw [empty, List.nil_append] at whole
      rw [← whole, ends_pieces_iff] at ends
      simp [notWhite] at ends
    have noQuote : written.head? ≠ some '"' := by
      intro quote
      obtain ⟨tail, rfl⟩ := List.head?_eq_some_iff.mp quote
      rw [List.cons_append, List.cons.injEq] at whole
      rw [whole.1] at admitted
      exact absurd admitted (by decide)
    exact ⟨written, rest, ⟨.plain, _⟩, whole, notEmpty,
      .plain notEmpty noQuote (.of_pieces held (.nil_right written)), ends⟩

theorem Spells.firstCharacter {text : List Char} {token : Token}
    (spelled : Spells text token) :
    ∃ character rest, text = character :: rest ∧
      Text.isWhiteSpace character = false := by
  cases spelled with
  | @plain _ value notEmpty first units =>
      cases units with
      | nil => exact absurd rfl notEmpty
      | escapedQuote => exact ⟨_, _, rfl, Text.isWhiteSpace_backslash⟩
      | single admitted =>
          exact ⟨_, _, rfl, Form.notWhite_of_admits admitted⟩
  | quoted => exact ⟨_, _, rfl, Text.isWhiteSpace_quote⟩

theorem Separated.firstCharacter {text : List Char} {tokens : List Token}
    (separated : Separated text tokens) :
    ∃ character rest, text = character :: rest ∧
      Text.isWhiteSpace character = false := by
  cases separated with
  | one spelled => exact spelled.firstCharacter
  | more spelled blank nonempty rest =>
      obtain ⟨character, tail, rfl, notWhite⟩ := spelled.firstCharacter
      exact ⟨character, _, rfl, notWhite⟩

namespace DerivesTokens

theorem blank_cons {character : Char} {text : List Char}
    {tokens : List Token} (white : Text.isWhiteSpace character = true)
    (derived : DerivesTokens text tokens) :
    DerivesTokens (character :: text) tokens := by
  cases derived with
  | blank blank => exact .blank (List.forall_mem_cons.mpr ⟨white, blank⟩)
  | @arguments before text after tokens blankBefore separated blankAfter =>
      have longer : Blank (character :: before) :=
        List.forall_mem_cons.mpr ⟨white, blankBefore⟩
      exact .arguments longer separated blankAfter

theorem spelled_append {written rest : List Char} {token : Token}
    {tokens : List Token} (spelled : Spells written token)
    (ends : Ends (pieces rest)) (derived : DerivesTokens rest tokens) :
    DerivesTokens (written ++ rest) (token :: tokens) := by
  have none : Blank [] := by simp [Blank]
  cases derived with
  | blank blank => exact .arguments none (.one spelled) blank
  | @arguments before text after tokens blankBefore separated blankAfter =>
      have nonempty : before ≠ [] := by
        intro empty
        subst empty
        obtain ⟨character, tail, rfl, notWhite⟩ := separated.firstCharacter
        rw [ends_pieces_iff] at ends
        simp [notWhite] at ends
      have joined := DerivesTokens.arguments none
        (.more spelled blankBefore nonempty separated) blankAfter
      simpa using joined

end DerivesTokens

/-- What the scanner accepts, the grammar derives.  The induction is on the
length of the text: each step takes one blank or one whole argument. -/
theorem derivesTokens_of_scan {position : Nat} {text : List Char}
    {tokens : List Token}
    (success : scan .between position (pieces text) = .ok tokens) :
    DerivesTokens text tokens := by
  cases text with
  | nil =>
      cases success
      exact .blank (by simp [Blank])
  | cons character text =>
      cases white : Text.isWhiteSpace character with
      | true =>
          rw [pieces_blank_cons white, scan] at success
          exact .blank_cons white (derivesTokens_of_scan success)
      | false =>
          obtain ⟨written, rest, token, whole, notEmpty, spelled, ends⟩ :=
            spelled_of_scan white success
          rw [whole, scan_spelled spelled ends] at success
          cases continued : scan .between
              (position + Text.byteSize written) (pieces rest) with
          | error error =>
              rw [continued] at success
              cases success
          | ok later =>
              rw [continued] at success
              cases success
              have shorter : rest.length < (character :: text).length := by
                rw [whole, List.length_append]
                have := List.length_pos_iff.mpr notEmpty
                omega
              rw [whole]
              exact .spelled_append spelled ends
                (derivesTokens_of_scan continued)
termination_by text.length

theorem scan_of_separated {position : Nat} {text rest : List Char}
    {tokens : List Token} (separated : Separated text tokens)
    (ends : Ends (pieces rest)) :
    scan .between position (pieces (text ++ rest)) =
      (scan .between (position + Text.byteSize text) (pieces rest)).map
        (tokens ++ ·) := by
  induction separated generalizing position with
  | one spelled => exact scan_spelled spelled ends
  | @more text gap later token tokens spelled blank nonempty separated
      induction =>
      have gapEnds : Ends (pieces (gap ++ (later ++ rest))) := by
        obtain ⟨character, gap, rfl⟩ := List.exists_cons_of_ne_nil nonempty
        rw [ends_pieces_iff]
        simp [blank character List.mem_cons_self]
      have whole : text ++ gap ++ later ++ rest =
          text ++ (gap ++ (later ++ rest)) := by
        simp
      rw [whole, scan_spelled spelled gapEnds, scan_gap blank, induction,
        Text.byteSize_append, Text.byteSize_append, ← Nat.add_assoc,
        ← Nat.add_assoc]
      cases scan .between _ (pieces rest) <;> rfl

theorem scan_of_derivesTokens {position : Nat} {text : List Char}
    {tokens : List Token} (derived : DerivesTokens text tokens) :
    scan .between position (pieces text) = .ok tokens := by
  cases derived with
  | blank blank => exact scan_blank blank
  | @arguments before text after tokens blankBefore separated blankAfter =>
      have ends : Ends (pieces after) := by
        rw [ends_pieces_iff]
        intro character first
        exact blankAfter character (List.mem_of_head? first)
      rw [List.append_assoc, scan_gap blankBefore,
        scan_of_separated separated ends, scan_blank blankAfter, Except.map,
        List.append_nil]

theorem tokens_eq_ok_iff {text : List Char} {found : List Token} :
    tokens text = .ok found ↔ DerivesTokens text found :=
  ⟨derivesTokens_of_scan, scan_of_derivesTokens⟩

theorem tokenize_eq_ok_iff {input : String} {arguments : List String} :
    tokenize input = .ok arguments ↔
      ∃ found, tokens input.toList = .ok found ∧
        arguments = found.map fun token => String.ofList token.value := by
  unfold tokenize
  cases tokens input.toList with
  | error error => simp [Except.map]
  | ok found => simp [Except.map, eq_comm]

theorem Units.value_subset {form : Form} {text value : List Char}
    (units : Units form text value) : value ⊆ text := by
  induction units with
  | nil => exact List.Subset.refl []
  | escapedQuote _ ih =>
      exact List.subset_cons_of_subset _ (List.cons_subset_cons _ ih)
  | single _ _ _ ih => exact List.cons_subset_cons _ ih

theorem Spells.value_subset {text : List Char} {token : Token}
    (spelled : Spells text token) : token.value ⊆ text := by
  cases spelled with
  | plain _ _ units => exact units.value_subset
  | quoted units =>
      apply List.subset_cons_of_subset
      exact List.subset_append_of_subset_left _ units.value_subset

theorem Separated.value_subset {text : List Char} {tokens : List Token}
    (separated : Separated text tokens) :
    ∀ token ∈ tokens, token.value ⊆ text := by
  induction separated with
  | one spelled => simpa using spelled.value_subset
  | more spelled _ _ _ ih =>
      rw [List.forall_mem_cons]
      constructor
      · rw [List.append_assoc]
        exact List.subset_append_of_subset_left _ spelled.value_subset
      · intro token member
        exact List.subset_append_of_subset_right _ (ih token member)

theorem DerivesTokens.value_subset {text : List Char} {tokens : List Token}
    (derived : DerivesTokens text tokens) :
    ∀ token ∈ tokens, token.value ⊆ text := by
  cases derived with
  | blank => exact List.forall_mem_nil _
  | arguments _ separated _ =>
      intro token member
      apply List.subset_append_of_subset_left
      apply List.subset_append_of_subset_right
      exact separated.value_subset token member

theorem value_subset_of_tokenize {input : String} {values : List String}
    (success : tokenize input = .ok values) :
    ∀ value ∈ values, value.toList ⊆ input.toList := by
  obtain ⟨found, scanned, rfl⟩ := tokenize_eq_ok_iff.mp success
  intro value member
  obtain ⟨token, inside, rfl⟩ := List.mem_map.mp member
  rw [String.toList_ofList]
  exact (tokens_eq_ok_iff.mp scanned).value_subset token inside

theorem tokenize_eq_ok_iff_derives {input : String}
    {arguments : List String} :
    tokenize input = .ok arguments ↔ Derives input arguments := by
  simp only [tokenize_eq_ok_iff, tokens_eq_ok_iff, Derives]

/-- The scanner accepts exactly the texts that the grammar derives, with the
arguments that they spell.  A text spells at most one list of arguments, and
one that spells none is an error. -/
theorem tokenize_computes_grammar (input : String)
    (arguments : List String) :
    (tokenize input = .ok arguments ↔ Derives input arguments) ∧
      (Derives input arguments →
        ∀ other, Derives input other → other = arguments) ∧
      ((∃ error, tokenize input = .error error) ↔
        ∀ other, ¬Derives input other) := by
  refine ⟨tokenize_eq_ok_iff_derives, ?_⟩
  simp only [← tokenize_eq_ok_iff_derives]
  constructor
  · intro derived other otherDerived
    rw [derived, Except.ok.injEq] at otherDerived
    exact otherDerived.symm
  · cases tokenize input <;> simp

theorem tokenize_computes_grammar_mixed :
    Derives "a\\\"b \"c \\\" d\" \"\"" ["a\"b", "c \" d", ""] ∧
      ∀ other, Derives "a\\\"b \"c \\\" d\" \"\"" other →
        other = ["a\"b", "c \" d", ""] := by
  have law := tokenize_computes_grammar "a\\\"b \"c \\\" d\" \"\""
    ["a\"b", "c \" d", ""]
  have derived := law.1.mp rfl
  exact ⟨derived, law.2.1 derived⟩

end LineShell.Argument
