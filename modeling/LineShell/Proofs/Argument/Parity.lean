import LineShell.Proofs.Argument.Faults

/-!
# Quotes in pairs

Whether a text is accepted can be seen at its quotes one by one.  Of the double
quotes that no backslash stands directly before, the odd ones open and the even
ones close: a text is accepted if their number is even, each odd one begins
after white space and each even one ends before white space.  What is said
inside and outside of the quotes is what remains of the text when the quotes,
the backslashes before quotes and the white space outside are taken away.
-/

namespace LineShell.Argument

/-- A character of a text with what stands before and after it. -/
@[ext]
structure Site where
  before : List Char
  character : Char
  after : List Char

/-- The sites of a text that stands after another one. -/
def sitesFrom (before : List Char) : List Char → List Site
  | [] => []
  | character :: after =>
      ⟨before, character, after⟩ :: sitesFrom (before ++ [character]) after

def sites (text : List Char) : List Site :=
  sitesFrom [] text

/-- A double quote that no backslash stands directly before. -/
def Site.isBareQuote (site : Site) : Bool :=
  site.character = '"' && site.before.getLast? ≠ some '\\'

/-- The number of bare double quotes of a text. -/
def bareQuotes (text : List Char) : Nat :=
  (sites text).countP Site.isBareQuote

namespace Site

/-- The number of a bare quote among those of its text, counted from one. -/
def number (site : Site) : Nat :=
  bareQuotes site.before + 1

/-- A backslash directly before a double quote. -/
def isEscaping (site : Site) : Bool :=
  site.character = '\\' && site.after.head? = some '"'

/-- White space outside of quotes: an even number of them is before it. -/
def isSeparator (site : Site) : Bool :=
  Text.isWhiteSpace site.character && bareQuotes site.before % 2 = 0

def isDropped (site : Site) : Bool :=
  site.isBareQuote || site.isEscaping || site.isSeparator

end Site

/-- What the characters of a text say together. -/
def remaining (text : List Char) : List Char :=
  ((sites text).filter (!·.isDropped)).map Site.character

/-- The bare quotes of a text come in pairs, with white space around each. -/
structure Paired (text : List Char) : Prop where
  even : bareQuotes text % 2 = 0
  opening : ∀ site ∈ sites text, site.isBareQuote = true →
    site.number % 2 = 1 →
    site.before = [] ∨ ∃ final, site.before.getLast? = some final ∧
      Text.isWhiteSpace final = true
  closing : ∀ site ∈ sites text, site.isBareQuote = true →
    site.number % 2 = 0 →
    site.after = [] ∨ ∃ first, site.after.head? = some first ∧
      Text.isWhiteSpace first = true

section Sites

variable {before text : List Char}

theorem mem_sitesFrom_iff {site : Site} :
    site ∈ sitesFrom before text ↔ ∃ first, site.before = before ++ first ∧
      text = first ++ site.character :: site.after := by
  induction text generalizing before with
  | nil => simp [sitesFrom]
  | cons character after induction =>
      rw [sitesFrom, List.mem_cons, induction]
      constructor
      · rintro (rfl | ⟨first, earlier, rfl⟩)
        · exact ⟨[], by simp, rfl⟩
        · exact ⟨character :: first, by simp [earlier], rfl⟩
      · rintro ⟨first, earlier, whole⟩
        cases first with
        | nil =>
            rw [List.nil_append, List.cons.injEq] at whole
            rw [List.append_nil] at earlier
            exact .inl (Site.ext earlier whole.1.symm whole.2.symm)
        | cons head first =>
            rw [List.cons_append, List.cons.injEq] at whole
            rw [← whole.1] at earlier
            exact .inr ⟨first, by simp [earlier], whole.2⟩

/-- The sites of a text are the ways to take one character out of it. -/
theorem mem_sites_iff {site : Site} :
    site ∈ sites text ↔ text = site.before ++ site.character :: site.after := by
  rw [sites, mem_sitesFrom_iff]
  simp

@[elab_as_elim]
theorem induction_on_pieces {motive : List Char → Prop} (text : List Char)
    (nil : motive [])
    (blank : ∀ character rest, Text.isWhiteSpace character = true →
      motive rest → motive (character :: rest))
    (quote : ∀ rest, motive rest → motive ('"' :: rest))
    (escapedQuote : ∀ rest, motive rest → motive ('\\' :: '"' :: rest))
    (letter : ∀ character rest, character ≠ '"' →
      Text.isWhiteSpace character = false → ¬Escapes character rest.head? →
      motive rest → motive (character :: rest)) :
    motive text := by
  have single (character : Char) (rest : List Char)
      (apart : ¬Escapes character rest.head?) (later : motive rest) :
      motive (character :: rest) := by
    rcases character_cases character with white | rfl | admitted
    · exact blank character rest white later
    · exact quote rest later
    · rw [Form.admits, Bool.and_eq_true, decide_eq_true_iff,
        Bool.not_eq_true'] at admitted
      exact letter character rest admitted.1 admitted.2 apart later
  fun_induction pieces text with
  | case1 => exact nil
  | case2 character =>
      refine single character [] ?_ nil
      intro escapes
      cases escapes.2
  | case3 rest induction => exact escapedQuote rest induction
  | case4 character next rest apart induction =>
      refine single character (next :: rest) ?_ induction
      intro escapes
      exact apart escapes.1 (Option.some.inj escapes.2)

theorem isBareQuote_eq_false {character : Char} (different : character ≠ '"')
    (after : List Char) :
    (Site.mk before character after).isBareQuote = false := by
  simp [Site.isBareQuote, different]

theorem isBareQuote_of_separable {after : List Char}
    (separable : Separable before ('"' :: after)) :
    (Site.mk before '"' after).isBareQuote = true := by
  have bare : before.getLast? ≠ some '\\' := fun last => separable last rfl
  simp [Site.isBareQuote, bare]

theorem isBareQuote_of_escaped (after : List Char) :
    (Site.mk (before ++ ['\\']) '"' after).isBareQuote = false := by
  simp [Site.isBareQuote]

theorem not_escapes {character : Char} (different : character ≠ '\\')
    (next : Option Char) : ¬Escapes character next :=
  fun escapes => different escapes.1

theorem ne_of_white {character : Char}
    (white : Text.isWhiteSpace character = true) :
    character ≠ '"' ∧ character ≠ '\\' := by
  constructor
  · rintro rfl
    cases white.symm.trans Text.isWhiteSpace_quote
  · rintro rfl
    cases white.symm.trans Text.isWhiteSpace_backslash

theorem not_escapes_quote (next : Option Char) : ¬Escapes '"' next :=
  not_escapes (by decide) next

theorem separable_concat (before : List Char) {character : Char}
    {rest : List Char} (single : ¬Escapes character rest.head?) :
    Separable (before ++ [character]) rest := by
  intro final quote
  rw [List.getLast?_concat, Option.some.injEq] at final
  exact single ⟨final, quote⟩

/-- The bare quotes of a text are its pieces that are quotes. -/
theorem countP_sitesFrom (separable : Separable before text) :
    (sitesFrom before text).countP Site.isBareQuote =
      (pieces text).count .quote := by
  induction text using induction_on_pieces generalizing before with
  | nil => rfl
  | blank character rest white induction =>
      obtain ⟨notQuote, notBackslash⟩ := ne_of_white white
      rw [sitesFrom, List.countP_cons, isBareQuote_eq_false notQuote,
        induction (separable_concat before (not_escapes notBackslash _)),
        pieces_blank_cons white]
      simp
  | quote rest induction =>
      rw [sitesFrom, List.countP_cons, isBareQuote_of_separable separable,
        induction (separable_concat before (not_escapes_quote _)),
        pieces_quote_cons]
      simp
  | escapedQuote rest induction =>
      rw [sitesFrom, sitesFrom, List.countP_cons, List.countP_cons,
        isBareQuote_of_escaped, isBareQuote_eq_false (by decide),
        induction (separable_concat _ (not_escapes_quote _)),
        pieces_escapedQuote]
      simp
  | letter character rest notQuote notWhite single induction =>
      rw [sitesFrom, List.countP_cons, isBareQuote_eq_false notQuote,
        induction (separable_concat before single), pieces_cons single,
        Piece.ofChar_letter notQuote notWhite]
      simp

theorem bareQuotes_eq_count (text : List Char) :
    bareQuotes text = (pieces text).count .quote :=
  countP_sitesFrom (.nil_left text)

end Sites

/-- What pieces say, inside of quotes or outside. -/
def retained : Bool → List Piece → List Char
  | _, [] => []
  | inside, piece :: later =>
      match piece with
      | .quote => retained (!inside) later
      | .blank character =>
          if inside then character :: retained inside later
          else retained inside later
      | .escapedQuote | .letter _ => piece.value :: retained inside later

section Remaining

variable {before text rest : List Char} {character : Char}

theorem bareQuotes_concat (different : character ≠ '"') :
    bareQuotes (before ++ [character]) = bareQuotes before := by
  have apart : Separable before [character] :=
    .of_head?_ne before (by simpa using different)
  have piece : Piece.ofChar character ≠ .quote := by
    unfold Piece.ofChar
    split
    · contradiction
    · split <;> nofun
  rw [bareQuotes_eq_count, pieces_concat apart, List.count_append,
    List.count_singleton, ← bareQuotes_eq_count]
  simp [piece]

theorem bareQuotes_concat_quote (separable : Separable before ('"' :: rest)) :
    bareQuotes (before ++ ['"']) = bareQuotes before + 1 := by
  have apart : Separable before ['"'] := fun last => separable last
  rw [bareQuotes_eq_count, pieces_concat apart, List.count_append,
    ← bareQuotes_eq_count]
  rfl

theorem bareQuotes_concat_escapedQuote :
    bareQuotes (before ++ ['\\'] ++ ['"']) = bareQuotes before := by
  rw [List.append_assoc, bareQuotes_eq_count]
  simp only [List.singleton_append]
  rw [pieces_concat_escapedQuote, List.count_append, ← bareQuotes_eq_count]
  rfl

theorem isDropped_blank (white : Text.isWhiteSpace character = true) :
    (Site.mk before character rest).isDropped =
      decide (bareQuotes before % 2 = 0) := by
  obtain ⟨notQuote, notBackslash⟩ := ne_of_white white
  simp [Site.isDropped, Site.isBareQuote, Site.isEscaping, Site.isSeparator,
    notQuote, notBackslash, white]

theorem isDropped_quote (separable : Separable before ('"' :: rest)) :
    (Site.mk before '"' rest).isDropped = true := by
  simp [Site.isDropped, isBareQuote_of_separable separable]

theorem isDropped_backslash :
    (Site.mk before '\\' ('"' :: rest)).isDropped = true := by
  simp [Site.isDropped, Site.isEscaping]

theorem isDropped_escapedQuote :
    (Site.mk (before ++ ['\\']) '"' rest).isDropped = false := by
  simp [Site.isDropped, isBareQuote_of_escaped, Site.isEscaping,
    Site.isSeparator, Text.isWhiteSpace_quote]

theorem isDropped_letter (notQuote : character ≠ '"')
    (notWhite : Text.isWhiteSpace character = false)
    (single : ¬Escapes character rest.head?) :
    (Site.mk before character rest).isDropped = false := by
  have notEscaping : (Site.mk before character rest).isEscaping = false := by
    simpa [Site.isEscaping, Escapes] using single
  simp [Site.isDropped, isBareQuote_eq_false notQuote, notEscaping,
    Site.isSeparator, notWhite]

/-- The number of bare quotes before a text decides which of its blanks
remain; nothing else before it plays a part. -/
theorem remaining_sitesFrom (separable : Separable before text) :
    ((sitesFrom before text).filter (!·.isDropped)).map Site.character =
      retained (bareQuotes before % 2 = 1) (pieces text) := by
  induction text using induction_on_pieces generalizing before with
  | nil => rfl
  | blank character rest white induction =>
      obtain ⟨notQuote, notBackslash⟩ := ne_of_white white
      have later :=
        induction (separable_concat before (not_escapes notBackslash _))
      rw [bareQuotes_concat notQuote] at later
      rw [sitesFrom, pieces_blank_cons white, retained, List.filter_cons,
        isDropped_blank white]
      rcases Nat.mod_two_eq_zero_or_one (bareQuotes before) with even | odd
      · simpa [even] using later
      · simpa [odd] using later
  | quote rest induction =>
      have later := induction (separable_concat before (not_escapes_quote _))
      rw [bareQuotes_concat_quote separable] at later
      rw [sitesFrom, pieces_quote_cons, retained, List.filter_cons,
        isDropped_quote separable]
      rcases Nat.mod_two_eq_zero_or_one (bareQuotes before) with even | odd
      · simpa [even, Nat.add_mod] using later
      · simpa [odd, Nat.add_mod] using later
  | escapedQuote rest induction =>
      have later :=
        induction (separable_concat (before ++ ['\\']) (not_escapes_quote _))
      rw [bareQuotes_concat_escapedQuote] at later
      rw [sitesFrom, sitesFrom, pieces_escapedQuote, retained,
        List.filter_cons, List.filter_cons, isDropped_backslash,
        isDropped_escapedQuote]
      exact congrArg ('"' :: ·) later
  | letter character rest notQuote notWhite single induction =>
      have later := induction (separable_concat before single)
      rw [bareQuotes_concat notQuote] at later
      rw [sitesFrom, pieces_cons single, Piece.ofChar_letter notQuote notWhite,
        retained, List.filter_cons, isDropped_letter notQuote notWhite single]
      exact congrArg (character :: ·) later

theorem remaining_eq_retained (text : List Char) :
    remaining text = retained false (pieces text) :=
  remaining_sitesFrom (.nil_left text)

end Remaining

/-- Every quote among pieces stands where it may: the odd ones between
arguments, the even ones where an argument may end. -/
def Fits (cut : List Piece) : Prop :=
  ∀ first second, cut = first ++ .quote :: second →
    (first.count .quote % 2 = 0 → standing first = .between) ∧
      (first.count .quote % 2 = 1 → Ends second)

def Place.isQuoted : Place → Bool
  | .quoted _ => true
  | .between | .plain | .closed => false

section Arriving

variable {cut : List Piece} {place : Place}

/-- A scan is inside of quotes after an odd number of them. -/
theorem count_quote_of_arrive (arrived : arrive .between 0 cut = .ok place) :
    cut.count .quote % 2 = if place.isQuoted then 1 else 0 := by
  induction cut using List.reverseRecOn generalizing place with
  | nil =>
      cases arrived
      rfl
  | append_singleton cut piece induction =>
      rw [arrive_concat] at arrived
      cases before : arrive .between 0 cut with
      | error error =>
          rw [before] at arrived
          cases arrived
      | ok earlier =>
          have parity := induction before
          rw [before] at arrived
          rw [List.count_append]
          cases earlier <;> cases piece <;> cases arrived <;>
            simp [Place.isQuoted] at parity ⊢ <;>
            omega

theorem eq_standing_of_arrive (arrived : arrive .between 0 cut = .ok place)
    (unquoted : place.isQuoted = false) : place = standing cut := by
  rcases arrive_cases arrived with same | ⟨first, second, -, -, -, rfl⟩
  · exact same
  · cases unquoted

theorem ends_of_arrive {position : Nat}
    (arrived : arrive .closed position cut = .ok place) : Ends cut := by
  cases cut with
  | nil => exact ends_nil
  | cons piece later =>
      cases piece with
      | blank character => exact ends_blank character later
      | quote | escapedQuote | letter => cases arrived

/-- A scan that comes to the end has met no quote out of place. -/
theorem fits_of_arrive (arrived : arrive .between 0 cut = .ok place) :
    Fits cut := by
  rintro first second rfl
  rw [arrive_append] at arrived
  cases before : arrive .between 0 first with
  | error error =>
      rw [before] at arrived
      cases arrived
  | ok middle =>
      have parity := count_quote_of_arrive before
      have stands := eq_standing_of_arrive before
      rw [before] at arrived
      cases middle with
      | between =>
          refine ⟨fun _ => (stands rfl).symm, fun odd => ?_⟩
          cases parity.symm.trans odd
      | plain | closed => cases arrived
      | quoted openedAt =>
          refine ⟨fun even => ?_, fun _ => ends_of_arrive arrived⟩
          cases parity.symm.trans even

/-- If no quote is out of place, a scan comes to the end. -/
theorem arrive_of_fits (fits : Fits cut) :
    ∃ place, arrive .between 0 cut = .ok place := by
  cases arrived : arrive .between 0 cut with
  | ok place => exact ⟨place, rfl⟩
  | error error =>
      obtain ⟨first, piece, second, stopped, rfl, reached, refused⟩ :=
        arrive_error arrived
      have parity := count_quote_of_arrive reached
      have stands := eq_standing_of_arrive reached
      exfalso
      rcases next_error refused with ⟨rfl, rfl, -⟩ | ⟨rfl, notBlank, -⟩
      · have between := (fits first second rfl).1 parity
        rw [← stands rfl] at between
        cases between
      · have closed := stands rfl
        rcases first.eq_nil_or_concat with rfl | ⟨first, last, rfl⟩
        · cases closed
        · rw [List.concat_eq_append] at fits parity closed
          rw [standing_concat] at closed
          cases last with
          | blank | escapedQuote | letter => cases closed
          | quote =>
              -- The last quote is an even one, so an odd number is before it.
              have even : (first ++ [Piece.quote]).count .quote % 2 = 0 :=
                parity
              have odd : first.count .quote % 2 = 1 := by
                rw [List.count_append, List.count_singleton_self] at even
                omega
              rw [List.append_assoc] at fits
              obtain ⟨character, blank⟩ := (fits first _ rfl).2 odd piece rfl
              exact notBlank character blank

end Arriving

section Tokens

variable {place : Place} {position : Nat} {cut : List Piece}
  {tokens : List Token}

theorem flatMap_value_extendFirst (character : Char) (nonempty : tokens ≠ []) :
    (extendFirst character tokens).flatMap Token.value =
      character :: tokens.flatMap Token.value := by
  cases tokens with
  | nil => exact absurd rfl nonempty
  | cons token rest => rfl

theorem countP_form_extendFirst (character : Char) :
    (extendFirst character tokens).countP (·.form = .quoted) =
      tokens.countP (·.form = .quoted) := by
  cases tokens with
  | nil => rfl
  | cons token rest => rfl

theorem flatMap_value_of_scan (success : scan place position cut = .ok tokens) :
    tokens.flatMap Token.value = retained place.isQuoted cut := by
  induction cut generalizing place position tokens with
  | nil => cases place <;> cases success <;> rfl
  | cons piece later induction =>
      obtain ⟨next, inner, step, continued, rfl⟩ := exists_of_scan_cons success
      have tail := induction continued
      have extended (inside : next.isInside = true) (character : Char) :
          (extendFirst character inner).flatMap Token.value =
            character :: retained next.isQuoted later := by
        rw [flatMap_value_extendFirst _ (scan_ne_nil inside continued), tail]
      cases place with
      | between =>
          cases piece <;> cases step
          · exact tail
          · exact tail
          · exact extended rfl _
          · exact extended rfl _
      | plain =>
          cases piece <;> cases step
          · exact tail
          · exact extended rfl _
          · exact extended rfl _
      | quoted openedAt =>
          cases piece <;> cases step
          · exact extended rfl _
          · exact tail
          · exact extended rfl _
          · exact extended rfl _
      | closed =>
          cases piece <;> cases step
          exact tail

/-- Two quotes make a quoted argument, of which one may have been read. -/
theorem countP_form_of_scan (success : scan place position cut = .ok tokens) :
    2 * tokens.countP (·.form = .quoted) =
      cut.count .quote + if place.isQuoted then 1 else 0 := by
  induction cut generalizing place position tokens with
  | nil => cases place <;> cases success <;> rfl
  | cons piece later induction =>
      obtain ⟨next, inner, step, continued, rfl⟩ := exists_of_scan_cons success
      have tail := induction continued
      cases place <;> cases piece <;> cases step <;>
        simp only [Place.yield, Place.isQuoted, finish,
          countP_form_extendFirst, List.countP_cons, List.count_cons,
          beq_iff_eq, reduceCtorEq, decide_eq_true_eq, Bool.false_eq_true,
          id_eq, if_true, if_false] at tail ⊢ <;>
        omega

end Tokens

section Pairs

variable {text : List Char}

theorem exists_head?_iff :
    (text = [] ∨ ∃ first, text.head? = some first ∧
        Text.isWhiteSpace first = true) ↔ Ends (pieces text) := by
  rw [ends_pieces_iff]
  cases text with
  | nil => simp
  | cons first rest => simp

theorem pieces_of_site {site : Site} (member : site ∈ sites text)
    (bare : site.isBareQuote = true) :
    pieces text = pieces site.before ++ .quote :: pieces site.after := by
  rw [Site.isBareQuote, Bool.and_eq_true, decide_eq_true_iff,
    decide_eq_true_iff] at bare
  rw [mem_sites_iff.mp member, bare.1,
    pieces_append (.of_getLast?_ne _ bare.2), pieces_quote_cons]

/-- The bare quotes of a text come in pairs if each of its quotes fits where it
stands and their number is even. -/
theorem paired_iff :
    Paired text ↔ Fits (pieces text) ∧ (pieces text).count .quote % 2 = 0 := by
  constructor
  · intro paired
    refine ⟨fun first second cut => ?_, ?_⟩
    · obtain ⟨before, right, rfl, apart, rfl, quoteCut⟩ := pieces_split cut
      obtain ⟨after, rfl, -, -, rfl⟩ := pieces_eq_cons quoteCut
      let site : Site := ⟨before, '"', after⟩
      have member : site ∈ sites (before ++ '"' :: after) :=
        mem_sites_iff.mpr rfl
      have bare : site.isBareQuote = true := isBareQuote_of_separable apart
      rw [← bareQuotes_eq_count, standing_eq_between_iff, ← exists_head?_iff]
      constructor
      · intro even
        refine paired.opening site member bare ?_
        rw [Site.number, Nat.add_mod, even]
      · intro odd
        refine paired.closing site member bare ?_
        rw [Site.number, Nat.add_mod, odd]
    · rw [← bareQuotes_eq_count]
      exact paired.even
  · rintro ⟨fits, even⟩
    refine ⟨?_, fun site member bare odd => ?_, fun site member bare even => ?_⟩
    · rw [bareQuotes_eq_count]
      exact even
    · have cut := pieces_of_site member bare
      rw [Site.number, bareQuotes_eq_count] at odd
      rw [← standing_eq_between_iff]
      exact (fits _ _ cut).1 (by omega)
    · have cut := pieces_of_site member bare
      rw [Site.number, bareQuotes_eq_count] at even
      rw [exists_head?_iff]
      exact (fits _ _ cut).2 (by omega)

theorem accepted_iff_paired {input : String} :
    Accepted input ↔ Paired input.toList := by
  rw [paired_iff]
  constructor
  · intro accepted
    have arrived := accepted_iff.mp accepted
    have unquoted : (standing (pieces input.toList)).isQuoted = false := by
      cases place : standing (pieces input.toList) with
      | quoted openedAt => exact absurd place (standing_ne_quoted _ openedAt)
      | between | plain | closed => rfl
    have parity := count_quote_of_arrive arrived
    rw [unquoted] at parity
    exact ⟨fits_of_arrive arrived, parity⟩
  · rintro ⟨fits, even⟩
    obtain ⟨place, arrived⟩ := arrive_of_fits fits
    have parity := count_quote_of_arrive arrived
    have unquoted : place.isQuoted = false := by
      cases quoted : place.isQuoted with
      | false => rfl
      | true => simp [quoted, even] at parity
    rw [accepted_iff, arrived, eq_standing_of_arrive arrived unquoted]

end Pairs

/-- A text is accepted exactly if its bare quotes come in pairs.  Then its
arguments say what remains of it without these quotes, the backslashes before
quotes and the white space outside of quotes, and half as many of them as there
are bare quotes are written in quotes. -/
theorem tokenize_quote_parity (input : String) :
    (Accepted input ↔ Paired input.toList) ∧
      ∀ arguments, tokenize input = .ok arguments →
        String.join arguments = String.ofList (remaining input.toList) ∧
        (∃ found, DerivesTokens input.toList found ∧
          arguments = found.map fun token => String.ofList token.value) ∧
        ∀ found, DerivesTokens input.toList found →
          2 * found.countP (·.form = .quoted) = bareQuotes input.toList := by
  refine ⟨accepted_iff_paired, fun arguments success => ?_⟩
  obtain ⟨found, scanned, rfl⟩ := tokenize_eq_ok_iff.mp success
  refine ⟨?_, ⟨found, tokens_eq_ok_iff.mp scanned, rfl⟩, ?_⟩
  · calc
      String.join _ = String.ofList (found.flatMap Token.value) := by
        rw [← String.toList_inj, String.toList_join, String.toList_ofList,
          List.flatMap_map]
        simp only [String.toList_ofList]
      _ = _ := by
        rw [flatMap_value_of_scan scanned, remaining_eq_retained]
        rfl
  · intro other derived
    have written := countP_form_of_scan (tokens_eq_ok_iff.mpr derived)
    rw [bareQuotes_eq_count]
    exact written

/-- A plain argument with an escaped quote, a quoted one with white space and
another escaped quote, and an empty one. -/
theorem tokenize_quote_parity_mixed :
    tokenize "\\\"b\t\" c\\\" \" \"\"" = .ok ["\"b", " c\" ", ""] ∧
      Paired "\\\"b\t\" c\\\" \" \"\"".toList ∧
      String.join ["\"b", " c\" ", ""] =
        String.ofList (remaining "\\\"b\t\" c\\\" \" \"\"".toList) ∧
      ∀ found, DerivesTokens "\\\"b\t\" c\\\" \" \"\"".toList found →
        2 * found.countP (·.form = .quoted) = 4 := by
  have success : tokenize "\\\"b\t\" c\\\" \" \"\"" =
      .ok ["\"b", " c\" ", ""] := by
    rfl
  have quotes : bareQuotes "\\\"b\t\" c\\\" \" \"\"".toList = 4 := by decide
  obtain ⟨accepted, reads⟩ := tokenize_quote_parity "\\\"b\t\" c\\\" \" \"\""
  obtain ⟨joined, -, halved⟩ := reads _ success
  rw [quotes] at halved
  exact ⟨success, accepted.mp ⟨_, success⟩, joined, halved⟩

end LineShell.Argument
