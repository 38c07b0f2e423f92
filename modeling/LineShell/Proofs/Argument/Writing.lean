import LineShell.Proofs.Argument.Grammar

/-!
# Writing arguments

A `Layout` is a way of writing down arguments: each in one of the forms that
can express it, with white space around.  Backslashes are not escaped, so no
form expresses a value that holds white space and ends with a backslash; all
other values can be written, and the scanner reads back what was written.
-/

namespace LineShell.Argument

/-- A value with a backslash before every double quote. -/
def escaped (value : List Char) : List Char :=
  value.flatMap fun character =>
    if character = '"' then ['\\', '"'] else [character]

/-- The values that a form can express. -/
def Form.Expresses : Form → List Char → Prop
  | .plain, value =>
      value ≠ [] ∧ ∀ character ∈ value, Text.isWhiteSpace character = false
  | .quoted, value => value.getLast? ≠ some '\\'

def Token.written : Token → List Char
  | ⟨.plain, value⟩ => escaped value
  | ⟨.quoted, value⟩ => '"' :: (escaped value ++ ['"'])

/-- Tokens with white space before the first and after each of them. -/
structure Layout where
  before : List Char
  items : List (Token × List Char)
  blankBefore : Blank before
  blankAfter : ∀ item ∈ items, Blank item.2
  /-- Only the last token may have nothing after it. -/
  separated : ∀ item ∈ items.dropLast, item.2 ≠ []
  expressed : ∀ item ∈ items, item.1.form.Expresses item.1.value

namespace Layout

def text (layout : Layout) : String :=
  String.ofList (layout.before ++
    layout.items.flatMap fun item => item.1.written ++ item.2)

def arguments (layout : Layout) : List String :=
  layout.items.map fun item => String.ofList item.1.value

end Layout

/-- A value that no form expresses. -/
def Inexpressible (value : List Char) : Prop :=
  (∃ character ∈ value, Text.isWhiteSpace character = true) ∧
    value.getLast? = some '\\'

theorem exists_expresses_iff {value : List Char} :
    (∃ form : Form, form.Expresses value) ↔ ¬Inexpressible value := by
  constructor
  · intro expressible inexpressible
    obtain ⟨form, expressed⟩ := expressible
    obtain ⟨⟨character, member, white⟩, final⟩ := inexpressible
    cases form with
    | plain =>
        have notWhite := expressed.2 character member
        simp [notWhite] at white
    | quoted => exact expressed final
  · intro expressible
    by_cases final : value.getLast? = some '\\'
    · refine ⟨.plain, ?_, ?_⟩
      · intro empty
        simp [empty] at final
      · intro character member
        rw [← Bool.not_eq_true]
        intro white
        exact expressible ⟨⟨character, member, white⟩, final⟩
    · exact ⟨.quoted, final⟩

theorem escaped_cons_quote (value : List Char) :
    escaped ('"' :: value) = '\\' :: '"' :: escaped value := rfl

theorem escaped_cons {character : Char} (value : List Char)
    (different : character ≠ '"') :
    escaped (character :: value) = character :: escaped value := by
  simp [escaped, different]

theorem head?_escaped_ne (value : List Char) :
    (escaped value).head? ≠ some '"' := by
  cases value with
  | nil => simp [escaped]
  | cons character value =>
      by_cases quote : character = '"'
      · subst quote
        simp [escaped_cons_quote]
      · simp [escaped_cons value quote, quote]

/-- Escaping a value spells it, unless its last backslash would take the
closing quote for itself. -/
theorem units_escaped {form : Form} {value : List Char}
    (admitted : ∀ character ∈ value,
      character = '"' ∨ form.admits character = true)
    (separable : Separable value form.closing) :
    Units form (escaped value) value := by
  induction value with
  | nil => exact .nil
  | cons character value induction =>
      have later := induction
        (fun other member => admitted other (List.mem_cons_of_mem _ member))
        separable.of_cons
      by_cases quote : character = '"'
      · subst quote
        exact .escapedQuote later
      · have self := (admitted character List.mem_cons_self).resolve_left quote
        rw [escaped_cons value quote]
        refine .single self ?_ later
        intro escapes
        obtain ⟨rfl, next⟩ := escapes
        cases value with
        | nil => exact separable rfl next
        | cons head value =>
            have nonempty : (escaped (head :: value)).head?.isSome := by
              unfold escaped
              rw [List.flatMap_cons]
              split <;> simp
            obtain ⟨first, found⟩ := Option.isSome_iff_exists.mp nonempty
            rw [List.head?_append, found, Option.some_or, ← found] at next
            exact head?_escaped_ne _ next

theorem spells_written {token : Token}
    (expressed : token.form.Expresses token.value) :
    Spells token.written token := by
  obtain ⟨form, value⟩ := token
  cases form with
  | plain =>
      have admitted : ∀ character ∈ value,
          character = '"' ∨ Form.plain.admits character = true := by
        intro character member
        have notWhite := expressed.2 character member
        by_cases quote : character = '"'
        · exact .inl quote
        · exact .inr (by simp [Form.admits, quote, notWhite])
      refine .plain ?_ (head?_escaped_ne value)
        (units_escaped admitted (.nil_right value))
      intro empty
      cases value with
      | nil => exact expressed.1 rfl
      | cons character value =>
          simp only [Token.written, escaped, List.flatMap_cons] at empty
          split at empty <;> simp at empty
  | quoted =>
      refine .quoted (units_escaped ?_ (.of_getLast?_ne _ expressed))
      intro character _
      by_cases quote : character = '"'
      · exact .inl quote
      · exact .inr (by simp [Form.admits, quote])

theorem Units.admitted {form : Form} {text value : List Char}
    (units : Units form text value) :
    ∀ character ∈ value, character = '"' ∨ form.admits character = true := by
  induction units with
  | nil => simp
  | escapedQuote units induction => simpa using induction
  | single admitted single units induction =>
      exact List.forall_mem_cons.mpr ⟨.inr admitted, induction⟩

theorem Units.separable_value {form : Form} {text value : List Char}
    (units : Units form text value) : Separable value form.closing := by
  induction units with
  | nil => exact .nil_left _
  | @escapedQuote text value units induction =>
      have outer : Separable ['"'] (value ++ form.closing) :=
        .of_getLast?_ne _ (by simp)
      exact outer.append induction
  | @single character text value admitted single units induction =>
      intro final
      cases units with
      | nil => exact separable_singleton_iff.mpr single final
      | escapedQuote | single => exact induction (by simpa using final)

theorem Spells.expressed {text : List Char} {token : Token}
    (spelled : Spells text token) :
    token.form.Expresses token.value := by
  cases spelled with
  | @plain _ value notEmpty first units =>
      constructor
      · cases units with
        | nil => exact absurd rfl notEmpty
        | escapedQuote | single => exact List.cons_ne_nil _ _
      · intro character member
        rcases units.admitted character member with rfl | admitted
        · exact Text.isWhiteSpace_quote
        · exact Form.notWhite_of_admits admitted
  | quoted units => exact fun final => units.separable_value final rfl

theorem Separated.expressed {text : List Char} {tokens : List Token}
    (separated : Separated text tokens) :
    ∀ token ∈ tokens, token.form.Expresses token.value := by
  induction separated with
  | one spelled => simpa using spelled.expressed
  | more spelled _ _ _ induction =>
      exact List.forall_mem_cons.mpr ⟨spelled.expressed, induction⟩

theorem expressed_of_tokens {text : List Char} {found : List Token}
    (success : tokens text = .ok found) :
    ∀ token ∈ found, token.form.Expresses token.value := by
  cases tokens_eq_ok_iff.mp success with
  | blank => simp
  | arguments _ separated _ => exact separated.expressed

theorem DerivesTokens.blank_append {gap text : List Char}
    {tokens : List Token} (blank : Blank gap)
    (derived : DerivesTokens text tokens) :
    DerivesTokens (gap ++ text) tokens := by
  induction gap with
  | nil => exact derived
  | cons character gap induction =>
      exact (induction blank.tail).blank_cons
        (blank character List.mem_cons_self)

theorem derives_written {items : List (Token × List Char)}
    (blankAfter : ∀ item ∈ items, Blank item.2)
    (separated : ∀ item ∈ items.dropLast, item.2 ≠ [])
    (expressed : ∀ item ∈ items, item.1.form.Expresses item.1.value) :
    DerivesTokens (items.flatMap fun item => item.1.written ++ item.2)
      (items.map Prod.fst) := by
  induction items with
  | nil => exact .blank (by simp [Blank])
  | cons item items induction =>
      have blank := blankAfter item List.mem_cons_self
      have later := induction
        (fun other member => blankAfter other (List.mem_cons_of_mem _ member))
        (fun other member => separated other (by
          cases items with
          | nil => simp at member
          | cons next items => exact List.mem_cons_of_mem _ member))
        (fun other member => expressed other (List.mem_cons_of_mem _ member))
      have ends : Ends (pieces (item.2 ++
          items.flatMap fun item => item.1.written ++ item.2)) := by
        rw [ends_pieces_iff]
        intro character first
        cases gap : item.2 with
        | cons head gapRest =>
            rw [gap, List.cons_append, List.head?_cons, Option.mem_some]
              at first
            exact first ▸ blank head (by rw [gap]; exact List.mem_cons_self)
        | nil =>
            cases items with
            | nil => simp [gap] at first
            | cons next items =>
                exact absurd gap (separated item List.mem_cons_self)
      rw [List.flatMap_cons, List.append_assoc, List.map_cons]
      exact .spelled_append (spells_written (expressed item
        List.mem_cons_self)) ends (later.blank_append blank)

namespace Layout

theorem tokenize_text (layout : Layout) :
    tokenize layout.text = .ok layout.arguments := by
  refine tokenize_eq_ok_iff.mpr ⟨layout.items.map Prod.fst, ?_, ?_⟩
  · rw [text, String.toList_ofList, tokens_eq_ok_iff]
    exact .blank_append layout.blankBefore
      (derives_written layout.blankAfter layout.separated layout.expressed)
  · simp [arguments]

def ofTokens (found : List Token)
    (expressed : ∀ token ∈ found, token.form.Expresses token.value) :
    Layout where
  before := []
  items := found.map fun token => (token, [' '])
  blankBefore := by simp [Blank]
  blankAfter := by simp [Blank, Text.isWhiteSpace_space]
  separated := by
    intro item member
    obtain ⟨token, -, rfl⟩ := List.mem_map.mp (List.dropLast_subset _ member)
    simp
  expressed := by simpa using expressed

theorem arguments_ofTokens (found : List Token)
    (expressed : ∀ token ∈ found, token.form.Expresses token.value) :
    (ofTokens found expressed).arguments =
      found.map fun token => String.ofList token.value := by
  simp [ofTokens, arguments]

end Layout

theorem exists_layout {values : List String}
    (expressible : ∀ value ∈ values, ¬Inexpressible value.toList) :
    ∃ layout : Layout, layout.arguments = values := by
  have chosen : ∃ found : List Token,
      (∀ token ∈ found, token.form.Expresses token.value) ∧
        found.map (fun token => String.ofList token.value) = values := by
    induction values with
    | nil => exact ⟨[], by simp, rfl⟩
    | cons value values induction =>
        obtain ⟨form, expressed⟩ :=
          exists_expresses_iff.mpr (expressible value List.mem_cons_self)
        obtain ⟨found, later, rfl⟩ := induction
          (fun other member => expressible other
            (List.mem_cons_of_mem _ member))
        refine ⟨⟨form, value.toList⟩ :: found,
          List.forall_mem_cons.mpr ⟨expressed, later⟩, ?_⟩
        simp
  obtain ⟨found, expressed, rfl⟩ := chosen
  exact ⟨.ofTokens found expressed, Layout.arguments_ofTokens found expressed⟩

theorem expressible_of_tokenize {input : String} {values : List String}
    (success : tokenize input = .ok values) :
    ∀ value ∈ values, ¬Inexpressible value.toList := by
  obtain ⟨found, scanned, rfl⟩ := tokenize_eq_ok_iff.mp success
  intro value member
  obtain ⟨token, tokenMember, rfl⟩ := List.mem_map.mp member
  rw [String.toList_ofList]
  exact exists_expresses_iff.mp
    ⟨token.form, expressed_of_tokens scanned token tokenMember⟩

/-- The scanner yields exactly the lists of expressible values.  It reads back
every way of writing them down, so that writing down what was read and reading
it again changes nothing. -/
theorem tokenize_image_and_round_trip :
    (∀ values : List String, (∃ input, tokenize input = .ok values) ↔
      ∀ value ∈ values, ¬Inexpressible value.toList) ∧
    (∀ values : List String,
      (∀ value ∈ values, ¬Inexpressible value.toList) →
        ∃ layout : Layout, layout.arguments = values) ∧
    (∀ layout : Layout, tokenize layout.text = .ok layout.arguments) ∧
    ∀ (input : String) (values : List String),
      tokenize input = .ok values →
        (∃ layout : Layout, layout.arguments = values) ∧
          ∀ layout : Layout, layout.arguments = values →
            tokenize layout.text = tokenize input := by
  refine ⟨?_, fun values => exists_layout, Layout.tokenize_text, ?_⟩
  · intro values
    constructor
    · intro image
      obtain ⟨input, success⟩ := image
      exact expressible_of_tokenize success
    · intro expressible
      obtain ⟨layout, rfl⟩ := exists_layout expressible
      exact ⟨layout.text, layout.tokenize_text⟩
  · intro input values success
    constructor
    · exact exists_layout (expressible_of_tokenize success)
    · intro layout same
      rw [layout.tokenize_text, same, success]

theorem tokenize_image_and_round_trip_mixed :
    tokenize "\"a b\" c\\\t\\\"d\\\"" = .ok ["a b", "c\\", "\"d\""] ∧
      (∀ value ∈ ["a b", "c\\", "\"d\""], ¬Inexpressible value.toList) ∧
      (∃ layout : Layout, layout.arguments = ["a b", "c\\", "\"d\""]) ∧
      ∀ layout : Layout, layout.arguments = ["a b", "c\\", "\"d\""] →
        tokenize layout.text = tokenize "\"a b\" c\\\t\\\"d\\\"" := by
  obtain ⟨image, -, -, again⟩ := tokenize_image_and_round_trip
  have success : tokenize "\"a b\" c\\\t\\\"d\\\"" =
      .ok ["a b", "c\\", "\"d\""] := rfl
  exact ⟨success, (image _).mp ⟨_, success⟩, again _ _ success⟩

end LineShell.Argument
