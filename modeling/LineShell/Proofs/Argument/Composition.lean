import LineShell.Proofs.Argument.Faults

/-!
# Argument text that goes on

What the scanner makes of a text that is continued follows from what it makes
of the parts.  After accepted text and white space it starts anew, so the
arguments of the parts come one after the other and a fault of the second part
is found at a later byte.  A fault of the first part stays what it is, unless
it is a quote without its end, which the continuation may close.
-/

namespace LineShell.Argument

/-- The same error at a byte position that lies further on. -/
def TextError.shift (distance : Nat) : TextError → TextError
  | .unterminatedQuote position => .unterminatedQuote (position + distance)
  | .unescapedQuote position => .unescapedQuote (position + distance)
  | .trailingCharacters position => .trailingCharacters (position + distance)

theorem TextError.position_shift (error : TextError) (distance : Nat) :
    (error.shift distance).position = error.position + distance := by
  cases error <;> rfl

/-- The same place in a text that has more in front of it. -/
def Place.shift (distance : Nat) : Place → Place
  | .between => .between
  | .plain => .plain
  | .quoted openedAt => .quoted (openedAt + distance)
  | .closed => .closed

section Shift

variable (place : Place) (position distance : Nat) (piece : Piece)

theorem next_shift :
    (place.shift distance).next (position + distance) piece =
      ((place.next position piece).map (Place.shift distance)).mapError
        (TextError.shift distance) := by
  cases place <;> cases piece <;> rfl

theorem yield_shift : (place.shift distance).yield piece = place.yield piece := by
  cases place <;> cases piece <;> rfl

/-- A scan depends on byte positions only in what it says is wrong. -/
theorem scan_shift (cut : List Piece) :
    scan (place.shift distance) (position + distance) cut =
      (scan place position cut).mapError (TextError.shift distance) := by
  induction cut generalizing place position with
  | nil => cases place <;> rfl
  | cons piece later induction =>
      rw [scan_cons, scan_cons, next_shift, yield_shift]
      cases place.next position piece with
      | error error => rfl
      | ok next =>
          have continued := induction next (position + piece.width)
          rw [Nat.add_right_comm] at continued
          simp only [Except.map, Except.mapError, Except.bind, continued]
          cases scan next (position + piece.width) later <;> rfl

end Shift

section Continuations

variable {position : Nat} {cut later : List Piece} {found : List Token}

theorem map_append_map {function : List Token → List Token}
    (apart : ∀ more, function (found ++ more) = function found ++ more)
    (result : Except TextError (List Token)) :
    (result.map (found ++ ·)).map function =
      result.map (function found ++ ·) := by
  cases result with
  | error error => rfl
  | ok more => exact congrArg Except.ok (apart more)

theorem map_nil_append (result : Except TextError (List Token)) :
    result.map ([] ++ ·) = result := by
  cases result <;> rfl

/-- A scan that succeeds goes on between arguments with what follows, if it has
come there or what follows ends the argument that it is in. -/
theorem scan_append {place : Place}
    (success : scan place position cut = .ok found)
    (follows : Ends later ∨ arrive place position cut = .ok .between) :
    scan place position (cut ++ later) =
      (scan .between (position + extent cut) later).map (found ++ ·) := by
  induction cut generalizing place position found with
  | nil =>
      cases place with
      | between =>
          cases success
          exact (map_nil_append _).symm
      | plain =>
          cases success
          rcases follows with ends | arrived
          · exact scan_plain_of_ends ends
          · cases arrived
      | quoted openedAt => cases success
      | closed =>
          cases success
          rcases follows with ends | arrived
          · exact (scan_closed_of_ends ends).trans (map_nil_append _).symm
          · cases arrived
  | cons piece cut induction =>
      obtain ⟨next, inner, step, continued, rfl⟩ := exists_of_scan_cons success
      rw [arrive, step] at follows
      calc
        scan place position (piece :: (cut ++ later)) =
            (scan next (position + piece.width) (cut ++ later)).map
              (place.yield piece) := by
          rw [scan_cons, step]
          rfl
        _ = ((scan .between (position + piece.width + extent cut) later).map
              (inner ++ ·)).map (place.yield piece) := by
          rw [induction continued follows]
        _ = _ := by
          rw [map_append_map (yield_append step continued), extent,
            Nat.add_assoc]

end Continuations

section Texts

variable {first gap before : List Char} {found : List Token}

theorem separable_of_ends {right : List Char} (left : List Char)
    (ends : Ends (pieces right)) : Separable left right := by
  refine .of_head?_ne left fun quote => ?_
  have white := ends_pieces_iff.mp ends '"' quote
  exact absurd white (by decide)

theorem separable_of_standing {left : List Char} (right : List Char)
    (between : standing (pieces left) = .between) : Separable left right := by
  refine .of_getLast?_ne right fun backslash => ?_
  rcases standing_eq_between_iff.mp between with rfl | ⟨final, last, white⟩
  · cases backslash
  · rw [backslash, Option.some.injEq] at last
    rw [← last] at white
    exact absurd white (by decide)

theorem ends_gap (blank : Blank gap) (nonempty : gap ≠ [])
    (second : List Char) : Ends (pieces (gap ++ second)) := by
  rw [ends_pieces_iff]
  obtain ⟨character, rest, rfl⟩ := List.exists_cons_of_ne_nil nonempty
  intro head isHead
  rw [List.cons_append, List.head?_cons, Option.mem_some] at isHead
  rw [← isHead]
  exact blank character List.mem_cons_self

theorem scan_between_eq_shift (distance : Nat) (text : List Char) :
    scan .between distance (pieces text) =
      (tokens text).mapError (TextError.shift distance) := by
  have later := scan_shift .between 0 distance (pieces text)
  rwa [Place.shift, Nat.zero_add] at later

/-- Text in which an argument may end does not change what was read before
it. -/
theorem tokens_append_of_ends (success : tokens first = .ok found)
    {second : List Char} (ends : Ends (pieces second)) :
    tokens (first ++ second) =
      (scan .between (Text.byteSize first) (pieces second)).map
        (found ++ ·) := by
  rw [tokens, pieces_append (separable_of_ends first ends),
    scan_append success (.inl ends), extent_pieces, Nat.zero_add]

/-- After accepted text and white space the scanner starts anew. -/
theorem tokens_append (success : tokens first = .ok found)
    (blank : Blank gap) (nonempty : gap ≠ []) (second : List Char) :
    tokens (first ++ gap ++ second) =
      ((tokens second).mapError
        (TextError.shift (Text.byteSize (first ++ gap)))).map (found ++ ·) := by
  calc
    tokens (first ++ gap ++ second) =
        (scan .between (Text.byteSize first)
          (pieces (gap ++ second))).map (found ++ ·) := by
      rw [List.append_assoc]
      exact tokens_append_of_ends success (ends_gap blank nonempty second)
    _ = (scan .between (Text.byteSize (first ++ gap))
          (pieces second)).map (found ++ ·) := by
      rw [scan_gap blank, Text.byteSize_append]
    _ = _ := by
      rw [scan_between_eq_shift]

theorem tokens_append_quote (success : tokens before = .ok found)
    (arrived : arrive .between 0 (pieces before) = .ok .between)
    (rest : List Char) :
    tokens (before ++ '"' :: rest) =
      ((scan (.quoted 0) 1 (pieces rest)).mapError
        (TextError.shift (Text.byteSize before))).map (found ++ ·) := by
  have between := (accepted_of_arrive arrived nofun).2
  have later := scan_shift (.quoted 0) 1 (Text.byteSize before) (pieces rest)
  rw [Place.shift, Nat.zero_add, Nat.add_comm 1] at later
  calc
    tokens (before ++ '"' :: rest) =
        scan .between 0 (pieces before ++ .quote :: pieces rest) := by
      rw [tokens, pieces_append (separable_of_standing _ between),
        pieces_quote_cons]
    _ = (scan .between (Text.byteSize before)
          (.quote :: pieces rest)).map (found ++ ·) := by
      rw [scan_append success (.inr arrived), extent_pieces, Nat.zero_add]
    _ = _ := by
      rw [← later]
      rfl

end Texts

section Composition

variable {first : String} {arguments : List String}

theorem tokenize_of_tokens_append {whole rest : String}
    {found : List Token} {distance : Nat}
    (continued : tokens whole.toList =
      ((tokens rest.toList).mapError (TextError.shift distance)).map
        (found ++ ·)) :
    tokenize whole =
      ((tokenize rest).mapError (TextError.shift distance)).map
        (found.map (fun token => String.ofList token.value) ++ ·) := by
  unfold tokenize
  rw [continued]
  cases tokens rest.toList with
  | error error => rfl
  | ok more => simp [Except.mapError, Except.map]

theorem tokenize_append_of_ends (success : tokenize first = .ok arguments)
    {second : String} (ends : Ends (pieces second.toList)) :
    tokenize (first ++ second) =
      ((tokenize second).mapError (TextError.shift first.utf8ByteSize)).map
        (arguments ++ ·) := by
  obtain ⟨found, scanned, rfl⟩ := tokenize_eq_ok_iff.mp success
  apply tokenize_of_tokens_append
  rw [String.toList_append, tokens_append_of_ends scanned ends,
    scan_between_eq_shift, Text.byteSize_toList]

theorem tokenize_append {gap : String} (success : tokenize first = .ok arguments)
    (blank : Blank gap.toList) (nonempty : gap ≠ "") (second : String) :
    tokenize (first ++ gap ++ second) =
      ((tokenize second).mapError
        (TextError.shift (first ++ gap).utf8ByteSize)).map (arguments ++ ·) := by
  obtain ⟨found, scanned, rfl⟩ := tokenize_eq_ok_iff.mp success
  have notNil : gap.toList ≠ [] := by
    rwa [ne_eq, String.toList_eq_nil_iff]
  apply tokenize_of_tokens_append
  have joined := tokens_append scanned blank notNil second.toList
  rwa [← String.toList_append, ← String.toList_append,
    Text.byteSize_toList] at joined

theorem Occurs.append {position : Nat} {before after : String}
    {character : Char} (occurs : Occurs first position before character after)
    (rest : String) :
    Occurs (first ++ rest) position before character (after ++ rest) where
  whole := by
    rw [occurs.whole, String.append_assoc]
  size := occurs.size

theorem Fault.append {error : TextError} (fault : Fault first error)
    (closed : ∀ position, error ≠ .unterminatedQuote position)
    (rest : String) : Fault (first ++ rest) error := by
  cases error with
  | unterminatedQuote position => exact absurd rfl (closed position)
  | unescapedQuote position =>
      obtain ⟨before, after, occurs, accepted, final, bare⟩ := fault
      exact ⟨before, _, occurs.append rest, accepted, final, bare⟩
  | trailingCharacters position =>
      obtain ⟨before, character, after, occurs, notWhite, accepted, bare⟩ :=
        fault
      exact ⟨before, character, _, occurs.append rest, notWhite, accepted, bare⟩

/-- What follows an open quote makes at least one more argument, or there is
something wrong at the quote or behind it. -/
theorem tokenize_append_of_open {position : Nat}
    (failure : tokenize first = .error (.unterminatedQuote position)) :
    ∃ before after arguments, Occurs first position before '"' after ∧
      tokenize before = .ok arguments ∧
      ∀ rest,
        (∃ error, tokenize (first ++ rest) = .error error ∧
          position ≤ error.position) ∨
        ∃ more, more ≠ [] ∧
          tokenize (first ++ rest) = .ok (arguments ++ more) := by
  obtain ⟨before, after, occurs, start, accepted, -⟩ :=
    fault_of_tokenize failure
  have between : standing (pieces before.toList) = .between := by
    rw [standing_eq_between_iff]
    exact start.imp_left fun empty => by simp [empty]
  have arrived := accepted_iff.mp accepted
  rw [between] at arrived
  obtain ⟨arguments, success⟩ := accepted
  refine ⟨before, after, arguments, occurs, success, fun rest => ?_⟩
  obtain ⟨found, scanned, rfl⟩ := tokenize_eq_ok_iff.mp success
  obtain ⟨whole, size⟩ := occurs_iff.mp occurs
  have continued := tokens_append_quote scanned arrived
    (after.toList ++ rest.toList)
  rw [size] at continued
  unfold tokenize
  rw [String.toList_append, whole, List.append_assoc, List.cons_append,
    continued]
  cases inside : scan (.quoted 0) 1 (pieces (after.toList ++ rest.toList)) with
  | error error =>
      refine .inl ⟨error.shift position, rfl, ?_⟩
      rw [TextError.position_shift]
      exact Nat.le_add_left position error.position
  | ok more =>
      have nonempty := scan_ne_nil rfl inside
      refine .inr ⟨more.map fun token => String.ofList token.value, ?_, ?_⟩
      · simpa using nonempty
      · simp [Except.mapError, Except.map]

end Composition

/-- Text after accepted text and white space is read as if it stood alone, with
its faults as many bytes further on.  A fault of a beginning stays, unless it is
an open quote; then what is wrong lies at the quote or behind it, or at least
one argument joins those in front of it. -/
theorem tokenize_continued (first : String) :
    (∀ arguments, tokenize first = .ok arguments →
      ∀ gap, gap ≠ "" → Blank gap.toList → ∀ second,
        (∀ more, tokenize second = .ok more →
          tokenize (first ++ gap ++ second) = .ok (arguments ++ more)) ∧
        ∀ error, tokenize second = .error error →
          tokenize (first ++ gap ++ second) =
            .error (error.shift (first ++ gap).utf8ByteSize)) ∧
      (∀ position, tokenize first = .error (.unescapedQuote position) →
        ∀ rest, tokenize (first ++ rest) =
          .error (.unescapedQuote position)) ∧
      (∀ position, tokenize first = .error (.trailingCharacters position) →
        ∀ rest, tokenize (first ++ rest) =
          .error (.trailingCharacters position)) ∧
      ∀ position, tokenize first = .error (.unterminatedQuote position) →
        ∃ before after arguments, Occurs first position before '"' after ∧
          tokenize before = .ok arguments ∧
          ∀ rest,
            (∃ error, tokenize (first ++ rest) = .error error ∧
              position ≤ error.position) ∨
            ∃ more, more ≠ [] ∧
              tokenize (first ++ rest) = .ok (arguments ++ more) := by
  refine ⟨?_, ?_, ?_, fun position => tokenize_append_of_open⟩
  · intro arguments success gap nonempty blank second
    rw [tokenize_append success blank nonempty second]
    constructor
    · intro more secondSuccess
      rw [secondSuccess]
      rfl
    · intro error secondFailure
      rw [secondFailure]
      rfl
  · intro position failure rest
    exact tokenize_of_fault ((fault_of_tokenize failure).append nofun rest)
  · intro position failure rest
    exact tokenize_of_fault ((fault_of_tokenize failure).append nofun rest)

/-- Two bytes of text and three of white space put an open quote at byte five.
A quote inside an argument and a backslash behind a closing quote stay wrong
whatever follows, and the end of an open quote brings its argument. -/
theorem tokenize_continued_wideGap :
    tokenize "x\\" = .ok ["x\\"] ∧
      tokenize "\"y" = .error (.unterminatedQuote 0) ∧
      tokenize ("x\\" ++ "\u2003" ++ "\"y") = .error (.unterminatedQuote 5) ∧
      tokenize ("a\"" ++ "\"") = .error (.unescapedQuote 1) ∧
      tokenize ("\"a\"\\" ++ "\"") = .error (.trailingCharacters 3) ∧
      ∃ before after arguments more, Occurs "p \"q" 2 before '"' after ∧
        tokenize before = .ok arguments ∧ more ≠ [] ∧
        ["p", "q r"] = arguments ++ more := by
  have success : tokenize "x\\" = .ok ["x\\"] := rfl
  have failure : tokenize "\"y" = .error (.unterminatedQuote 0) := rfl
  have blank : Blank "\u2003".toList := by
    intro character member
    rw [List.mem_singleton.mp member]
    decide
  obtain ⟨later, -, -, -⟩ := tokenize_continued "x\\"
  obtain ⟨-, unescaped, -, -⟩ := tokenize_continued "a\""
  obtain ⟨-, -, trailing, -⟩ := tokenize_continued "\"a\"\\"
  obtain ⟨-, -, -, opened⟩ := tokenize_continued "p \"q"
  refine ⟨success, failure, ?_, unescaped 1 rfl "\"", trailing 3 rfl "\"", ?_⟩
  · exact (later _ success "\u2003" (by decide) blank "\"y").2 _ failure
  · obtain ⟨before, after, arguments, occurs, accepted, continued⟩ :=
      opened 2 rfl
    have closed : tokenize ("p \"q" ++ " r\"") = .ok ["p", "q r"] := rfl
    rcases continued " r\"" with ⟨error, failed, -⟩ | ⟨more, nonempty, joined⟩
    · rw [closed] at failed
      cases failed
    · rw [closed, Except.ok.injEq] at joined
      exact ⟨before, after, arguments, more, occurs, accepted, nonempty, joined⟩

end LineShell.Argument
