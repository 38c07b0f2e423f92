import LineShell.Text.Utf8

/-!
# Where encoded text may be divided

The bytes of a character are one that can come first and others that cannot.
So the bytes of a text can be divided in front of every byte that can come
first, and what is on either side of the cut spells a text of its own
(`encode_eq_append`).  Text that is added to bytes therefore neither hides nor
mends what is wrong with them (`decode?_append_encode`).
-/

namespace LineShell.Text

theorem encode_eq_flatMap (text : String) :
    encode text = text.toList.flatMap String.utf8EncodeChar := by
  unfold encode
  rw [← String.utf8Encode_toList, List.utf8Encode]
  simp

/-- Bytes that a text or nothing may start with. -/
def Starts (bytes : Bytes) : Prop :=
  ∀ byte ∈ bytes.head?, byte.IsUTF8FirstByte

theorem starts_utf8EncodeChar (character : Char) (rest : Bytes) :
    Starts (String.utf8EncodeChar character ++ rest) := by
  obtain ⟨byte, later, bytes⟩ :=
    List.exists_cons_of_ne_nil (@String.utf8EncodeChar_ne_nil character)
  have first : byte.IsUTF8FirstByte := by
    have head := @UInt8.isUTF8FirstByte_getElem_zero_utf8EncodeChar character
    simpa [bytes] using head
  intro other member
  rw [bytes, List.cons_append, List.head?_cons, Option.mem_some] at member
  exact member ▸ first

theorem starts_encode (text : String) : Starts (encode text) := by
  cases characters : text.toList with
  | nil =>
      rw [encode_eq_flatMap, characters]
      intro byte member
      cases member
  | cons character rest =>
      rw [encode_eq_flatMap, characters, List.flatMap_cons]
      exact starts_utf8EncodeChar character _

/-- Bytes are divided between characters wherever the second part starts with
a byte that can come first. -/
theorem flatMap_encode_eq_append {characters : List Char}
    {left right : Bytes}
    (whole : characters.flatMap String.utf8EncodeChar = left ++ right)
    (starts : Starts right) :
    ∃ first second, characters = first ++ second ∧
      first.flatMap String.utf8EncodeChar = left ∧
      second.flatMap String.utf8EncodeChar = right := by
  induction characters generalizing left with
  | nil =>
      obtain ⟨rfl, rfl⟩ := List.append_eq_nil_iff.mp whole.symm
      exact ⟨[], [], rfl, rfl, rfl⟩
  | cons character rest ih =>
      rw [List.flatMap_cons, List.append_eq_append_iff] at whole
      rcases whole with ⟨middle, rfl, later⟩ | ⟨middle, bytes, rfl⟩
      · obtain ⟨first, second, rfl, rfl, rfl⟩ := ih later
        exact ⟨character :: first, second, rfl, rfl, rfl⟩
      · -- The cut lies within the first character, so at one of its ends.
        cases middle with
        | nil =>
            refine ⟨[character], rest, rfl, ?_, rfl⟩
            rw [List.append_nil] at bytes
            simpa using bytes
        | cons byte middle =>
            have inside : left.length <
                (String.utf8EncodeChar character).length := by
              simp [bytes]
            have same : (String.utf8EncodeChar character)[left.length] =
                byte := by
              simp [bytes]
            have first : byte.IsUTF8FirstByte := starts byte rfl
            rw [← same, UInt8.isUTF8FirstByte_getElem_utf8EncodeChar,
              List.length_eq_zero_iff] at first
            refine ⟨[], character :: rest, rfl, first.symm, ?_⟩
            rw [List.flatMap_cons, bytes, first]
            rfl

theorem encode_eq_append {text : String} {left right : Bytes}
    (whole : encode text = left ++ right) (starts : Starts right) :
    ∃ first second, text = first ++ second ∧ encode first = left ∧
      encode second = right := by
  rw [encode_eq_flatMap] at whole
  obtain ⟨first, second, characters, rfl, rfl⟩ :=
    flatMap_encode_eq_append whole starts
  refine ⟨String.ofList first, String.ofList second, ?_, ?_, ?_⟩
  · rw [← String.ofList_append, ← characters, String.ofList_toList]
  · rw [encode_eq_flatMap, String.toList_ofList]
  · rw [encode_eq_flatMap, String.toList_ofList]

/-- Whether bytes spell a text. -/
def isText (bytes : Bytes) : Bool :=
  (decode? bytes).isSome

theorem isText_iff {bytes : Bytes} :
    isText bytes = true ↔ ∃ text, bytes = encode text := by
  simp only [isText, Option.isSome_iff_exists, decode?_eq_some_iff]

theorem isText_eq_false_iff {bytes : Bytes} :
    isText bytes = false ↔ decode? bytes = none := by
  rw [isText, Option.isSome_eq_false_iff, Option.isNone_iff_eq_none]

/-- Bytes and bytes that may start a text are text together exactly if each of
them is. -/
theorem isText_append {left right : Bytes} (starts : Starts right) :
    isText (left ++ right) = (isText left && isText right) := by
  rw [Bool.eq_iff_iff, Bool.and_eq_true, isText_iff, isText_iff, isText_iff]
  constructor
  · rintro ⟨text, whole⟩
    obtain ⟨first, second, -, rfl, rfl⟩ :=
      encode_eq_append whole.symm starts
    exact ⟨⟨first, rfl⟩, ⟨second, rfl⟩⟩
  · rintro ⟨⟨first, rfl⟩, ⟨second, rfl⟩⟩
    exact ⟨first ++ second, (encode_append first second).symm⟩

theorem isText_encode (text : String) : isText (encode text) = true :=
  isText_iff.mpr ⟨text, rfl⟩

theorem isText_append_encode (bytes : Bytes) (text : String) :
    isText (bytes ++ encode text) = isText bytes := by
  rw [isText_append (starts_encode text), isText_encode, Bool.and_true]

theorem decode?_append_encode (bytes : Bytes) (text : String) :
    decode? (bytes ++ encode text) = (decode? bytes).map (· ++ text) := by
  have same := isText_append_encode bytes text
  cases decoded : decode? bytes with
  | none =>
      rw [← isText_eq_false_iff] at decoded
      rw [decoded, isText_eq_false_iff] at same
      exact same
  | some first =>
      rw [decode?_eq_some_iff] at decoded
      rw [decoded, ← encode_append, decode?_encode]
      rfl

/-- No character's bytes begin another's. -/
theorem flatMap_encode_eq_cons {characters : List Char} {character : Char}
    {right : Bytes}
    (whole : characters.flatMap String.utf8EncodeChar =
      String.utf8EncodeChar character ++ right) :
    ∃ rest, characters = character :: rest ∧
      rest.flatMap String.utf8EncodeChar = right := by
  cases characters with
  | nil => simp at whole
  | cons first rest =>
      rw [List.flatMap_cons] at whole
      have decoded := congrArg
        (fun bytes : Bytes => bytes.toByteArray.utf8DecodeChar? 0) whole
      simp only [List.toByteArray_append,
        ByteArray.utf8DecodeChar?_utf8EncodeChar_append,
        Option.some.injEq] at decoded
      rw [decoded] at whole ⊢
      exact ⟨rest, rfl, List.append_cancel_left whole⟩

/-- The bytes of a character in those of a text are that character. -/
theorem encode_eq_append_char {text : String} {character : Char}
    {left right : Bytes}
    (whole : encode text =
      left ++ (String.utf8EncodeChar character ++ right)) :
    ∃ before after,
      text = before ++ String.singleton character ++ after ∧
        encode before = left ∧ encode after = right := by
  obtain ⟨before, second, rfl, rfl, found⟩ :=
    encode_eq_append whole (starts_utf8EncodeChar character right)
  rw [encode_eq_flatMap] at found
  obtain ⟨rest, characters, rfl⟩ := flatMap_encode_eq_cons found
  refine ⟨before, String.ofList rest, ?_, rfl, ?_⟩
  · rw [String.append_assoc, ← String.toList_inj]
    simp [characters]
  · rw [encode_eq_flatMap, String.toList_ofList]

theorem encode_eq_nil_iff {text : String} :
    encode text = [] ↔ text = "" := by
  constructor
  · intro empty
    have same := decode?_encode text
    rw [empty] at same
    exact (Option.some.inj (same.symm.trans (decode?_encode "")))
  · rintro rfl
    rfl

theorem mem_encode_iff {text : String} {character : Char} {byte : UInt8}
    (single : String.utf8EncodeChar character = [byte]) :
    byte ∈ encode text ↔ character ∈ text.toList := by
  constructor
  · intro member
    obtain ⟨left, right, whole⟩ := List.append_of_mem member
    rw [← List.singleton_append, ← single] at whole
    obtain ⟨before, after, rfl, -, -⟩ := encode_eq_append_char whole
    simp
  · intro member
    rw [encode_eq_flatMap, List.mem_flatMap]
    exact ⟨character, member, by simp [single]⟩

end LineShell.Text
