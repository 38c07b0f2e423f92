/-!
# Parts of a text by byte positions

Positions count the bytes that characters occupy when they are encoded.  A cut
at a position exists exactly if the position is the size of a beginning of the
text, so that no character is divided.
-/

namespace LineShell.Text

/-- The number of bytes that a text occupies. -/
def byteSize : List Char → Nat
  | [] => 0
  | character :: rest => character.utf8Size + byteSize rest

theorem byteSize_append (left right : List Char) :
    byteSize (left ++ right) = byteSize left + byteSize right := by
  induction left with
  | nil => simp [byteSize]
  | cons character left hypothesis =>
      rw [List.cons_append, byteSize, byteSize, hypothesis, Nat.add_assoc]

theorem byteSize_toList (text : String) :
    byteSize text.toList = text.utf8ByteSize := by
  have size (characters : List Char) :
      (String.ofList characters).utf8ByteSize = byteSize characters := by
    induction characters with
    | nil => rfl
    | cons character rest hypothesis =>
        have whole : String.ofList (character :: rest) =
            String.singleton character ++ String.ofList rest := by
          simp
        rw [whole, String.utf8ByteSize_append, hypothesis,
          String.utf8ByteSize_singleton, byteSize]
  rw [← size, String.ofList_toList]

/-- The two parts of a text before and after a position, unless the position is
inside a character or behind the end. -/
def cutAt? : Nat → List Char → Option (List Char × List Char)
  | 0, text => some ([], text)
  | _ + 1, [] => none
  | position + 1, character :: rest =>
      if position + 1 < character.utf8Size then none
      else
        (cutAt? (position + 1 - character.utf8Size) rest).map fun parts =>
          (character :: parts.1, parts.2)

def dropBytes? (position : Nat) (text : List Char) : Option (List Char) :=
  (cutAt? position text).map (·.2)

def slice? (first last : Nat) (text : List Char) : Option (List Char) :=
  (dropBytes? first text).bind fun rest =>
    (cutAt? (last - first) rest).map (·.1)

end LineShell.Text
