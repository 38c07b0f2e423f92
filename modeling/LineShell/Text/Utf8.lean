/-!
# Text and its bytes

Input arrives and output leaves as bytes; commands work on text.  Decoding
accepts exactly the well-formed UTF-8 byte strings, and `decode?_eq_some_iff`
says that it inverts encoding.
-/

namespace LineShell.Text

abbrev Bytes := List UInt8

def encode (text : String) : Bytes :=
  text.toByteArray.data.toList

/-- The text that a byte string spells, if it is well-formed UTF-8. -/
def decode? (bytes : Bytes) : Option String :=
  String.fromUTF8? ⟨bytes.toArray⟩

theorem encode_append (left right : String) :
    encode (left ++ right) = encode left ++ encode right := by
  simp [encode]

theorem decode?_encode (text : String) : decode? (encode text) = some text := by
  simp [decode?, encode, String.fromUTF8?, text.isValidUTF8, String.fromUTF8]

theorem encode_of_decode? {bytes : Bytes} {text : String}
    (decoded : decode? bytes = some text) : encode text = bytes := by
  unfold decode? String.fromUTF8? at decoded
  split at decoded
  · cases decoded
    simp [encode, String.fromUTF8]
  · cases decoded

theorem decode?_eq_some_iff {bytes : Bytes} {text : String} :
    decode? bytes = some text ↔ bytes = encode text :=
  ⟨fun decoded => (encode_of_decode? decoded).symm,
    fun encoded => encoded ▸ decode?_encode text⟩

end LineShell.Text
