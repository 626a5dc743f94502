/-! UTF-8 text as byte lists, over the encoder and the decoder of the core library. -/

set_option autoImplicit false

/-- The UTF-8 bytes of a text. -/
def utf8 (text : List Char) : List UInt8 := text.flatMap String.utf8EncodeChar

/-- Strict decoding: every byte must belong to a well-formed sequence. -/
def decodeUtf8? (bytes : List UInt8) : Option (List Char) :=
  bytes.toByteArray.utf8Decode?.map Array.toList

@[simp] theorem utf8_nil : utf8 [] = [] := rfl

@[simp] theorem utf8_append (left right : List Char) :
    utf8 (left ++ right) = utf8 left ++ utf8 right :=
  List.flatMap_append

theorem decodeUtf8?_utf8 (text : List Char) : decodeUtf8? (utf8 text) = some text := by
  have encoded : (utf8 text).toByteArray = text.utf8Encode := rfl
  rw [decodeUtf8?, encoded, List.utf8Decode?_utf8Encode]
  rfl

theorem utf8_injective {left right : List Char} (same : utf8 left = utf8 right) : left = right := by
  have decoded := decodeUtf8?_utf8 left
  rw [same, decodeUtf8?_utf8] at decoded
  exact (Option.some.inj decoded).symm

theorem length_utf8_le (text : List Char) : (utf8 text).length ≤ 4 * text.length := by
  induction text with
  | nil => exact Nat.le_refl _
  | cons character rest ih =>
      have step : utf8 (character :: rest) = String.utf8EncodeChar character ++ utf8 rest := rfl
      have size := character.utf8Size_le_four
      rw [step, List.length_append, String.length_utf8EncodeChar, List.length_cons]
      omega
