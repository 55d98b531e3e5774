/-
# UTF-8

Between strings and the bytes of their UTF-8 form. Bytes are lists here, because the readers
walk over them from left to right. The main statement is that decoding gives an encoded string
back (`decode?_encode`).
-/

namespace AlertLedger.Text

/-- The UTF-8 form of a string. -/
def encode (s : String) : List UInt8 :=
  s.toList.flatMap String.utf8EncodeChar

/-- The string with the given UTF-8 form, if the bytes are one. -/
def decode? (bytes : List UInt8) : Option String :=
  String.fromUTF8? bytes.toByteArray

theorem encode_toByteArray (s : String) : (encode s).toByteArray = s.toByteArray := by
  rw [encode, ← String.utf8Encode_toList]
  rfl

theorem decode?_encode (s : String) : decode? (encode s) = some s := by
  simp only [decode?, encode_toByteArray, String.fromUTF8?, dif_pos s.isValidUTF8]
  rfl

end AlertLedger.Text
