/-!
Contract: texts as bytes in UTF-8.

Owns:
- `Text.utf8`, the bytes of a text;
- `Text.ofUtf8?`, the text of well-formed bytes.

Does not own: lengths and other marks around the bytes of a text.
-/

namespace BenefitCasework.Text

def utf8 (text : String) : List UInt8 := text.toByteArray.data.toList

/-- The text that bytes write, if they are well formed. -/
def ofUtf8? (bytes : List UInt8) : Option String := String.fromUTF8? ⟨bytes.toArray⟩

/-- The bytes of a text give the text back. -/
theorem ofUtf8?_utf8 (text : String) : ofUtf8? (utf8 text) = some text := by
  unfold ofUtf8? utf8 String.fromUTF8?
  simp only [Array.toArray_toList]
  rw [dif_pos text.isValidUTF8]
  rfl

theorem size_utf8Encode_le (characters : List Char) :
    characters.utf8Encode.size ≤ 4 * characters.length := by
  induction characters with
  | nil => simp
  | cons first rest inductionHypothesis =>
      have one : [first].utf8Encode.size ≤ 4 := by
        rw [List.utf8Encode_singleton, List.size_toByteArray, String.length_utf8EncodeChar]
        exact first.utf8Size_le_four
      rw [List.utf8Encode_cons, ByteArray.size_append, List.length_cons]
      omega

/-- A character takes at most four bytes. -/
theorem length_utf8_le (text : String) : (utf8 text).length ≤ 4 * text.toList.length := by
  have size := size_utf8Encode_le text.toList
  rw [String.utf8Encode_toList] at size
  exact size

end BenefitCasework.Text
