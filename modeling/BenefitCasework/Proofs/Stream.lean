import BenefitCasework.Envelope

/-!
Contract: the text of an identifier tells it, and so does the stream of a
request.

Owns:
- `Identifier.ofCharacters?_characters`, reading what was written, and
  `Identifier.text_injective`;
- `requestOfStream?_requestStream` and `requestStream_injective`.

Does not own: the other ways to write an identifier.
-/

namespace BenefitCasework

theorem Text.length_hexOfBytes (bytes : List UInt8) :
    (Text.hexOfBytes bytes).length = 2 * bytes.length := by
  induction bytes with
  | nil => rfl
  | cons byte rest inductionHypothesis =>
      have unfolded : (Text.hexOfBytes (byte :: rest)).length =
          2 + (Text.hexOfBytes rest).length := by
        rw [Text.hexOfBytes, List.flatMap_cons, List.length_append]
        rfl
      rw [unfolded, inductionHypothesis, List.length_cons]
      omega

namespace Identifier

theorem length_toBytes (identifier : Identifier) : identifier.toBytes.length = 16 := by
  simp [toBytes]

theorem length_hexOfBytes (identifier : Identifier) :
    (Text.hexOfBytes identifier.toBytes).length = 32 := by
  rw [Text.length_hexOfBytes, length_toBytes]

theorem ofDigits?_hexOfBytes (identifier : Identifier) :
    ofDigits? (Text.hexOfBytes identifier.toBytes) = some identifier := by
  simp only [ofDigits?, Text.bytesOfHex?_hexOfBytes, ofBytes?_toBytes]

theorem length_characters (identifier : Identifier) : identifier.characters.length = 36 := by
  have size := identifier.length_hexOfBytes
  simp [characters, size]

/-- The digits of the five groups, without the hyphens again. -/
theorem groups_join (digits : List Char) :
    digits.take 8 ++ ((digits.drop 8).take 4 ++ ((digits.drop 12).take 4 ++
      ((digits.drop 16).take 4 ++ digits.drop 20))) = digits := by
  have fifth := List.take_append_drop 4 (digits.drop 16)
  have fourth := List.take_append_drop 4 (digits.drop 12)
  have third := List.take_append_drop 4 (digits.drop 8)
  have second := List.take_append_drop 8 digits
  simp only [List.drop_drop, Nat.reduceAdd] at fifth fourth third
  rw [fifth, fourth, third, second]

/-- Groups of the right lengths with hyphens between them are read together. -/
theorem ofHyphenated?_groups {first second third fourth fifth : List Char}
    (eight : first.length = 8) (four : second.length = 4) (fourAgain : third.length = 4)
    (fourMore : fourth.length = 4) (twelve : fifth.length = 12) :
    ofHyphenated? (first ++ '-' :: (second ++ '-' :: (third ++ '-' :: (fourth ++ '-' :: fifth)))) =
      ofDigits? (first ++ (second ++ (third ++ (fourth ++ fifth)))) := by
  simp [ofHyphenated?, eight, four, fourAgain, fourMore, twelve,
    List.drop_append, List.drop_eq_nil_of_le]

theorem ofHyphenated?_characters (identifier : Identifier) :
    ofHyphenated? identifier.characters = some identifier := by
  have size := identifier.length_hexOfBytes
  unfold characters
  rw [ofHyphenated?_groups (by simp [size]) (by simp [size]) (by simp [size]) (by simp [size])
    (by simp [size]), groups_join, ofDigits?_hexOfBytes]

theorem ofCharacters?_characters (identifier : Identifier) :
    ofCharacters? identifier.characters = some identifier := by
  have size := identifier.length_characters
  simp [ofCharacters?, size, ofHyphenated?_characters]

/-- Two identifiers never have one text. -/
theorem text_injective : Function.Injective text := by
  intro first second same
  have read := congrArg (fun written => ofCharacters? written.toList) same
  simp only [text, String.toList_ofList, ofCharacters?_characters] at read
  exact Option.some.inj read

end Identifier

theorem requestOfStream?_requestStream (request : Identifier) :
    requestOfStream? (requestStream request) = some request := by
  have labelled : streamLabel.isPrefixOf (streamLabel ++ request.characters) = true :=
    List.isPrefixOf_iff_prefix.mpr (List.prefix_append _ _)
  simp only [requestOfStream?, requestStream, String.toList_ofList, labelled, if_true,
    List.drop_left, Identifier.ofCharacters?_characters]

/-- Two requests never share a stream. -/
theorem requestStream_injective : Function.Injective requestStream := by
  intro first second same
  have read := congrArg requestOfStream? same
  rw [requestOfStream?_requestStream, requestOfStream?_requestStream] at read
  exact Option.some.inj read

end BenefitCasework
