/-!
Contract: which characters separate words, and when a text says nothing.

Owns:
- `Text.isSpace`, the characters with the Unicode property `White_Space`;
- `Text.trim`, a text without the spaces at its two ends;
- `Text.isBlank`, the texts that hold nothing but spaces.

Does not own: the characters that a number, an address or a file format skips.
-/

namespace BenefitCasework.Text

/-- The characters with the Unicode property `White_Space`. -/
def isSpace (character : Char) : Bool :=
  let code := character.toNat
  (9 ≤ code && code ≤ 13) || code == 0x20 || code == 0x85 || code == 0xA0 ||
    code == 0x1680 || (0x2000 ≤ code && code ≤ 0x200A) || code == 0x2028 ||
    code == 0x2029 || code == 0x202F || code == 0x205F || code == 0x3000

def dropSpaces (characters : List Char) : List Char :=
  characters.dropWhile isSpace

def trim (text : String) : String :=
  String.ofList (dropSpaces (dropSpaces text.toList).reverse).reverse

/-- A text says nothing when it is empty or holds spaces only. -/
def isBlank (text : String) : Bool :=
  text.toList.all isSpace

/-- A text with a character that is no space says something. -/
theorem isBlank_eq_false_iff (text : String) :
    isBlank text = false ↔ ∃ character ∈ text.toList, isSpace character = false := by
  simp [isBlank]

end BenefitCasework.Text
