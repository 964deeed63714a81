import BenefitCasework.Json.Form
import BenefitCasework.Text.Hex

/-!
Contract: identifiers of one hundred and twenty-eight bits.

Owns:
- `Identifier`, sixteen bytes, highest first;
- `Identifier.text`, thirty-two lower-case digits in groups of 8, 4, 4, 4, 12;
- `Identifier.parse?`, which reads that text, the same digits without hyphens,
  or the hyphenated text in braces or behind `urn:uuid:`, in either case;
- `Identifier.numbered`, the identifiers that a counter draws.

Does not own: what an identifier identifies. Citizens, users, units, requests,
pendencies, events and audit entries all have one.
-/

namespace BenefitCasework

/-- Sixteen bytes that identify something. -/
structure Identifier where
  bytes : Vector UInt8 16
deriving DecidableEq, Repr

namespace Identifier

def nil : Identifier := ⟨Vector.replicate 16 0⟩

instance : Inhabited Identifier := ⟨nil⟩

def ofBytes? (bytes : List UInt8) : Option Identifier :=
  if size : bytes.toArray.size = 16 then some ⟨⟨bytes.toArray, size⟩⟩ else none

def toBytes (identifier : Identifier) : List UInt8 := identifier.bytes.toArray.toList

/-- The digits of an identifier in groups of 8, 4, 4, 4, 12. -/
def characters (identifier : Identifier) : List Char :=
  let digits := Text.hexOfBytes identifier.toBytes
  digits.take 8 ++ '-' :: ((digits.drop 8).take 4 ++ '-' :: ((digits.drop 12).take 4 ++
    '-' :: ((digits.drop 16).take 4 ++ '-' :: digits.drop 20)))

def text (identifier : Identifier) : String := String.ofList identifier.characters

def ofDigits? (digits : List Char) : Option Identifier :=
  match Text.bytesOfHex? digits with
  | some bytes => ofBytes? bytes
  | none => none

def ofHyphenated? (characters : List Char) : Option Identifier :=
  if characters.length = 36 ∧ characters[8]? = some '-' ∧ characters[13]? = some '-' ∧
      characters[18]? = some '-' ∧ characters[23]? = some '-' then
    ofDigits? (characters.take 8 ++ ((characters.drop 9).take 4 ++ ((characters.drop 14).take 4 ++
      ((characters.drop 19).take 4 ++ characters.drop 24))))
  else none

def ofCharacters? (characters : List Char) : Option Identifier :=
  if characters.length = 32 then ofDigits? characters
  else if characters.length = 36 then ofHyphenated? characters
  else if characters.length = 38 then
    if characters.head? = some '\x7b' ∧ characters.getLast? = some '\x7d' then
      ofHyphenated? ((characters.drop 1).take 36)
    else none
  else if characters.length = 45 then
    if characters.take 9 = ['u', 'r', 'n', ':', 'u', 'u', 'i', 'd', ':'] then
      ofHyphenated? (characters.drop 9)
    else none
  else none

def parse? (text : String) : Option Identifier := ofCharacters? text.toList

/-- The identifier that a counter draws as its `number`-th: the number in the
last six bytes under the marks of a random identifier. -/
def numbered (number : Nat) : Identifier :=
  ⟨#v[0, 0, 0, 0, 0, 0, 0x40, 0, 0x80, 0, UInt8.ofNat (number >>> 40), UInt8.ofNat (number >>> 32),
    UInt8.ofNat (number >>> 24), UInt8.ofNat (number >>> 16), UInt8.ofNat (number >>> 8),
    UInt8.ofNat number]⟩

/-- The identifiers that a counter draws after it has drawn some. -/
def fresh (drawn place : Nat) : Identifier := numbered (drawn + place + 1)

instance : ToString Identifier := ⟨text⟩

instance : JsonForm Identifier where
  write identifier := .string identifier.text
  read?
    | .string text => parse? text
    | _ => none

/-- Sixteen bytes make an identifier that gives them back. -/
theorem ofBytes?_toBytes (identifier : Identifier) :
    ofBytes? identifier.toBytes = some identifier := by
  simp [ofBytes?, toBytes]

end Identifier

end BenefitCasework
