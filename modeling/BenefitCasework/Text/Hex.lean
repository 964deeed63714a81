/-!
Contract: bytes as lower-case hexadecimal digits.

Owns:
- `Text.hexDigit` and `Text.hexValue`, one digit and its value;
- `Text.hexOfByte`, the two digits of a byte;
- `Text.bytesOfHex?`, the bytes that an even run of digits of either case writes.

Does not own: separators between groups of digits.
-/

namespace BenefitCasework.Text

def hexDigit (value : Nat) : Char :=
  if value < 10 then Char.ofNat (48 + value) else Char.ofNat (87 + value)

def hexValue (character : Char) : Option Nat :=
  if '0' ≤ character ∧ character ≤ '9' then some (character.toNat - 48)
  else if 'a' ≤ character ∧ character ≤ 'f' then some (character.toNat - 87)
  else if 'A' ≤ character ∧ character ≤ 'F' then some (character.toNat - 55)
  else none

def hexOfByte (byte : UInt8) : List Char :=
  [hexDigit (byte.toNat / 16), hexDigit (byte.toNat % 16)]

/-- The digits of a list of bytes, two for each. -/
def hexOfBytes (bytes : List UInt8) : List Char :=
  bytes.flatMap hexOfByte

def bytesOfHex? : List Char → Option (List UInt8)
  | [] => some []
  | [_] => none
  | high :: low :: rest =>
      match hexValue high, hexValue low, bytesOfHex? rest with
      | some upper, some lower, some bytes => some (UInt8.ofNat (upper * 16 + lower) :: bytes)
      | _, _, _ => none

theorem hexValue_hexDigit {value : Nat} (small : value < 16) :
    hexValue (hexDigit value) = some value := by
  have checked : ∀ digit : Fin 16, hexValue (hexDigit digit) = some digit.val := by decide
  exact checked ⟨value, small⟩

/-- What is written for bytes reads back as the same bytes. -/
theorem bytesOfHex?_hexOfBytes (bytes : List UInt8) :
    bytesOfHex? (hexOfBytes bytes) = some bytes := by
  induction bytes with
  | nil => rfl
  | cons byte rest inductionHypothesis =>
      have upper : byte.toNat / 16 < 16 := by
        have bound := byte.toNat_lt
        omega
      have lower : byte.toNat % 16 < 16 := Nat.mod_lt _ (by decide)
      have whole : byte.toNat / 16 * 16 + byte.toNat % 16 = byte.toNat := by omega
      have unfolded : hexOfBytes (byte :: rest) =
          hexDigit (byte.toNat / 16) :: hexDigit (byte.toNat % 16) :: hexOfBytes rest := rfl
      rw [unfolded, bytesOfHex?, hexValue_hexDigit upper, hexValue_hexDigit lower,
        inductionHypothesis]
      simp [whole]

end BenefitCasework.Text
