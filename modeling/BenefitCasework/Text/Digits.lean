/-!
Contract: whole numbers in decimal digits.

Owns:
- `Text.digitOf` and `Text.digitValue`, one digit and its value;
- `Text.natural?`, a nonempty run of digits and the number it writes;
- `Text.padded`, a number with zeros in front up to a given width.

Does not own: signs, bounds and blanks, which belong to whoever reads a field.
-/

namespace BenefitCasework.Text

/-- The value of a decimal digit. Only the ten ASCII digits count. -/
def digitValue (character : Char) : Option Nat :=
  if '0' ≤ character ∧ character ≤ '9' then some (character.toNat - '0'.toNat) else none

def digitOf (value : Nat) : Char :=
  Char.ofNat ('0'.toNat + value % 10)

def extendNatural? : Nat → List Char → Option Nat
  | value, [] => some value
  | value, character :: rest =>
      match digitValue character with
      | some digit => extendNatural? (value * 10 + digit) rest
      | none => none

def natural? : List Char → Option Nat
  | [] => none
  | digits => extendNatural? 0 digits

/-- The decimal digits of a number, without zeros in front. -/
def natural (value : Nat) : String :=
  String.ofList (Nat.toDigits 10 value)

def padded (width value : Nat) : String :=
  let digits := Nat.toDigits 10 value
  String.ofList (List.replicate (width - digits.length) '0' ++ digits)

/-- Reads between one and `limit` digits in front of a text. -/
def leadingNatural? (limit : Nat) (characters : List Char) : Option (Nat × List Char) :=
  let digits := (characters.takeWhile fun character => (digitValue character).isSome).take limit
  match natural? digits with
  | some value => some (value, characters.drop digits.length)
  | none => none

/-- A whole number below `bound`, with an optional plus sign in front. -/
def bounded? (bound : Nat) (text : String) : Option Nat :=
  let digits := match text.toList with
    | '+' :: rest => rest
    | characters => characters
  match natural? digits with
  | some value => if value < bound then some value else none
  | none => none

end BenefitCasework.Text
