import BenefitCasework.Number.Binary64

/-!
Contract: the fewest decimal digits that read back as the same number.

Owns:
- `Decimal`, a whole number times a power of ten;
- `shortest`, the decimal with the fewest digits inside the interval of reals
  that round to a number, and of those the nearest;
- `Layout`, how many zeros may stand between the point and the first digit;
- `Binary64.text`, that decimal written out in a layout.

A text is positional from there up to the sixteenth digit, and keeps one digit
behind the point. Outside, one digit stands before the point and `e` precedes
the power of ten.

Does not own: reading, which belongs to the format that holds the number.
-/

namespace BenefitCasework.Number

/-- A whole number times a power of ten. -/
structure Decimal where
  digits : Nat
  exponent : Int
deriving DecidableEq, Repr

/-- Four times a magnitude over a common denominator, with four times the ends
of the interval of reals that round to it. -/
structure Neighbourhood where
  low : Nat
  value : Nat
  high : Nat
  denominator : Nat
  endsIncluded : Bool
deriving Repr

/-- The interval of reals that round to a finite number. -/
def neighbourhood (number : Binary64) : Neighbourhood :=
  let middle := 4 * number.significand
  let below := if number.hasShortGapBelow then middle - 1 else middle - 2
  let above := middle + 2
  let power := number.scale - 2
  if 0 ≤ power then
    let factor := Nat.pow 2 power.toNat
    ⟨below * factor, middle * factor, above * factor, 1, number.significand % 2 == 0⟩
  else
    ⟨below, middle, above, Nat.pow 2 (-power).toNat, number.significand % 2 == 0⟩

def scaledByTen (numerator denominator : Nat) (power : Int) : Nat × Nat :=
  if 0 ≤ power then (numerator * Nat.pow 10 power.toNat, denominator)
  else (numerator, denominator * Nat.pow 10 (-power).toNat)

/-- The place of the leading digit of a positive quotient. -/
def leadingPlace (numerator denominator : Nat) : Int :=
  let guess : Int := (Nat.toDigits 10 numerator).length - (Nat.toDigits 10 denominator).length
  let (top, bottom) := scaledByTen numerator denominator (-guess)
  if bottom ≤ top then guess else guess - 1

/-- A whole multiple of a power of ten rounds to the number. -/
def Neighbourhood.holds (region : Neighbourhood) (digits : Nat) (exponent : Int) : Bool :=
  let (point, unit) := scaledByTen digits 1 exponent
  let scaled := point * region.denominator
  let low := region.low * unit
  let high := region.high * unit
  if region.endsIncluded then low ≤ scaled && scaled ≤ high else low < scaled && scaled < high

/-- The nearest of the two neighbours on a decimal grid, if one rounds to the
number. -/
def Neighbourhood.onGrid (region : Neighbourhood) (exponent : Int) : Option Decimal :=
  let (top, bottom) := scaledByTen region.value region.denominator (-exponent)
  let below := top / bottom
  let rest := top % bottom
  let lowHolds := region.holds below exponent
  let highHolds := region.holds (below + 1) exponent
  match lowHolds, highHolds with
  | true, true =>
      if 2 * rest < bottom ∨ (2 * rest = bottom ∧ below % 2 = 0) then some ⟨below, exponent⟩
      else some ⟨below + 1, exponent⟩
  | true, false => some ⟨below, exponent⟩
  | false, true => some ⟨below + 1, exponent⟩
  | false, false => none

/-- Removes zeros at the end of the digits, at most `limit` of them. -/
def Decimal.strip : Nat → Decimal → Decimal
  | 0, decimal => decimal
  | limit + 1, decimal =>
      if decimal.digits ≠ 0 ∧ decimal.digits % 10 = 0 then
        Decimal.strip limit ⟨decimal.digits / 10, decimal.exponent + 1⟩
      else decimal

def Neighbourhood.search (region : Neighbourhood) (place : Int) : Nat → Nat → Decimal
  | 0, _ => ⟨region.value / region.denominator, 0⟩
  | tries + 1, count =>
      match region.onGrid (place - count + 1) with
      | some decimal => decimal.strip count
      | none => region.search place tries (count + 1)

/-- The decimal with the fewest digits that rounds to a finite magnitude. -/
def shortest (number : Binary64) : Decimal :=
  if number.significand = 0 then ⟨0, 0⟩
  else
    let region := neighbourhood number
    region.search (leadingPlace region.value region.denominator) 17 1

/-- How a number is laid out: the zeros that may stand between the point and
the first digit before a power of ten is written instead. -/
structure Layout where
  zerosInFront : Nat
deriving DecidableEq, Repr

/-- Data files keep four zeros in front of the first digit. -/
def Layout.data : Layout := ⟨4⟩

/-- Descriptions for people keep three zeros in front of the first digit. -/
def Layout.description : Layout := ⟨3⟩

def Decimal.text (layout : Layout) (decimal : Decimal) : String :=
  let digits := Nat.toDigits 10 decimal.digits
  let length : Int := digits.length
  let point := length + decimal.exponent
  if 0 ≤ decimal.exponent ∧ point ≤ 16 then
    String.ofList (digits ++ List.replicate decimal.exponent.toNat '0' ++ ['.', '0'])
  else if 0 < point ∧ point ≤ 16 then
    String.ofList (digits.take point.toNat ++ '.' :: digits.drop point.toNat)
  else if -(layout.zerosInFront : Int) ≤ point ∧ point ≤ 0 then
    String.ofList ('0' :: '.' :: (List.replicate (-point).toNat '0' ++ digits))
  else
    let power := toString (point - 1)
    match digits with
    | [single] => String.ofList [single] ++ "e" ++ power
    | first :: rest => String.ofList (first :: '.' :: rest) ++ "e" ++ power
    | [] => ""

/-- The magnitude of a decimal, written out without a power of ten, and
without a point when it is whole. -/
def Decimal.plainText (decimal : Decimal) : String :=
  let digits := Nat.toDigits 10 decimal.digits
  let point := (digits.length : Int) + decimal.exponent
  if 0 ≤ decimal.exponent then String.ofList (digits ++ List.replicate decimal.exponent.toNat '0')
  else if 0 < point then String.ofList (digits.take point.toNat ++ '.' :: digits.drop point.toNat)
  else String.ofList ('0' :: '.' :: (List.replicate (-point).toNat '0' ++ digits))

namespace Binary64

/-- A number in the fewest digits that read back, the magnitude written by a
given rule. -/
def textBy (rule : Decimal → String) (number : Binary64) : String :=
  let magnitude :=
    if number.isUndefined then "NaN"
    else if number.isFinite then rule (shortest number)
    else "inf"
  if number.isNegative && !number.isUndefined then "-" ++ magnitude else magnitude

/-- A number in the fewest digits that read back, laid out. -/
def text (layout : Layout) (number : Binary64) : String := number.textBy (Decimal.text layout)

/-- A number in the fewest digits that read back, written out. -/
def plainText (number : Binary64) : String := number.textBy Decimal.plainText

end Binary64

end BenefitCasework.Number
