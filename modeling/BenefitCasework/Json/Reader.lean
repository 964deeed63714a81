import BenefitCasework.Json.Basic
import BenefitCasework.Text.Digits
import BenefitCasework.Text.Hex

/-!
Contract: reading a value from its text.

Owns:
- `Json.parse?`, the value of a text, if the whole text is one value;
- the number rules: digits without point and exponent are a whole number as
  long as it lies between `-2^63` and `2^64 - 1`; everything else is binary
  floating-point, computed from at most sixty-four bits of digits and one power
  of ten at a time; a number beyond the largest finite one is refused;
- the limit of nesting.

Of two fields with one name the later wins, and fields come out sorted by name.
Does not own: the shapes of domain types.
-/

namespace BenefitCasework.Json

/-- A text is refused when values are nested this deep. -/
def nestingLimit : Nat := 128

def wordBound : Nat := UInt64.size

def skipBlanks (characters : List Char) : List Char :=
  characters.dropWhile fun character =>
    character == ' ' || character == '\n' || character == '\t' || character == '\r'

def skipWord (word characters : List Char) : Option (List Char) :=
  if word.isPrefixOf characters then some (characters.drop word.length) else none

def unitValue (first second third fourth : Char) : Option Nat :=
  match Text.hexValue first, Text.hexValue second, Text.hexValue third, Text.hexValue fourth with
  | some a, some b, some c, some d => some (((a * 16 + b) * 16 + c) * 16 + d)
  | _, _, _, _ => none

/-- One escaped character behind a backslash, and the rest. A character beyond
the first plane is written by two code units; one of them alone is refused. -/
def readEscape : List Char → Option (Char × List Char)
  | '"' :: rest => some ('"', rest)
  | '\\' :: rest => some ('\\', rest)
  | '/' :: rest => some ('/', rest)
  | 'b' :: rest => some ('\x08', rest)
  | 'f' :: rest => some ('\x0c', rest)
  | 'n' :: rest => some ('\n', rest)
  | 'r' :: rest => some ('\r', rest)
  | 't' :: rest => some ('\t', rest)
  | 'u' :: first :: second :: third :: fourth :: rest =>
      match unitValue first second third fourth with
      | none => none
      | some unit =>
          if unit < 0xD800 ∨ 0xE000 ≤ unit then some (Char.ofNat unit, rest)
          else if 0xDC00 ≤ unit then none
          else match rest with
            | '\\' :: 'u' :: fifth :: sixth :: seventh :: eighth :: behind =>
                match unitValue fifth sixth seventh eighth with
                | some low =>
                    if 0xDC00 ≤ low ∧ low < 0xE000 then
                      some (Char.ofNat (0x10000 + (unit - 0xD800) * 0x400 + (low - 0xDC00)), behind)
                    else none
                | none => none
            | _ => none
  | _ => none

/-- The characters of a text up to its closing quote, collected in reverse. -/
def readString : Nat → List Char → List Char → Option (String × List Char)
  | 0, _, _ => none
  | fuel + 1, collected, characters =>
      match characters with
      | [] => none
      | '"' :: rest => some (String.ofList collected.reverse, rest)
      | '\\' :: rest =>
          match readEscape rest with
          | some (character, behind) => readString fuel (character :: collected) behind
          | none => none
      | character :: rest =>
          if character.toNat < 32 then none else readString fuel (character :: collected) rest

/-- Reads digits into a significand as long as it stays below the bound; then
the flag says whether a digit was left over. -/
def readSignificand : Nat → Nat → List Char → Nat × Nat × Bool × List Char
  | significand, count, [] => (significand, count, false, [])
  | significand, count, character :: rest =>
      match Text.digitValue character with
      | none => (significand, count, false, character :: rest)
      | some digit =>
          if significand * 10 + digit < wordBound then
            readSignificand (significand * 10 + digit) (count + 1) rest
          else (significand, count, true, character :: rest)

def leadingDigits (characters : List Char) : List Char :=
  characters.takeWhile fun character => (Text.digitValue character).isSome

def powerOfTen (power : Nat) : Float := Float.ofScientific 1 false power

/-- Brings a significand to its power of ten, three hundred and eight places
at a time. Too large a number is refused. -/
def scaleUp : Nat → Float → Int → Option Float
  | 0, _, _ => none
  | fuel + 1, value, exponent =>
      if exponent.natAbs ≤ 308 then
        if 0 ≤ exponent then
          let scaled := value * powerOfTen exponent.natAbs
          if scaled.isInf then none else some scaled
        else some (value / powerOfTen exponent.natAbs)
      else if value == 0 then some value
      else if 0 ≤ exponent then none
      else scaleUp fuel (value / powerOfTen 308) (exponent + 308)

/-- The floating-point number of a sign, a significand and a power of ten. -/
def decimalOf (negative : Bool) (significand : Nat) (exponent : Int) : Option Json :=
  match scaleUp (exponent.natAbs + 1) (UInt64.ofNat significand).toFloat exponent with
  | some value => some (.decimal (Number.Binary64.ofFloat (if negative then -value else value)))
  | none => none

/-- The power of ten behind `e`, added to the one the point gave. -/
def readExponent (negative : Bool) (significand : Nat) (start : Int) (characters : List Char) :
    Option (Json × List Char) :=
  let (positive, behind) := match characters with
    | '+' :: rest => (true, rest)
    | '-' :: rest => (false, rest)
    | rest => (true, rest)
  let digits := leadingDigits behind
  let rest := behind.drop digits.length
  match Text.natural? digits with
  | none => none
  | some size =>
      if size < 2147483648 then
        (decimalOf negative significand (if positive then start + size else start - size)).map
          fun value => (value, rest)
      else if significand ≠ 0 ∧ positive then none
      else some (.decimal (Number.Binary64.ofFloat (if negative then -0.0 else 0.0)), rest)

/-- What follows the digits of a floating-point number: an exponent or
nothing. -/
def readTail (negative : Bool) (significand : Nat) (exponent : Int) :
    List Char → Option (Json × List Char)
  | 'e' :: rest => readExponent negative significand exponent rest
  | 'E' :: rest => readExponent negative significand exponent rest
  | rest => (decimalOf negative significand exponent).map fun value => (value, rest)

/-- The digits behind the point, at least one. Digits that no longer fit are
dropped. -/
def readFraction (negative : Bool) (significand : Nat) (exponent : Int) (characters : List Char) :
    Option (Json × List Char) :=
  let (wider, count, overfull, rest) := readSignificand significand 0 characters
  if overfull then
    readTail negative wider (exponent - count) (rest.drop (leadingDigits rest).length)
  else if count = 0 then none
  else readTail negative wider (exponent - count) rest

def readNumber (negative : Bool) (characters : List Char) : Option (Json × List Char) :=
  match characters with
  | [] => none
  | first :: behind =>
      match Text.digitValue first with
      | none => none
      | some 0 =>
          if (leadingDigits behind).isEmpty then whole 0 behind else none
      | some _ =>
          let (significand, _, overfull, rest) := readSignificand 0 0 characters
          if overfull then
            let dropped := (leadingDigits rest).length
            match rest.drop dropped with
            | '.' :: fraction => readFraction negative significand dropped fraction
            | tail => readTail negative significand dropped tail
          else whole significand rest
where
  /-- A number whose digits fit: whole unless a point or an exponent follows. -/
  whole (significand : Nat) : List Char → Option (Json × List Char)
    | '.' :: rest => readFraction negative significand 0 rest
    | 'e' :: rest => readExponent negative significand 0 rest
    | 'E' :: rest => readExponent negative significand 0 rest
    | rest =>
        if !negative then some (.integer significand, rest)
        else if significand = 0 ∨ wordBound / 2 < significand then
          (decimalOf true significand 0).map fun value => (value, rest)
        else some (.integer (-(significand : Int)), rest)

mutual

def readValue : Nat → Nat → List Char → Option (Json × List Char)
  | 0, _, _ => none
  | fuel + 1, depth, characters =>
      match skipBlanks characters with
      | 'n' :: rest => (skipWord ['u', 'l', 'l'] rest).map fun behind => (.null, behind)
      | 't' :: rest => (skipWord ['r', 'u', 'e'] rest).map fun behind => (.boolean true, behind)
      | 'f' :: rest =>
          (skipWord ['a', 'l', 's', 'e'] rest).map fun behind => (.boolean false, behind)
      | '"' :: rest =>
          (readString (rest.length + 1) [] rest).map fun (value, behind) => (.string value, behind)
      | '-' :: rest => readNumber true rest
      | '[' :: rest =>
          if depth + 1 < nestingLimit then
            match skipBlanks rest with
            | ']' :: behind => some (.array [], behind)
            | inner => readItems fuel (depth + 1) [] inner
          else none
      | '\x7b' :: rest =>
          if depth + 1 < nestingLimit then
            match skipBlanks rest with
            | '\x7d' :: behind => some (.object [], behind)
            | inner => readFields fuel (depth + 1) [] inner
          else none
      | rest => readNumber false rest

/-- The items of a list up to the closing bracket, collected in reverse. -/
def readItems : Nat → Nat → List Json → List Char → Option (Json × List Char)
  | 0, _, _, _ => none
  | fuel + 1, depth, collected, characters =>
      match readValue fuel depth characters with
      | none => none
      | some (item, rest) =>
          match skipBlanks rest with
          | ',' :: behind => readItems fuel depth (item :: collected) behind
          | ']' :: behind => some (.array (item :: collected).reverse, behind)
          | _ => none

/-- The fields of an object up to the closing brace. -/
def readFields : Nat → Nat → JsonFields → List Char → Option (Json × List Char)
  | 0, _, _, _ => none
  | fuel + 1, depth, collected, characters =>
      match skipBlanks characters with
      | '"' :: named =>
          match readString (named.length + 1) [] named with
          | none => none
          | some (name, rest) =>
              match skipBlanks rest with
              | ':' :: behind =>
                  match readValue fuel depth behind with
                  | none => none
                  | some (value, rest) =>
                      let fields := put name value collected
                      match skipBlanks rest with
                      | ',' :: behind => readFields fuel depth fields behind
                      | '\x7d' :: behind => some (.object fields, behind)
                      | _ => none
              | _ => none
      | _ => none

end

/-- The value of a text, if the whole text is one value. -/
def parse? (text : String) : Option Json :=
  let characters := text.toList
  match readValue (characters.length + 1) 0 characters with
  | some (value, rest) => if (skipBlanks rest).isEmpty then some value else none
  | none => none

end BenefitCasework.Json
