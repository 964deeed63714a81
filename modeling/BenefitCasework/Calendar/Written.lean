import BenefitCasework.Calendar.Instant
import BenefitCasework.Json.Form
import BenefitCasework.Text.Blank
import BenefitCasework.Text.Digits

/-!
Contract: the text of days and moments.

Owns:
- `Date.text`, `YYYY-MM-DD`, with a sign in front of years outside 0 to 9999;
- `Instant.text`, day, `T`, time and `Z`, with the fewest of 0, 3, 6 and 9
  digits behind the second that lose nothing; a leap second is second 60;
- `Date.parse?` and `Instant.parse?`, which are more lenient: fields may be
  shorter, blanks may stand in front of fields and separators, the separator
  may be `t` or a blank, and any offset of whole minutes below a day is
  brought to universal time. Digits behind the ninth are dropped.

Does not own: calendar arithmetic.
-/

namespace BenefitCasework

namespace Date

/-- The text of a year: four digits, or a sign and at least four. -/
def yearText (year : Int) : String :=
  if 0 ≤ year ∧ year ≤ 9999 then Text.padded 4 year.toNat
  else (if year < 0 then "-" else "+") ++ Text.padded 4 year.natAbs

def text (date : Date) : String :=
  yearText date.year ++ "-" ++ Text.padded 2 date.month ++ "-" ++ Text.padded 2 date.day

end Date

namespace Instant

/-- The digits behind the second: none, three, six or nine. -/
def fractionText (nanosecond : Nat) : String :=
  if nanosecond = 0 then ""
  else if nanosecond % 1000000 = 0 then "." ++ Text.padded 3 (nanosecond / 1000000)
  else if nanosecond % 1000 = 0 then "." ++ Text.padded 6 (nanosecond / 1000)
  else "." ++ Text.padded 9 nanosecond

def text (instant : Instant) : String :=
  let leap := 1000000000 ≤ instant.nanosecond
  let second := instant.second % 60 + (if leap then 1 else 0)
  let nanosecond := if leap then instant.nanosecond - 1000000000 else instant.nanosecond
  instant.date.text ++ "T" ++ Text.padded 2 (instant.second / 3600) ++ ":" ++
    Text.padded 2 (instant.second / 60 % 60) ++ ":" ++ Text.padded 2 second ++
    fractionText nanosecond ++ "Z"

end Instant

namespace Calendar

/-- Removes blanks and one separator in front of a text. -/
def skipSeparator (separator : Char) (characters : List Char) : Option (List Char) :=
  match Text.dropSpaces characters with
  | first :: rest => if first = separator then some rest else none
  | [] => none

/-- Reads a field of one or two digits behind optional blanks. -/
def readField (characters : List Char) : Option (Nat × List Char) :=
  Text.leadingNatural? 2 (Text.dropSpaces characters)

/-- Reads a year: up to four digits, or a sign and any number of digits. -/
def readYear (characters : List Char) : Option (Int × List Char) :=
  let trimmed := Text.dropSpaces characters
  match trimmed with
  | '-' :: rest =>
      (Text.leadingNatural? rest.length rest).map fun (value, behind) => (-(value : Int), behind)
  | '+' :: rest =>
      (Text.leadingNatural? rest.length rest).map fun (value, behind) => ((value : Int), behind)
  | _ => (Text.leadingNatural? 4 trimmed).map fun (value, behind) => ((value : Int), behind)

def readDate (characters : List Char) : Option (Date × List Char) := do
  let (year, rest) ← readYear characters
  let rest ← skipSeparator '-' rest
  let (month, rest) ← readField rest
  let rest ← skipSeparator '-' rest
  let (day, rest) ← readField rest
  let date ← Date.ofParts? year month day
  return (date, rest)

/-- Reads the digits behind a second as nanoseconds. At least one digit must
stand behind the point; those behind the ninth are dropped. -/
def readFraction : List Char → Option (Nat × List Char)
  | '.' :: rest =>
      match Text.leadingNatural? 9 rest with
      | none => none
      | some (value, behind) =>
          let places := rest.length - behind.length
          some (value * Nat.pow 10 (9 - places),
            behind.dropWhile fun character => (Text.digitValue character).isSome)
  | characters => some (0, characters)

/-- Reads a time of day: its second, a leap second counting as the one before
it, and the nanoseconds. -/
def readTime (characters : List Char) : Option (Nat × Nat × List Char) := do
  let (hour, rest) ← readField characters
  let rest ← skipSeparator ':' rest
  let (minute, rest) ← readField rest
  let rest ← skipSeparator ':' rest
  let (second, rest) ← readField rest
  let (nanosecond, rest) ← readFraction rest
  if hour < 24 ∧ minute < 60 ∧ second ≤ 60 then
    if second = 60 then return (hour * 3600 + minute * 60 + 59, nanosecond + 1000000000, rest)
    else return (hour * 3600 + minute * 60 + second, nanosecond, rest)
  else none

/-- Reads the two digits of an hour or a minute of an offset. -/
def readPair : List Char → Option (Nat × List Char)
  | first :: second :: rest =>
      match Text.digitValue first, Text.digitValue second with
      | some tens, some ones => some (tens * 10 + ones, rest)
      | _, _ => none
  | _ => none

/-- Reads the hours and minutes of an offset, in seconds. -/
def readOffsetSize (characters : List Char) : Option (Nat × List Char) := do
  let (hours, rest) ← readPair characters
  let (minutes, rest) ←
    readPair (rest.dropWhile fun character => character == ':' || Text.isSpace character)
  if minutes < 60 ∧ hours < 24 then return (hours * 3600 + minutes * 60, rest) else none

/-- Reads an offset: `Z`, `UTC`, or a sign with hours and minutes. -/
def readOffset (characters : List Char) : Option (Int × List Char) :=
  match Text.dropSpaces characters with
  | 'Z' :: rest => some (0, rest)
  | 'z' :: rest => some (0, rest)
  | '+' :: rest => (readOffsetSize rest).map fun (size, behind) => ((size : Int), behind)
  | '-' :: rest => (readOffsetSize rest).map fun (size, behind) => (-(size : Int), behind)
  | '−' :: rest => (readOffsetSize rest).map fun (size, behind) => (-(size : Int), behind)
  | first :: second :: third :: rest =>
      if [first, second, third].map Char.toUpper = ['U', 'T', 'C'] then some (0, rest) else none
  | _ => none

def skipDayMark : List Char → Option (List Char)
  | 'T' :: rest => some rest
  | 't' :: rest => some rest
  | ' ' :: rest => some rest
  | _ => none

end Calendar

def Date.parse? (text : String) : Option Date :=
  match Calendar.readDate text.toList with
  | some (date, rest) => if (Text.dropSpaces rest).isEmpty then some date else none
  | none => none

def Instant.parse? (text : String) : Option Instant := do
  let (date, rest) ← Calendar.readDate text.toList
  let rest ← Calendar.skipDayMark rest
  let (second, nanosecond, rest) ← Calendar.readTime rest
  let (ahead, rest) ← Calendar.readOffset rest
  if (Text.dropSpaces rest).isEmpty then Instant.ofLocal? date second nanosecond ahead else none

instance : ToString Date := ⟨Date.text⟩

instance : ToString Instant := ⟨Instant.text⟩

instance : JsonForm Date where
  write date := .string date.text
  read?
    | .string text => Date.parse? text
    | _ => none

instance : JsonForm Instant where
  write instant := .string instant.text
  read?
    | .string text => Instant.parse? text
    | _ => none

end BenefitCasework
