import BenefitCasework.Text.Digits
import BenefitCasework.Text.Hex

/-!
Contract: addresses of machines on a network.

Owns:
- `Address`, four bytes, or eight groups of sixteen bits;
- `Address.parse?`, which reads four decimal numbers without zeros in front, or
  groups of one to four hexadecimal digits; a double colon stands for one or
  more groups of zero, and four decimal numbers may stand for the last two
  groups;
- `Address.text`, which writes the first longest run of at least two zero
  groups as a double colon;
- `Address.endpoint`, an address with the number of a service behind it.

Does not own: names of machines.
-/

namespace BenefitCasework

/-- The address of a machine. -/
inductive Address where
  | short (bytes : Vector UInt8 4)
  | long (groups : Vector UInt16 8)
deriving DecidableEq, Repr

namespace Address

def splitAt (separator : Char) : List Char → List (List Char)
  | [] => [[]]
  | character :: rest =>
      if character = separator then [] :: splitAt separator rest
      else match splitAt separator rest with
        | [] => [[character]]
        | part :: parts => (character :: part) :: parts

def cutAtDoubleColon : List Char → Option (List Char × List Char)
  | [] => none
  | ':' :: ':' :: rest => some ([], rest)
  | character :: rest =>
      (cutAtDoubleColon rest).map fun (before, behind) => (character :: before, behind)

/-- A byte in at most three decimal digits, without zeros in front. -/
def byte? (digits : List Char) : Option UInt8 :=
  if 3 < digits.length then none
  else if 1 < digits.length ∧ digits.head? = some '0' then none
  else match Text.natural? digits with
    | some value => if value < UInt8.size then some (UInt8.ofNat value) else none
    | none => none

def bytes? (characters : List Char) : Option (List UInt8) :=
  match (splitAt '.' characters).mapM byte? with
  | some bytes => if bytes.length = 4 then some bytes else none
  | none => none

/-- Continues a number by the hexadecimal digits that follow it. -/
def extendHex? : Nat → List Char → Option Nat
  | value, [] => some value
  | value, character :: rest =>
      match Text.hexValue character with
      | some digit => extendHex? (value * 16 + digit) rest
      | none => none

def group? (digits : List Char) : Option UInt16 :=
  if digits.isEmpty ∨ 4 < digits.length then none
  else (extendHex? 0 digits).map UInt16.ofNat

def groupsOfBytes : List UInt8 → List UInt16
  | high :: low :: rest => UInt16.ofNat (high.toNat * 256 + low.toNat) :: groupsOfBytes rest
  | _ => []

/-- Groups between colons. The last part may be four bytes. -/
def groupsOfParts? : List (List Char) → Option (List UInt16)
  | [] => some []
  | [last] =>
      match bytes? last with
      | some bytes => some (groupsOfBytes bytes)
      | none => (group? last).map fun group => [group]
  | part :: rest => do return (← group? part) :: (← groupsOfParts? rest)

def groups? (characters : List Char) : Option (List UInt16) :=
  if characters.isEmpty then some [] else groupsOfParts? (splitAt ':' characters)

/-- Groups between colons without a part of four bytes, or none at all. -/
def plainGroups? (characters : List Char) : Option (List UInt16) :=
  if characters.isEmpty then some [] else (splitAt ':' characters).mapM group?

def allGroups? (characters : List Char) : Option (List UInt16) :=
  match cutAtDoubleColon characters with
  | none => groups? characters
  | some (before, behind) => do
      let front ← plainGroups? before
      let back ← groups? behind
      if front.length + back.length < 8 then
        return front ++ List.replicate (8 - front.length - back.length) 0 ++ back
      else none

def ofBytes? (bytes : List UInt8) : Option Address :=
  if size : bytes.toArray.size = 4 then some (.short ⟨bytes.toArray, size⟩) else none

def ofGroups? (groups : List UInt16) : Option Address :=
  if size : groups.toArray.size = 8 then some (.long ⟨groups.toArray, size⟩) else none

def parse? (text : String) : Option Address :=
  match bytes? text.toList with
  | some bytes => ofBytes? bytes
  | none => (allGroups? text.toList).bind ofGroups?

/-- A run of zero groups: where it starts and how long it is. -/
structure ZeroRun where
  start : Nat
  length : Nat
deriving DecidableEq, Repr

/-- The first longest run of zero groups, given the run under way at a place
and the longest run before it. -/
def longestRunFrom (place : Nat) (current longest : ZeroRun) : List UInt16 → ZeroRun
  | [] => longest
  | group :: rest =>
      if group = 0 then
        let grown : ZeroRun :=
          ⟨if current.length = 0 then place else current.start, current.length + 1⟩
        longestRunFrom (place + 1) grown (if longest.length < grown.length then grown else longest)
          rest
      else longestRunFrom (place + 1) ⟨0, 0⟩ longest rest

def longestRun (groups : List UInt16) : ZeroRun := longestRunFrom 0 ⟨0, 0⟩ ⟨0, 0⟩ groups

def groupsText (groups : List UInt16) : String :=
  ":".intercalate (groups.map fun group => String.ofList (Nat.toDigits 16 group.toNat))

def bytesText (bytes : List UInt8) : String :=
  ".".intercalate (bytes.map fun byte => Text.natural byte.toNat)

def bytesOfGroups (groups : List UInt16) : List UInt8 :=
  groups.flatMap fun group => [UInt8.ofNat (group.toNat / 256), UInt8.ofNat group.toNat]

/-- Eight groups; four bytes in the long form keep their points. -/
def longText (groups : List UInt16) : String :=
  if groups.take 6 = [0, 0, 0, 0, 0, 0xffff] then
    "::ffff:" ++ bytesText (bytesOfGroups (groups.drop 6))
  else
    let run := longestRun groups
    if 1 < run.length then
      groupsText (groups.take run.start) ++ "::" ++ groupsText (groups.drop (run.start + run.length))
    else groupsText groups

def text : Address → String
  | .short bytes => bytesText bytes.toList
  | .long groups => longText groups.toList

/-- An address with the number of a service behind it; a long address stands
between brackets. -/
def endpoint (address : Address) (service : UInt16) : String :=
  match address with
  | .short _ => address.text ++ ":" ++ Text.natural service.toNat
  | .long _ => "[" ++ address.text ++ "]:" ++ Text.natural service.toNat

end Address

end BenefitCasework
