import BenefitCasework.Json.Form
import BenefitCasework.Text.Hex

/-!
Contract: the fields of a record, one at a time.

Owns:
- `Json.getAs`, a field that must be there;
- `Json.getText`, `Json.getItems`, `Json.getList` and `Json.getTable`, fields
  that count as empty when they are missing or null;
- `Json.getOr`, a field with a stand-in;
- `Json.getBytes`, bytes in hexadecimal digits.

A field of the wrong shape is never replaced by its stand-in. Does not own:
records that list all of their fields, which are read as a whole.
-/

namespace BenefitCasework.Json

def get (name : String) (record : Json) : Json := record.fieldOrNull name

def getAs (α : Type) [JsonForm α] (name : String) (record : Json) : Option α :=
  read? α (get name record)

def getText (name : String) (record : Json) : Option String :=
  match get name record with
  | .null => some ""
  | .string text => some text
  | _ => none

def getItems (name : String) (record : Json) : Option (List Json) :=
  match get name record with
  | .null => some []
  | .array items => some items
  | _ => none

/-- A list of values of a known shape, empty unless given. -/
def getList (α : Type) [JsonForm α] (name : String) (record : Json) : Option (List α) := do
  (← getItems name record).mapM (read? α)

def getOptional (α : Type) [JsonForm α] (name : String) (record : Json) : Option (Option α) :=
  read? (Option α) (get name record)

/-- A value of a known shape, or a stand-in unless given. -/
def getOr {α : Type} [JsonForm α] (standIn : α) (name : String) (record : Json) : Option α :=
  (getOptional α name record).map fun value => value.getD standIn

def getFlag (name : String) (record : Json) : Option Bool := getOr false name record

def getNatural (name : String) (record : Json) : Option Nat :=
  (getAs UInt64 name record).map UInt64.toNat

/-- A whole number below 2^64, or a stand-in unless given. -/
def getNaturalOr (standIn : Nat) (name : String) (record : Json) : Option Nat :=
  (getOptional UInt64 name record).map fun value => (value.map UInt64.toNat).getD standIn

def getNaturals (name : String) (record : Json) : Option (List Nat) :=
  (getList UInt64 name record).map fun values => values.map UInt64.toNat

def getBytes (name : String) (record : Json) : Option (List UInt8) := do
  Text.bytesOfHex? (← getText name record).toList

def getTable (α : Type) [JsonForm α] (name : String) (record : Json) :
    Option (List (String × α)) :=
  match get name record with
  | .null => some []
  | .object fields => fields.mapM fun (key, value) => (read? α value).map (Prod.mk key)
  | _ => none

end BenefitCasework.Json
