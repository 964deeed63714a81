import BenefitCasework.Json.Basic

/-!
Contract: how a domain type is written as a value and read back.

Owns:
- `JsonForm`, a written form and its reader;
- `Json.slots?`, the fields of a record, by name from an object or by place
  from a list of the right length;
- `required` and `optional`, the two ways to read a slot;
- `Json.named?`, one of finitely many values by its name;
- the forms of texts, truth values, machine words, lists and options.

Fields that a record does not name are ignored. Does not own: the forms of the
domain's own types, which stand beside them.
-/

namespace BenefitCasework

/-- A written form of a type and its reader. -/
class JsonForm (α : Type) where
  /-- The value that is written. -/
  write : α → Json
  /-- What a value reads as, if it has the right shape. -/
  read? : Json → Option α

namespace Json

def of {α : Type} [JsonForm α] (content : α) : Json := JsonForm.write content

def read? (α : Type) [JsonForm α] (value : Json) : Option α := JsonForm.read? value

/-- The slots of a record with the given field names. -/
def slots? (names : List String) : Json → Option (List (Option Json))
  | .object fields => some (names.map fun name => lookup name fields)
  | .array items => if items.length = names.length then some (items.map some) else none
  | _ => none

def required {α : Type} [JsonForm α] : Option Json → Option α
  | some value => JsonForm.read? value
  | none => none

def optional {α : Type} [JsonForm α] : Option Json → Option (Option α)
  | none => some none
  | some .null => some none
  | some value => (JsonForm.read? value).map some

def plainVariant? : Json → Option String
  | .string name => some name
  | .object [(name, .null)] => some name
  | _ => none

def variant? : Json → Option (String × Json)
  | .object [(name, content)] => some (name, content)
  | _ => none

def named? {α : Type} (all : List α) (name : α → String) (value : Json) : Option α :=
  match plainVariant? value with
  | some text => all.find? fun candidate => name candidate == text
  | none => none

def natural? (bound : Nat) : Json → Option Nat
  | .integer (.ofNat value) => if value < bound then some value else none
  | _ => none

end Json

instance : JsonForm Json where
  write value := value
  read? value := some value

instance : JsonForm String where
  write value := .string value
  read?
    | .string value => some value
    | _ => none

instance : JsonForm Bool where
  write value := .boolean value
  read?
    | .boolean value => some value
    | _ => none

instance : JsonForm UInt8 where
  write value := .integer value.toNat
  read? value := (Json.natural? UInt8.size value).map UInt8.ofNat

instance : JsonForm UInt16 where
  write value := .integer value.toNat
  read? value := (Json.natural? UInt16.size value).map UInt16.ofNat

instance : JsonForm UInt32 where
  write value := .integer value.toNat
  read? value := (Json.natural? UInt32.size value).map UInt32.ofNat

instance : JsonForm UInt64 where
  write value := .integer value.toNat
  read? value := (Json.natural? UInt64.size value).map UInt64.ofNat

instance {α : Type} [JsonForm α] : JsonForm (List α) where
  write items := .array (items.map Json.of)
  read?
    | .array items => items.mapM JsonForm.read?
    | _ => none

instance {α : Type} [JsonForm α] : JsonForm (Option α) where
  write
    | some content => Json.of content
    | none => .null
  read? value := Json.optional (some value)

end BenefitCasework
