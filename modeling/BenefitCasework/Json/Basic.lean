import BenefitCasework.Number.Binary64

/-!
Contract: values of the data format that requests, events and audit entries
are written in.

Owns:
- `Json`, a value; numbers are whole or binary floating-point, and a whole
  number never equals a floating-point one;
- `DecidableEq Json`;
- `Json.field?` and `Json.put`, reading and writing a field of an object;
- `Json.sorted`, the value whose objects list their fields by name.

Does not own: the text of values, and the shapes of domain types.
-/

namespace BenefitCasework

/-- A value of the data format. -/
inductive Json where
  | null
  | boolean (value : Bool)
  | integer (value : Int)
  | decimal (value : Number.Binary64)
  | string (value : String)
  | array (items : List Json)
  | object (fields : List (String × Json))
deriving Repr, Inhabited

/-- The fields of an object. -/
abbrev JsonFields := List (String × Json)

namespace Json

mutual

/-- Two values are the same, field by field and in the same order. -/
def same : Json → Json → Bool
  | .null, .null => true
  | .boolean left, .boolean right => left == right
  | .integer left, .integer right => left == right
  | .decimal left, .decimal right => left == right
  | .string left, .string right => left == right
  | .array left, .array right => sameItems left right
  | .object left, .object right => sameFields left right
  | _, _ => false

def sameItems : List Json → List Json → Bool
  | [], [] => true
  | left :: leftRest, right :: rightRest => same left right && sameItems leftRest rightRest
  | _, _ => false

def sameFields : JsonFields → JsonFields → Bool
  | [], [] => true
  | (leftName, left) :: leftRest, (rightName, right) :: rightRest =>
      leftName == rightName && same left right && sameFields leftRest rightRest
  | _, _ => false

end

mutual

theorem eq_of_same : ∀ {left right : Json}, same left right = true → left = right
  | .null, .null, _ => rfl
  | .boolean _, .boolean _, equal => by simpa [same] using equal
  | .integer _, .integer _, equal => by simpa [same] using equal
  | .decimal _, .decimal _, equal => by simpa [same] using equal
  | .string _, .string _, equal => by simpa [same] using equal
  | .array _, .array _, equal => congrArg Json.array (eq_of_sameItems (by simpa [same] using equal))
  | .object _, .object _, equal =>
      congrArg Json.object (eq_of_sameFields (by simpa [same] using equal))

theorem eq_of_sameItems : ∀ {left right : List Json}, sameItems left right = true → left = right
  | [], [], _ => rfl
  | _ :: _, _ :: _, equal => by
      simp only [sameItems, Bool.and_eq_true] at equal
      rw [eq_of_same equal.1, eq_of_sameItems equal.2]

theorem eq_of_sameFields : ∀ {left right : JsonFields}, sameFields left right = true → left = right
  | [], [], _ => rfl
  | (_, _) :: _, (_, _) :: _, equal => by
      simp only [sameFields, Bool.and_eq_true, beq_iff_eq] at equal
      rw [equal.1.1, eq_of_same equal.1.2, eq_of_sameFields equal.2]

end

mutual

theorem same_self : ∀ value : Json, same value value = true
  | .null => rfl
  | .boolean _ => by simp [same]
  | .integer _ => by simp [same]
  | .decimal _ => by simp [same]
  | .string _ => by simp [same]
  | .array items => by simp [same, sameItems_self items]
  | .object fields => by simp [same, sameFields_self fields]

theorem sameItems_self : ∀ items : List Json, sameItems items items = true
  | [] => rfl
  | item :: rest => by simp [sameItems, same_self item, sameItems_self rest]

theorem sameFields_self : ∀ fields : JsonFields, sameFields fields fields = true
  | [] => rfl
  | (_, value) :: rest => by simp [sameFields, same_self value, sameFields_self rest]

end

theorem same_iff {left right : Json} : same left right = true ↔ left = right :=
  ⟨eq_of_same, fun equal => equal ▸ same_self left⟩

instance : DecidableEq Json := fun left right =>
  if equal : same left right = true then isTrue (eq_of_same equal)
  else isFalse fun absurd => equal (absurd ▸ same_self left)

def lookup (name : String) : JsonFields → Option Json
  | [] => none
  | (other, value) :: rest => if other = name then some value else lookup name rest

/-- A field of an object. Other values have no fields. -/
def field? (name : String) : Json → Option Json
  | .object fields => lookup name fields
  | _ => none

/-- A field of an object, an absent one counting as null. -/
def fieldOrNull (name : String) (value : Json) : Json :=
  (value.field? name).getD .null

def fields : Json → JsonFields
  | .object fields => fields
  | _ => []

/-- Writes a field into a list sorted by name. A field of that name is
replaced. -/
def put (name : String) (value : Json) : JsonFields → JsonFields
  | [] => [(name, value)]
  | (other, old) :: rest =>
      if name = other then (name, value) :: rest
      else if name < other then (name, value) :: (other, old) :: rest
      else (other, old) :: put name value rest

mutual

/-- The value whose objects list their fields by name, at every depth. -/
def sorted : Json → Json
  | .array items => .array (sortedItems items)
  | .object fields => .object (sortedFields fields)
  | value => value

def sortedItems : List Json → List Json
  | [] => []
  | item :: rest => sorted item :: sortedItems rest

/-- Sorts fields by name; of two fields with one name the first stays. -/
def sortedFields : JsonFields → JsonFields
  | [] => []
  | (name, value) :: rest => put name (sorted value) (sortedFields rest)

end

/-- A field that was written is found, whatever was there. -/
theorem lookup_put_self (name : String) (value : Json) (fields : JsonFields) :
    lookup name (put name value fields) = some value := by
  induction fields with
  | nil => simp [put, lookup]
  | cons head rest inductionHypothesis =>
      obtain ⟨other, old⟩ := head
      simp only [put]
      split
      · simp [lookup]
      · rename_i different
        split
        · simp [lookup]
        · have unequal : ¬ other = name := fun equal => different equal.symm
          simp [lookup, unequal, inductionHypothesis]

/-- Writing a field leaves the others as they were. -/
theorem lookup_put_other {name other : String} (different : other ≠ name) (value : Json)
    (fields : JsonFields) : lookup other (put name value fields) = lookup other fields := by
  have unequal : ¬ name = other := fun equal => different equal.symm
  induction fields with
  | nil => simp [put, lookup, unequal]
  | cons head rest inductionHypothesis =>
      obtain ⟨present, old⟩ := head
      simp only [put]
      split
      · rename_i equal
        subst equal
        simp [lookup, unequal]
      · split
        · simp [lookup, unequal]
        · simp only [lookup, inductionHypothesis]

end Json

end BenefitCasework
