import BenefitCasework.Json.Record
import BenefitCasework.Json.Sorted

/-!
Contract: what changed, field by field.

Owns:
- `FieldChange`, a value before and after, both in sorted form;
- `Changes`, the changes of a subject by field, each field once;
- `Changes.put` and `Changes.get?`, writing and reading the change of a field;
- `Changes.between`, the fields in which two records differ, an absent field
  counting as null.

Does not own: who made the changes, and which fields are looked at.
-/

namespace BenefitCasework

/-- A value before and after a change. -/
structure FieldChange where
  before : Json
  after : Json
  before_sorted : before.sorted = before
  after_sorted : after.sorted = after
deriving DecidableEq

namespace FieldChange

def of (before after : Json) : FieldChange :=
  ⟨before.sorted, after.sorted, Json.sorted_sorted before, Json.sorted_sorted after⟩

instance : JsonForm FieldChange where
  write change := .object [("before", change.before), ("after", change.after)]
  read? value := do
    match ← Json.slots? ["before", "after"] value with
    | [some before, some after] => return of before after
    | _ => none

end FieldChange

/-- The changes of a subject, by field. -/
structure Changes where
  fields : List (String × FieldChange)
  ordered : fields.Pairwise fun left right => left.1 < right.1
deriving DecidableEq

namespace Changes

def empty : Changes := ⟨[], List.Pairwise.nil⟩

instance : Inhabited Changes := ⟨empty⟩

/-- Writes the change of a field into a list sorted by field. -/
def putField (name : String) (change : FieldChange) :
    List (String × FieldChange) → List (String × FieldChange)
  | [] => [(name, change)]
  | (other, old) :: rest =>
      if name = other then (name, change) :: rest
      else if name < other then (name, change) :: (other, old) :: rest
      else (other, old) :: putField name change rest

theorem mem_putField {name : String} {change : FieldChange}
    {fields : List (String × FieldChange)} {pair : String × FieldChange}
    (member : pair ∈ putField name change fields) : pair = (name, change) ∨ pair ∈ fields := by
  induction fields with
  | nil => simpa [putField] using member
  | cons head rest inductionHypothesis =>
      obtain ⟨other, old⟩ := head
      simp only [putField] at member
      split at member
      · rcases List.mem_cons.mp member with equal | later
        · exact Or.inl equal
        · exact Or.inr (List.mem_cons_of_mem _ later)
      · split at member
        · rcases List.mem_cons.mp member with equal | later
          · exact Or.inl equal
          · exact Or.inr later
        · rcases List.mem_cons.mp member with equal | later
          · exact Or.inr (equal ▸ List.mem_cons_self)
          · rcases inductionHypothesis later with equal | present
            · exact Or.inl equal
            · exact Or.inr (List.mem_cons_of_mem _ present)

theorem ordered_putField (name : String) (change : FieldChange)
    {fields : List (String × FieldChange)}
    (ordered : fields.Pairwise fun left right => left.1 < right.1) :
    (putField name change fields).Pairwise fun left right => left.1 < right.1 := by
  induction fields with
  | nil => simp [putField]
  | cons head rest inductionHypothesis =>
      obtain ⟨other, old⟩ := head
      have parts := List.pairwise_cons.mp ordered
      simp only [putField]
      split
      · rename_i equal
        subst equal
        exact List.pairwise_cons.mpr parts
      · rename_i unequal
        split
        · rename_i below
          refine List.pairwise_cons.mpr ⟨?_, ordered⟩
          intro pair member
          rcases List.mem_cons.mp member with equal | later
          · exact equal ▸ below
          · exact String.lt_trans below (parts.1 pair later)
        · rename_i notBelow
          refine List.pairwise_cons.mpr ⟨?_, inductionHypothesis parts.2⟩
          intro pair member
          rcases mem_putField member with equal | later
          · exact equal ▸ Json.lt_of_not_lt_of_ne unequal notBelow
          · exact parts.1 pair later

/-- Writes the change of a field; an earlier change of that field is replaced. -/
def put (changes : Changes) (name : String) (change : FieldChange) : Changes :=
  ⟨putField name change changes.fields, ordered_putField name change changes.ordered⟩

/-- The changes that a list writes one after the other. -/
def ofList (fields : List (String × FieldChange)) : Changes :=
  fields.foldl (fun changes field => changes.put field.1 field.2) empty

def get? (changes : Changes) (name : String) : Option FieldChange :=
  (changes.fields.find? fun field => field.1 == name).map Prod.snd

def names (changes : Changes) : List String := changes.fields.map Prod.fst

/-- Records the change of a field if its value differs between two records. -/
def compareField (before after : Json) (changes : Changes) (name : String) : Changes :=
  let old := before.fieldOrNull name
  let new := after.fieldOrNull name
  if old.sorted = new.sorted then changes else changes.put name (FieldChange.of old new)

def between (before after : Json) : Changes :=
  ((before.fields ++ after.fields).map Prod.fst).foldl (compareField before after) empty

instance : JsonForm Changes where
  write changes := .object (changes.fields.map fun field => (field.1, Json.of field.2))
  read?
    | .object fields =>
        (fields.mapM fun field => (Json.read? FieldChange field.2).map (Prod.mk field.1)).map ofList
    | _ => none

/-- The changes that a record tells: a whole table first, then single fields
over it. -/
def ofRecord? (record : Json) : Option Changes := do
  let whole ← record.getOr empty "all_changes"
  let single ← (← record.getItems "changes").mapM fun item => do
    return (← item.getText "field", FieldChange.of (item.get "before") (item.get "after"))
  return single.foldl (fun changes (name, change) => changes.put name change) whole

end Changes

end BenefitCasework
