import BenefitCasework.Audit.Change

/-!
Contract: what two records differ in, and what follows from the differences.

Owns:
- the laws that a change is read as it was written;
- `Changes.get?_between`, which fields are listed, and with which values;
- `Changes.appliedTo`, a record with the later values of some changes, and
  `replayed`, what rows of changes make of an empty record;
- `Changes.Explain`, changes that list exactly the fields in which two records
  differ.

Does not own: whose records these are.
-/

namespace BenefitCasework

namespace Json

/-- Sorting a record sorts the values of its fields. -/
theorem lookup_sortedFields (name : String) (fields : JsonFields) :
    lookup name (sortedFields fields) = (lookup name fields).map sorted := by
  induction fields with
  | nil => rfl
  | cons head rest inductionHypothesis =>
      obtain ⟨other, value⟩ := head
      by_cases same : other = name
      · subst same
        rw [sortedFields, lookup_put_self, lookup, if_pos rfl, Option.map_some]
      · rw [sortedFields, lookup_put_other (Ne.symm same), lookup, if_neg same,
          inductionHypothesis]

theorem fieldOrNull_sorted (name : String) (value : Json) :
    value.sorted.fieldOrNull name = (value.fieldOrNull name).sorted := by
  cases value with
  | object fields =>
      rw [sorted, fieldOrNull, fieldOrNull, field?, field?, lookup_sortedFields]
      cases lookup name fields <;> rfl
  | _ => rfl

theorem lookup_filter (keep : String → Bool) (name : String) (fields : JsonFields) :
    lookup name (fields.filter fun field => keep field.1) =
      if keep name = true then lookup name fields else none := by
  induction fields with
  | nil => simp [lookup]
  | cons head rest inductionHypothesis =>
      obtain ⟨other, value⟩ := head
      rw [List.filter_cons]
      by_cases same : other = name
      · subst same
        by_cases kept : keep other = true
        · simp [kept, lookup]
        · simp [kept, inductionHypothesis]
      · by_cases kept : keep other = true
        · simp [kept, lookup, same, inductionHypothesis]
        · simp [kept, lookup, same, inductionHypothesis]

/-- A field that a record does not list counts as null. -/
theorem fieldOrNull_of_not_mem {name : String} {value : Json}
    (absent : name ∉ value.fields.map Prod.fst) : value.fieldOrNull name = .null := by
  cases value with
  | object fields =>
      have unlisted : lookup name fields = none := by
        induction fields with
        | nil => rfl
        | cons head rest inductionHypothesis =>
            obtain ⟨other, notBehind⟩ := not_or.mp fun member => absent (List.mem_cons.mpr member)
            rw [lookup, if_neg fun same => other same.symm]
            exact inductionHypothesis notBehind
      rw [fieldOrNull, field?, unlisted, Option.getD_none]
  | _ => rfl

end Json

namespace Changes

/-! ### Writing and reading changes -/

theorem find?_putField_self (name : String) (change : FieldChange)
    (fields : List (String × FieldChange)) :
    (putField name change fields).find? (fun field => field.1 == name) = some (name, change) := by
  induction fields with
  | nil => simp [putField]
  | cons head rest inductionHypothesis =>
      obtain ⟨other, old⟩ := head
      simp only [putField]
      split
      · simp
      · rename_i different
        split
        · simp
        · have unequal : (other == name) = false := by simp [Ne.symm different]
          simp [unequal, inductionHypothesis]

theorem find?_putField_other {name other : String} (different : other ≠ name)
    (change : FieldChange) (fields : List (String × FieldChange)) :
    (putField name change fields).find? (fun field => field.1 == other) =
      fields.find? fun field => field.1 == other := by
  have unequal : (name == other) = false := by simp [Ne.symm different]
  induction fields with
  | nil => simp [putField, unequal]
  | cons head rest inductionHypothesis =>
      obtain ⟨present, old⟩ := head
      simp only [putField]
      split
      · rename_i equal
        subst equal
        simp [unequal]
      · split
        · simp [unequal]
        · simp only [List.find?_cons, inductionHypothesis]

@[simp]
theorem get?_put_self (changes : Changes) (name : String) (change : FieldChange) :
    (changes.put name change).get? name = some change := by
  rw [get?, put, find?_putField_self, Option.map_some]

theorem get?_put_other {name other : String} (different : other ≠ name) (changes : Changes)
    (change : FieldChange) : (changes.put name change).get? other = changes.get? other := by
  rw [get?, put, find?_putField_other different, get?]

/-- Each field is listed once, so that a listed change is the one that is read. -/
theorem get?_eq_some_iff {changes : Changes} {name : String} {change : FieldChange} :
    changes.get? name = some change ↔ (name, change) ∈ changes.fields := by
  obtain ⟨fields, ordered⟩ := changes
  simp only [get?]
  induction fields with
  | nil => simp
  | cons head rest inductionHypothesis =>
      obtain ⟨other, old⟩ := head
      obtain ⟨smallest, orderedRest⟩ := List.pairwise_cons.mp ordered
      by_cases same : other = name
      · subst same
        have notBehind : (other, change) ∉ rest := fun member =>
          String.lt_irrefl other (smallest _ member)
        simp [notBehind, eq_comm]
      · have unequal : (other == name) = false := by simp [same]
        rw [List.find?_cons, unequal, inductionHypothesis orderedRest]
        simp [Ne.symm same]

/-! ### Comparing two records -/

section Between

variable (before after : Json)

/-- What the comparison of a field adds. -/
theorem get?_compareField (changes : Changes) (field name : String) :
    (compareField before after changes field).get? name =
      if field = name ∧ (before.fieldOrNull name).sorted ≠ (after.fieldOrNull name).sorted then
        some (FieldChange.of (before.fieldOrNull name) (after.fieldOrNull name))
      else changes.get? name := by
  simp only [compareField]
  by_cases same : field = name
  · subst same
    by_cases equal : (before.fieldOrNull field).sorted = (after.fieldOrNull field).sorted
    · simp [equal]
    · simp [equal]
  · rw [if_neg (not_and.mpr fun equal => absurd equal same)]
    split
    · rfl
    · exact get?_put_other (Ne.symm same) _ _

theorem get?_foldl_compareField (fields : List String) (changes : Changes) (name : String) :
    (fields.foldl (compareField before after) changes).get? name =
      if name ∈ fields ∧ (before.fieldOrNull name).sorted ≠ (after.fieldOrNull name).sorted then
        some (FieldChange.of (before.fieldOrNull name) (after.fieldOrNull name))
      else changes.get? name := by
  induction fields generalizing changes with
  | nil => simp
  | cons field rest inductionHypothesis =>
      rw [List.foldl_cons, inductionHypothesis, get?_compareField]
      by_cases equal : (before.fieldOrNull name).sorted = (after.fieldOrNull name).sorted
      · simp [equal]
      · by_cases later : name ∈ rest
        · simp [equal, later]
        · simp [equal, later, eq_comm]

/-- Exactly the fields that differ are listed, with both values. -/
theorem get?_between (name : String) :
    (between before after).get? name =
      if (before.fieldOrNull name).sorted = (after.fieldOrNull name).sorted then none
      else some (FieldChange.of (before.fieldOrNull name) (after.fieldOrNull name)) := by
  rw [between, get?_foldl_compareField]
  by_cases same : (before.fieldOrNull name).sorted = (after.fieldOrNull name).sorted
  · rw [if_neg fun both => both.2 same, if_pos same]
    rfl
  · have listed : name ∈ (before.fields ++ after.fields).map Prod.fst := by
      apply Decidable.byContradiction
      intro absent
      rw [List.map_append, List.mem_append, not_or] at absent
      rw [Json.fieldOrNull_of_not_mem absent.1, Json.fieldOrNull_of_not_mem absent.2] at same
      exact same rfl
    rw [if_pos ⟨listed, same⟩, if_neg same]

end Between

/-! ### Carrying changes out -/

/-- A record in which each changed field has its later value. -/
def appliedTo (changes : Changes) (record : JsonFields) : JsonFields :=
  changes.fields.foldl (fun fields change => Json.put change.1 change.2.after fields) record

theorem lookup_appliedTo (changes : Changes) (record : JsonFields) (name : String) :
    Json.lookup name (changes.appliedTo record) =
      match changes.get? name with
      | some change => some change.after
      | none => Json.lookup name record := by
  obtain ⟨fields, ordered⟩ := changes
  simp only [appliedTo, get?]
  induction fields generalizing record with
  | nil => rfl
  | cons head rest inductionHypothesis =>
      obtain ⟨other, change⟩ := head
      obtain ⟨smallest, orderedRest⟩ := List.pairwise_cons.mp ordered
      rw [List.foldl_cons, inductionHypothesis _ orderedRest]
      by_cases same : other = name
      · subst same
        have notBehind : rest.find? (fun field => field.1 == other) = none := by
          rw [List.find?_eq_none]
          intro field member equal
          exact String.lt_irrefl other (eq_of_beq equal ▸ smallest field member)
        simp [notBehind, Json.lookup_put_self]
      · have unequal : (other == name) = false := by simp [same]
        rw [List.find?_cons, unequal, Json.lookup_put_other (Ne.symm same)]

/-- What rows of changes make of an empty record. -/
def replayed (rows : List Changes) : Json :=
  .object (rows.foldl (fun record changes => changes.appliedTo record) [])

theorem replayed_append_singleton (rows : List Changes) (last : Changes) (name : String) :
    (replayed (rows ++ [last])).fieldOrNull name =
      match last.get? name with
      | some change => change.after
      | none => (replayed rows).fieldOrNull name := by
  simp only [replayed, List.foldl_append, List.foldl_cons, List.foldl_nil, Json.fieldOrNull,
    Json.field?, lookup_appliedTo]
  cases last.get? name <;> rfl

/-- The changes list exactly the fields in which two records differ, each with its
values in both. -/
structure Explain (changes : Changes) (before after : String → Json) : Prop where
  listed : ∀ name change, (name, change) ∈ changes.fields →
    change.before = before name ∧ change.after = after name ∧ change.before ≠ change.after
  complete : ∀ name, before name ≠ after name → name ∈ changes.names

theorem explain_between (before after : Json) :
    (between before after).Explain before.sorted.fieldOrNull after.sorted.fieldOrNull := by
  constructor
  · intro name change member
    have read := get?_eq_some_iff.mpr member
    rw [get?_between] at read
    split at read
    · cases read
    · rename_i different
      cases read
      rw [Json.fieldOrNull_sorted, Json.fieldOrNull_sorted]
      exact ⟨rfl, rfl, different⟩
  · intro name different
    rw [Json.fieldOrNull_sorted, Json.fieldOrNull_sorted] at different
    have read : (between before after).get? name =
        some (FieldChange.of (before.fieldOrNull name) (after.fieldOrNull name)) := by
      rw [get?_between, if_neg different]
    exact List.mem_map.mpr ⟨_, get?_eq_some_iff.mp read, rfl⟩

end Changes

end BenefitCasework
