import BenefitCasework.Json.Basic

/-!
Contract: the sorted form of a value.

Owns:
- `Json.Ordered`, fields that stand by name, each name once;
- `Json.ordered_put` and `Json.ordered_sortedFields`, which say that writing a
  field and sorting give such fields;
- `Json.sorted_sorted`: sorting twice is sorting once.

Does not own: the text of sorted values.
-/

namespace BenefitCasework.Json

def Ordered (fields : JsonFields) : Prop :=
  fields.Pairwise fun left right => left.1 < right.1

theorem lt_of_not_lt_of_ne {left right : String} (unequal : left ≠ right)
    (notBelow : ¬ left < right) : right < left :=
  Decidable.by_contra fun notAbove =>
    unequal (String.le_antisymm (String.not_lt.mp notAbove) (String.not_lt.mp notBelow))

/-- A name among the fields after writing one is that one or was there. -/
theorem mem_put {name : String} {value : Json} {fields : JsonFields} {pair : String × Json}
    (member : pair ∈ put name value fields) : pair = (name, value) ∨ pair ∈ fields := by
  induction fields with
  | nil => simpa [put] using member
  | cons head rest inductionHypothesis =>
      obtain ⟨other, old⟩ := head
      simp only [put] at member
      split at member
      · rcases List.mem_cons.mp member with equal | old
        · exact Or.inl equal
        · exact Or.inr (List.mem_cons_of_mem _ old)
      · split at member
        · rcases List.mem_cons.mp member with equal | old
          · exact Or.inl equal
          · exact Or.inr old
        · rcases List.mem_cons.mp member with equal | later
          · exact Or.inr (equal ▸ List.mem_cons_self)
          · rcases inductionHypothesis later with equal | old
            · exact Or.inl equal
            · exact Or.inr (List.mem_cons_of_mem _ old)

/-- Writing a field keeps the fields in order. -/
theorem ordered_put (name : String) (value : Json) {fields : JsonFields}
    (ordered : Ordered fields) : Ordered (put name value fields) := by
  induction fields with
  | nil => simp [put, Ordered]
  | cons head rest inductionHypothesis =>
      obtain ⟨other, old⟩ := head
      have parts := List.pairwise_cons.mp ordered
      simp only [put]
      split
      · rename_i equal
        subst equal
        exact List.pairwise_cons.mpr parts
      · rename_i unequal
        split
        · rename_i below
          refine List.pairwise_cons.mpr ⟨?_, ordered⟩
          intro pair member
          rcases List.mem_cons.mp member with equal | later
          · exact equal ▸ below
          · exact String.lt_trans below (parts.1 pair later)
        · rename_i notBelow
          refine List.pairwise_cons.mpr ⟨?_, inductionHypothesis parts.2⟩
          intro pair member
          rcases mem_put member with equal | later
          · exact equal ▸ lt_of_not_lt_of_ne unequal notBelow
          · exact parts.1 pair later

/-- Sorted fields are in order. -/
theorem ordered_sortedFields (fields : JsonFields) : Ordered (sortedFields fields) := by
  induction fields with
  | nil => simp [sortedFields, Ordered]
  | cons head rest inductionHypothesis =>
      obtain ⟨name, value⟩ := head
      exact ordered_put name _ inductionHypothesis

/-- Writing a field in front of larger names puts it there. -/
theorem put_of_ordered {name : String} {value : Json} {fields : JsonFields}
    (ordered : Ordered ((name, value) :: fields)) :
    put name value fields = (name, value) :: fields := by
  cases fields with
  | nil => rfl
  | cons head rest =>
      obtain ⟨other, old⟩ := head
      have below : name < other := (List.pairwise_cons.mp ordered).1 _ List.mem_cons_self
      have unequal : name ≠ other := fun equal => String.lt_irrefl other (equal ▸ below)
      simp [put, unequal, below]

/-- Fields in order whose values are sorted are left as they are. -/
theorem sortedFields_of_ordered {fields : JsonFields} (ordered : Ordered fields)
    (values : ∀ pair ∈ fields, sorted pair.2 = pair.2) : sortedFields fields = fields := by
  induction fields with
  | nil => rfl
  | cons head rest inductionHypothesis =>
      obtain ⟨name, value⟩ := head
      have parts := List.pairwise_cons.mp ordered
      have sortedRest := inductionHypothesis parts.2 fun pair member =>
        values pair (List.mem_cons_of_mem _ member)
      have sortedValue : sorted value = value := values (name, value) List.mem_cons_self
      simp only [sortedFields, sortedRest, sortedValue]
      exact put_of_ordered ordered

mutual

/-- Sorting twice is sorting once. -/
theorem sorted_sorted : ∀ value : Json, sorted (sorted value) = sorted value
  | .null => rfl
  | .boolean _ => rfl
  | .integer _ => rfl
  | .decimal _ => rfl
  | .string _ => rfl
  | .array items => congrArg Json.array (sortedItems_sortedItems items)
  | .object fields => congrArg Json.object (sortedFields_of_ordered (ordered_sortedFields fields)
      (sorted_of_mem_sortedFields fields))

theorem sortedItems_sortedItems : ∀ items : List Json,
    sortedItems (sortedItems items) = sortedItems items
  | [] => rfl
  | item :: rest => by
      simp only [sortedItems, sorted_sorted item, sortedItems_sortedItems rest]

theorem sorted_of_mem_sortedFields : ∀ (fields : JsonFields),
    ∀ pair ∈ sortedFields fields, sorted pair.2 = pair.2
  | [], _, member => by simp [sortedFields] at member
  | (name, value) :: rest, pair, member => by
      simp only [sortedFields] at member
      rcases mem_put member with equal | later
      · rw [equal]
        exact sorted_sorted value
      · exact sorted_of_mem_sortedFields rest pair later

end

end BenefitCasework.Json
