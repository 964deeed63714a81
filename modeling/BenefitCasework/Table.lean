/-!
Contract: finite tables that keep at most one value for each key.

Owns:
- `Table.get?`, `Table.set` and `Table.erase`;
- the laws that reading sees the last writing and nothing else;
- the law that no key comes twice.

A key that is set again keeps its place. Does not own: any order that an
answer shows.
-/

namespace BenefitCasework

/-- A list of keys with their values. -/
abbrev Table (κ ν : Type) := List (κ × ν)

namespace Table

variable {κ ν : Type} [DecidableEq κ]

def get? (key : κ) : Table κ ν → Option ν
  | [] => none
  | (other, value) :: rest => if other = key then some value else get? key rest

def set (key : κ) (value : ν) : Table κ ν → Table κ ν
  | [] => [(key, value)]
  | (other, old) :: rest =>
      if other = key then (key, value) :: rest else (other, old) :: set key value rest

def erase (key : κ) : Table κ ν → Table κ ν
  | [] => []
  | (other, value) :: rest =>
      if other = key then erase key rest else (other, value) :: erase key rest

def keys (table : Table κ ν) : List κ := table.map Prod.fst

@[simp]
theorem get?_nil (key : κ) : get? key ([] : Table κ ν) = none := rfl

@[simp]
theorem get?_set_self (key : κ) (value : ν) (table : Table κ ν) :
    get? key (set key value table) = some value := by
  induction table with
  | nil => simp [set, get?]
  | cons head rest inductionHypothesis =>
      obtain ⟨other, old⟩ := head
      by_cases same : other = key
      · simp [set, get?, same]
      · simp [set, get?, same, inductionHypothesis]

theorem get?_set_of_ne {key other : κ} (different : other ≠ key) (value : ν)
    (table : Table κ ν) : get? other (set key value table) = get? other table := by
  have unequal : ¬ key = other := fun equal => different equal.symm
  induction table with
  | nil => simp [set, get?, unequal]
  | cons head rest inductionHypothesis =>
      obtain ⟨present, old⟩ := head
      by_cases same : present = key
      · subst same
        simp [set, get?, unequal]
      · simp only [set, same, if_false, get?, inductionHypothesis]

theorem isSome_get?_set_iff {key other : κ} {value : ν} {table : Table κ ν} :
    (get? other (set key value table)).isSome = true ↔
      other = key ∨ (get? other table).isSome = true := by
  by_cases same : other = key
  · simp [same]
  · simp [get?_set_of_ne same, same]

@[simp]
theorem get?_erase_self (key : κ) (table : Table κ ν) : get? key (erase key table) = none := by
  induction table with
  | nil => rfl
  | cons head rest inductionHypothesis =>
      obtain ⟨present, old⟩ := head
      by_cases same : present = key
      · simp [erase, same, inductionHypothesis]
      · simp [erase, get?, same, inductionHypothesis]

theorem get?_erase_of_ne {key other : κ} (different : other ≠ key) (table : Table κ ν) :
    get? other (erase key table) = get? other table := by
  induction table with
  | nil => rfl
  | cons head rest inductionHypothesis =>
      obtain ⟨present, old⟩ := head
      by_cases same : present = key
      · have unequal : ¬ present = other := fun equal => different (equal.symm.trans same)
        rw [erase, if_pos same, inductionHypothesis, get?, if_neg unequal]
      · simp [erase, get?, same, inductionHypothesis]

theorem mem_keys_iff {key : κ} {table : Table κ ν} :
    key ∈ keys table ↔ (get? key table).isSome = true := by
  induction table with
  | nil => simp [keys]
  | cons head rest inductionHypothesis =>
      obtain ⟨present, value⟩ := head
      by_cases same : present = key
      · simp [keys, get?, same]
      · have other : ¬ key = present := fun equal => same equal.symm
        rw [get?, if_neg same, ← inductionHypothesis]
        simp [keys, other]

theorem erase_of_not_mem_keys {key : κ} {table : Table κ ν} (absent : key ∉ keys table) :
    erase key table = table := by
  induction table with
  | nil => rfl
  | cons head rest inductionHypothesis =>
      obtain ⟨present, value⟩ := head
      obtain ⟨other, notBehind⟩ := not_or.mp fun member => absent (List.mem_cons.mpr member)
      rw [erase, if_neg fun equal => other equal.symm, inductionHypothesis notBehind]

theorem nodup_keys_set {table : Table κ ν} (distinct : (keys table).Nodup) (key : κ) (value : ν) :
    (keys (set key value table)).Nodup := by
  induction table with
  | nil => simp [set, keys]
  | cons head rest inductionHypothesis =>
      obtain ⟨present, old⟩ := head
      obtain ⟨absent, apart⟩ := List.nodup_cons.mp distinct
      by_cases same : present = key
      · rw [set, if_pos same]
        exact List.nodup_cons.mpr ⟨same ▸ absent, apart⟩
      · rw [set, if_neg same]
        refine List.nodup_cons.mpr ⟨fun member => absent ?_, inductionHypothesis apart⟩
        rcases isSome_get?_set_iff.mp (mem_keys_iff.mp member) with equal | stored
        · exact absurd equal same
        · exact mem_keys_iff.mpr stored

theorem nodup_keys_erase {table : Table κ ν} (distinct : (keys table).Nodup) (key : κ) :
    (keys (erase key table)).Nodup := by
  induction table with
  | nil => exact distinct
  | cons head rest inductionHypothesis =>
      obtain ⟨present, old⟩ := head
      obtain ⟨absent, apart⟩ := List.nodup_cons.mp distinct
      by_cases same : present = key
      · rw [erase, if_pos same]
        exact inductionHypothesis apart
      · rw [erase, if_neg same]
        refine List.nodup_cons.mpr ⟨fun member => absent ?_, inductionHypothesis apart⟩
        have stored := mem_keys_iff.mp member
        rw [get?_erase_of_ne same] at stored
        exact mem_keys_iff.mpr stored

end Table

end BenefitCasework
