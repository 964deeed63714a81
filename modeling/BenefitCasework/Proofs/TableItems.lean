import BenefitCasework.Table

/-!
Contract: how many items a table of lists holds.

Owns:
- `Table.itemCount`, the items under all keys together;
- what writing and erasing under one key do to it;
- `Table.eq_nil_of_get?_eq_none`, that a table is empty when nothing is found in it.

Does not own: the items.
-/

namespace BenefitCasework.Table

variable {κ α ν : Type} [DecidableEq κ] {key : κ}

/-- A table in which nothing is found is empty. -/
theorem eq_nil_of_get?_eq_none {table : Table κ ν} (absent : ∀ key, get? key table = none) :
    table = [] := by
  cases table with
  | nil => rfl
  | cons head rest =>
      have first := absent head.1
      simp [get?] at first

/-- The items under all keys. -/
def itemCount : Table κ (List α) → Nat
  | [] => 0
  | entry :: rest => entry.2.length + itemCount rest

section ItemCount

variable {table : Table κ (List α)} {items : List α}

theorem itemCount_set (stored : (get? key table).getD [] = items) (later : List α) :
    itemCount (set key later table) + items.length = itemCount table + later.length := by
  induction table with
  | nil =>
      simp only [get?_nil, Option.getD_none] at stored
      simp [set, itemCount, ← stored]
  | cons head rest inductionHypothesis =>
      obtain ⟨present, first⟩ := head
      by_cases same : present = key
      · simp only [get?, same, if_true, Option.getD_some] at stored
        simp only [set, same, if_true, itemCount, stored]
        omega
      · simp only [get?, same, if_false] at stored
        have others := inductionHypothesis stored
        simp only [set, same, if_false, itemCount]
        omega

theorem itemCount_erase_le (key : κ) (table : Table κ (List α)) :
    itemCount (erase key table) ≤ itemCount table := by
  induction table with
  | nil => exact Nat.le_refl _
  | cons head rest inductionHypothesis =>
      obtain ⟨present, first⟩ := head
      simp only [erase, itemCount]
      split
      · omega
      · simp only [itemCount]
        omega

/-- Where there are no items, none are lost. -/
theorem itemCount_erase (distinct : (keys table).Nodup) (found : get? key table = some []) :
    itemCount (erase key table) = itemCount table := by
  induction table with
  | nil => rfl
  | cons head rest inductionHypothesis =>
      obtain ⟨present, first⟩ := head
      obtain ⟨absent, apart⟩ := List.nodup_cons.mp distinct
      by_cases same : present = key
      · have free : erase key rest = rest := erase_of_not_mem_keys (same ▸ absent)
        simp only [get?, same, if_true, Option.some.injEq] at found
        simp [erase, same, free, itemCount, found]
      · rw [get?, if_neg same] at found
        have others := inductionHypothesis apart found
        simp [erase, same, itemCount, others]

end ItemCount

end BenefitCasework.Table
