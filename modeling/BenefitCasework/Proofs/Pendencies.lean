import BenefitCasework.Pendency

/-!
Contract: what resolving and raising leave of the items of a request.

Owns:
- `Pendency.Becomes` and `GrowInto`, items later on: none is gone, and none is
  altered but for one resolution that an open one has been given;
- `settlements`, the resolutions of items by identifier;
- `PendencyLog.resolveItems`, when it refuses and what it changes.

Does not own: who resolves, and when a request may be handed in again.
-/

namespace BenefitCasework

/-- An item later on. -/
inductive Pendency.Becomes (item : Pendency) : Pendency → Prop where
  | kept : item.Becomes item
  | resolved (resolution : Resolution) (wasOpen : item.isOpen = true) :
      item.Becomes { item with resolution := some resolution }

theorem Pendency.Becomes.trans {first second third : Pendency} (early : first.Becomes second)
    (late : second.Becomes third) : first.Becomes third := by
  cases early with
  | kept => exact late
  | resolved resolution wasOpen =>
      cases late with
      | kept => exact .resolved resolution wasOpen
      | resolved another stillOpen => cases stillOpen

theorem Pendency.Becomes.cycle_eq {item after : Pendency} (becomes : item.Becomes after) :
    after.cycle = item.cycle := by
  cases becomes <;> rfl

/-- Items later on, each at its place, with others behind them. -/
def GrowInto (earlier later : List Pendency) : Prop :=
  ∀ (place : Nat) (item : Pendency), earlier[place]? = some item →
    ∃ after, later[place]? = some after ∧ item.Becomes after

theorem GrowInto.refl (items : List Pendency) : GrowInto items items :=
  fun _ item found => ⟨item, found, .kept⟩

theorem GrowInto.trans {first second third : List Pendency} (early : GrowInto first second)
    (late : GrowInto second third) : GrowInto first third := by
  intro place item found
  obtain ⟨between, foundBetween, becomes⟩ := early place item found
  obtain ⟨after, foundAfter, becomesAfter⟩ := late place between foundBetween
  exact ⟨after, foundAfter, becomes.trans becomesAfter⟩

theorem GrowInto.exists_of_mem {earlier later : List Pendency} (grown : GrowInto earlier later)
    {item : Pendency} (member : item ∈ earlier) : ∃ after ∈ later, item.Becomes after := by
  obtain ⟨place, found⟩ := List.mem_iff_getElem?.mp member
  obtain ⟨after, foundAfter, becomes⟩ := grown place item found
  exact ⟨after, List.mem_of_getElem? foundAfter, becomes⟩

theorem growInto_append (items added : List Pendency) : GrowInto items (items ++ added) := by
  intro place item found
  have below := (List.getElem?_eq_some_iff.mp found).1
  exact ⟨item, by rw [List.getElem?_append_left below, found], .kept⟩

theorem growInto_resolved {item : Pendency} (wasOpen : item.isOpen = true) (resolution : Resolution)
    (front back : List Pendency) :
    GrowInto (front ++ item :: back)
      (front ++ { item with resolution := some resolution } :: back) := by
  intro place other found
  rcases Nat.lt_trichotomy place front.length with before | same | behind
  · rw [List.getElem?_append_left before] at found ⊢
    exact ⟨other, found, .kept⟩
  · subst same
    rw [List.getElem?_append_right (Nat.le_refl _), Nat.sub_self, List.getElem?_cons_zero] at found ⊢
    cases found
    exact ⟨_, rfl, .resolved resolution wasOpen⟩
  · obtain ⟨further, farther⟩ := Nat.exists_eq_add_of_lt behind
    have offset : place - front.length = further + 1 := by omega
    rw [List.getElem?_append_right (Nat.le_of_lt behind), offset, List.getElem?_cons_succ]
      at found ⊢
    exact ⟨other, found, .kept⟩

/-- What stands there once an item is resolved is that item, or stood there before. -/
theorem mem_of_mem_resolved {item other : Pendency} {resolution : Resolution}
    {front back : List Pendency}
    (member : other ∈ front ++ { item with resolution := some resolution } :: back) :
    other = { item with resolution := some resolution } ∨ other ∈ front ++ item :: back := by
  rcases List.mem_append.mp member with before | after
  · exact .inr (List.mem_append_left _ before)
  · rcases List.mem_cons.mp after with same | behind
    · exact .inl same
    · exact .inr (List.mem_append_right _ (List.mem_cons_of_mem _ behind))

/-! ### Resolutions by identifier -/

def Pendency.settlement? (item : Pendency) : Option (Identifier × Resolution) :=
  item.resolution.map fun resolution => (item.id, resolution)

/-- The resolutions of items, each with the identifier of its item. -/
def settlements (items : List Pendency) : List (Identifier × Resolution) :=
  items.filterMap Pendency.settlement?

theorem settlement?_of_isOpen {item : Pendency} (isOpen : item.isOpen = true) :
    item.settlement? = none := by
  simpa [Pendency.settlement?, Pendency.isOpen] using isOpen

theorem settlements_of_open {items : List Pendency}
    (isOpen : ∀ item ∈ items, item.isOpen = true) : settlements items = [] :=
  List.filterMap_eq_nil_iff.mpr fun item member => settlement?_of_isOpen (isOpen item member)

theorem settlement?_of_closed {item : Pendency} (closed : item.isOpen = false) :
    ∃ resolution, item.settlement? = some (item.id, resolution) := by
  obtain ⟨resolution, resolved⟩ : ∃ resolution, item.resolution = some resolution :=
    Option.isSome_iff_exists.mp (by simpa [Pendency.isOpen] using closed)
  exact ⟨resolution, by rw [Pendency.settlement?, resolved, Option.map_some]⟩

/-- Each item is open or settled. -/
theorem length_open_add_length_settlements (items : List Pendency) :
    (items.filter Pendency.isOpen).length + (settlements items).length = items.length := by
  induction items with
  | nil => rfl
  | cons item rest inductionHypothesis =>
      unfold settlements at inductionHypothesis ⊢
      by_cases isOpen : item.isOpen = true
      · rw [List.filter_cons_of_pos isOpen,
          List.filterMap_cons_none (settlement?_of_isOpen isOpen)]
        simp only [List.length_cons]
        omega
      · obtain ⟨resolution, settled⟩ := settlement?_of_closed (Bool.eq_false_iff.mpr isOpen)
        rw [List.filter_cons_of_neg isOpen, List.filterMap_cons_some settled]
        simp only [List.length_cons]
        omega

theorem map_fst_settlements_of_closed {items : List Pendency}
    (closed : ∀ item ∈ items, item.isOpen = false) :
    (settlements items).map Prod.fst = items.map Pendency.id := by
  induction items with
  | nil => rfl
  | cons item rest inductionHypothesis =>
      have others := inductionHypothesis fun other member =>
        closed other (List.mem_cons_of_mem item member)
      obtain ⟨resolution, settled⟩ := settlement?_of_closed (closed item List.mem_cons_self)
      rw [settlements, List.filterMap_cons_some settled, List.map_cons, List.map_cons]
      exact congrArg (item.id :: ·) others

/-- An open item that is resolved adds its settlement. -/
theorem perm_settlements_resolved {item : Pendency} (wasOpen : item.isOpen = true)
    (resolution : Resolution) (front back : List Pendency) :
    (settlements (front ++ { item with resolution := some resolution } :: back)).Perm
      (settlements (front ++ item :: back) ++ [(item.id, resolution)]) := by
  have unsettled : settlements (item :: back) = settlements back :=
    List.filterMap_cons_none (settlement?_of_isOpen wasOpen)
  have settled : settlements ({ item with resolution := some resolution } :: back) =
      (item.id, resolution) :: settlements back := rfl
  simp only [settlements, List.filterMap_append] at unsettled settled ⊢
  rw [unsettled, settled, List.append_assoc]
  exact (List.perm_append_singleton _ _).symm.append_left _

/-! ### Resolving an item -/

namespace PendencyLog

variable {id : Identifier} {resolution : Resolution} {items resolved : List Pendency}

/-- Resolving changes one item that was open. -/
theorem exists_of_resolveItems (done : resolveItems id resolution items = .ok resolved) :
    ∃ front item back, items = front ++ item :: back ∧ item.id = id ∧ item.isOpen = true ∧
      resolved = front ++ { item with resolution := some resolution } :: back := by
  induction items generalizing resolved with
  | nil => cases done
  | cons first rest inductionHypothesis =>
      rw [resolveItems] at done
      by_cases same : first.id = id
      · rw [if_pos same] at done
        split at done
        · rename_i isOpen
          cases done
          exact ⟨[], first, rest, rfl, same, isOpen, rfl⟩
        · cases done
      · rw [if_neg same] at done
        split at done
        · rename_i others found
          cases done
          obtain ⟨front, item, back, rfl, sameId, isOpen, rfl⟩ := inductionHypothesis found
          exact ⟨first :: front, item, back, rfl, sameId, isOpen, rfl⟩
        · cases done

/-- Closed items in front of the others are passed over. -/
theorem resolveItems_append_of_closed {closed : List Pendency}
    (allClosed : ∀ item ∈ closed, item.isOpen = false)
    (done : resolveItems id resolution (closed ++ items) = .ok resolved) :
    ∃ others, resolveItems id resolution items = .ok others ∧ resolved = closed ++ others := by
  induction closed generalizing resolved with
  | nil => exact ⟨resolved, done, rfl⟩
  | cons first rest inductionHypothesis =>
      rw [List.cons_append, resolveItems] at done
      split at done
      · rw [if_neg (by simp [allClosed first List.mem_cons_self])] at done
        cases done
      · split at done
        · rename_i behind found
          cases done
          obtain ⟨others, resolvedOthers, rfl⟩ := inductionHypothesis
            (fun item member => allClosed item (List.mem_cons_of_mem first member)) found
          exact ⟨others, resolvedOthers, rfl⟩
        · cases done

/-- An item cannot be resolved when it is not there, or when the first of its
identifier is closed. -/
theorem resolveItems_eq_error_iff {reason : PendencyError} :
    resolveItems id resolution items = .error reason ↔
      match items.find? fun item => item.id == id with
      | none => reason = .notFound id
      | some item => item.isOpen = false ∧ reason = .alreadyResolved id := by
  induction items with
  | nil => simp [resolveItems, eq_comm]
  | cons first rest inductionHypothesis =>
      by_cases same : first.id = id
      · rw [List.find?_cons_of_pos (by simpa using same), resolveItems, if_pos same]
        by_cases isOpen : first.isOpen = true
        · simp [isOpen]
        · simp [isOpen, eq_comm]
      · rw [List.find?_cons_of_neg (by simpa using same), resolveItems, if_neg same,
          ← inductionHypothesis]
        cases resolveItems id resolution rest <;> simp

variable {log : PendencyLog} {user : Identifier} {moment : Instant} {note : String}

theorem resolve_eq_error_iff {reason : PendencyError} :
    log.resolve id user moment note = .error reason ↔
      (log.get? id = none ∧ reason = .notFound id) ∨
        ∃ item, log.get? id = some item ∧ item.isOpen = false ∧ reason = .alreadyResolved id := by
  have same : log.resolve id user moment note = .error reason ↔
      resolveItems id ⟨user, moment, note⟩ log.items = .error reason := by
    unfold resolve
    cases resolveItems id ⟨user, moment, note⟩ log.items <;> simp
  rw [same, resolveItems_eq_error_iff, get?]
  cases log.items.find? fun item => item.id == id <;> simp

/-- Resolving leaves the cycle alone. -/
theorem resolve_eq_ok_iff {next : PendencyLog} :
    log.resolve id user moment note = .ok next ↔
      resolveItems id ⟨user, moment, note⟩ log.items = .ok next.items ∧
        next.cycle = log.cycle := by
  obtain ⟨items, cycle⟩ := next
  unfold resolve
  cases resolveItems id ⟨user, moment, note⟩ log.items <;> simp [eq_comm]

end PendencyLog

end BenefitCasework
