import BenefitCasework.Proofs.Effect.Books

/-!
Contract: every task stands where the happenings say.

Owns:
- `Books.Standing`, what happenings say of a task with some exit;
- `Books.Told`, that they say it of every task, and `Told.step`, that every step of the
  books keeps it;
- `Told.finished_of_pending_eq_zero`, `Told.finished_of_absent` and
  `Told.finished_or_running`, which tasks are finished when a count is down.

Does not own: the counts themselves.
-/

namespace BenefitCasework

namespace Books

variable {α : Type} {books next : Books α} {front back : List (Row α)} {id handle : Nat}
  {old new : TaskExit α} {trace happened : List (Happening α)}

/-! ### What the happenings say -/

/-- What happenings say of a task with such an exit. -/
def Standing (trace : List (Happening α)) (id : Nat) : TaskExit α → Prop
  | .working => id ∉ yieldedIn trace
  | .yielded outcome => .yielded id outcome ∈ trace
  | .answered => Finished trace id
  | .uncounted => Finished trace id
  | .released => Finished trace id
  | .told => Finished trace id

/-- Every task stands where the happenings say, and who has left is finished. -/
structure Told (trace : List (Happening α)) (books : Books α) : Prop where
  distinct : (books.rows.map Row.id).Nodup
  handed : handlesIn trace = List.range books.handles
  numbered : startedIn trace = List.range books.started
  home : ∀ row ∈ books.rows, row.id ∈ startedBy trace row.handle
  standing : ∀ row ∈ books.rows, Standing trace row.id row.exit
  gone : ∀ handle, ∀ id ∈ startedBy trace handle,
    (∃ exit, ⟨id, handle, exit⟩ ∈ books.rows) ∨ Finished trace id
  once : (yieldedIn trace).Nodup
  yields : ∀ id ∈ yieldedIn trace, id < books.started

theorem Standing.append {exit : TaskExit α} (standing : Standing trace id exit)
    {more : List (Happening α)} (fresh : exit = .working → id ∉ yieldedIn more) :
    Standing (trace ++ more) id exit := by
  cases exit with
  | working =>
      have absent := fresh rfl
      simp only [Standing, yieldedIn_append, List.mem_append, not_or] at standing ⊢
      exact ⟨standing, absent⟩
  | yielded outcome => exact List.mem_append_left _ standing
  | answered => exact Finished.append standing more
  | uncounted => exact Finished.append standing more
  | released => exact Finished.append standing more
  | told => exact Finished.append standing more

theorem Told.lt_started (told : Told trace books) {row : Row α} (member : row ∈ books.rows) :
    row.id < books.started := by
  have started := mem_startedIn_of_mem_startedBy (told.home row member)
  rw [told.numbered] at started
  exact List.mem_range.mp started

/-- What happens beside the tasks makes no difference. -/
theorem Told.beside (told : Told trace books) (more : List (Happening α))
    (noHandle : handlesIn more = []) (noTask : startedIn more = [])
    (noYield : yieldedIn more = []) : Told (trace ++ more) books where
  distinct := told.distinct
  handed := by rw [handlesIn_append, noHandle, List.append_nil, told.handed]
  numbered := by rw [startedIn_append, noTask, List.append_nil, told.numbered]
  home row member := by
    rw [startedBy_append]
    exact List.mem_append_left _ (told.home row member)
  standing row member := (told.standing row member).append fun _ => by simp [noYield]
  gone handle id started := by
    have none : startedBy more handle = [] := List.eq_nil_iff_forall_not_mem.mpr fun other new =>
      absurd (mem_startedIn_of_mem_startedBy new) (by simp [noTask])
    rw [startedBy_append, none, List.append_nil] at started
    exact (told.gone handle id started).imp_right fun finished => finished.append more
  once := by rw [yieldedIn_append, noYield, List.append_nil]; exact told.once
  yields := by rw [yieldedIn_append, noYield, List.append_nil]; exact told.yields

/-- A row whose exit changes keeps its place. -/
theorem exists_replaced {other given : Nat}
    (present : ∃ exit, ⟨other, given, exit⟩ ∈ front ++ ⟨id, handle, old⟩ :: back) :
    ∃ exit, ⟨other, given, exit⟩ ∈ front ++ (⟨id, handle, new⟩ : Row α) :: back := by
  obtain ⟨exit, member⟩ := present
  rcases mem_middle.mp member with same | elsewhere
  · cases same
    exact ⟨new, mem_middle.mpr (.inl rfl)⟩
  · exact ⟨exit, mem_middle.mpr (.inr elsewhere)⟩

theorem Told.nodup_replaced (told : Told trace books)
    (rows : books.rows = front ++ ⟨id, handle, old⟩ :: back) (new : TaskExit α) :
    ((front ++ ⟨id, handle, new⟩ :: back).map Row.id).Nodup := by
  have distinct := told.distinct
  simp only [rows, List.map_append, List.map_cons] at distinct ⊢
  exact distinct

/-- Only a task itself has its number. -/
theorem Told.apart (told : Told trace books)
    (rows : books.rows = front ++ ⟨id, handle, old⟩ :: back) :
    ∀ row ∈ front ++ back, row.id ≠ id := by
  have distinct := told.distinct
  rw [rows, List.map_append, List.map_cons, List.nodup_middle, ← List.map_append] at distinct
  exact fun row member same => (List.nodup_cons.mp distinct).1
    (List.mem_map.mpr ⟨row, member, same⟩)

/-- An exit may change to where the happenings already say that the task stands. -/
theorem Told.replaced (told : Told trace books)
    (rows : books.rows = front ++ ⟨id, handle, old⟩ :: back) (new : TaskExit α)
    (standing : Standing trace id new) :
    Told trace (books.withRows (front ++ ⟨id, handle, new⟩ :: back)) where
  distinct := told.nodup_replaced rows new
  handed := told.handed
  numbered := told.numbered
  home := forall_replaced (rows ▸ told.home)
    (told.home ⟨id, handle, old⟩ (rows ▸ mem_middle.mpr (.inl rfl)))
  standing := forall_replaced (rows ▸ told.standing) standing
  gone handle id started := (told.gone handle id started).imp_left fun present =>
    exists_replaced (rows ▸ present)
  once := told.once
  yields := told.yields

theorem Told.yielded (told : Told trace books)
    (rows : books.rows = front ++ ⟨id, handle, .working⟩ :: back) (outcome : Option α) :
    Told (trace ++ [.yielded id outcome])
      (books.withRows (front ++ ⟨id, handle, .yielded outcome⟩ :: back)) := by
  have member : ⟨id, handle, .working⟩ ∈ books.rows := rows ▸ mem_middle.mpr (.inl rfl)
  have working : id ∉ yieldedIn trace := told.standing _ member
  have yields : yieldedIn (trace ++ [.yielded id outcome]) = yieldedIn trace ++ [id] :=
    yieldedIn_append trace _
  have starts (given : Nat) :
      startedBy (trace ++ [.yielded id outcome]) given = startedBy trace given :=
    (startedBy_append trace _ given).trans (List.append_nil _)
  exact
    { distinct := told.nodup_replaced rows _
      handed := by rw [handlesIn_append, told.handed]; exact List.append_nil _
      numbered := by rw [startedIn_append, told.numbered]; exact List.append_nil _
      home := by
        simp only [starts]
        exact forall_replaced (rows ▸ told.home) (told.home ⟨id, handle, .working⟩ member)
      standing := by
        intro row present
        rcases mem_middle.mp present with rfl | other
        · exact List.mem_append_right _ List.mem_cons_self
        · refine (told.standing row (rows ▸ mem_middle.mpr (.inr other))).append fun _ yielded => ?_
          exact told.apart rows row other (List.mem_singleton.mp yielded)
      gone := by
        simp only [starts]
        exact fun given other started => (told.gone given other started).imp
          (fun present => exists_replaced (rows ▸ present)) fun finished => finished.append _
      once := by
        rw [yields]
        exact List.nodup_append_comm.mp (List.nodup_cons.mpr ⟨working, told.once⟩)
      yields := by
        rw [yields]
        intro other present
        rcases List.mem_append.mp present with earlier | now
        · exact told.yields other earlier
        · exact List.mem_singleton.mp now ▸ told.lt_started member }

theorem Told.accepted (told : Told trace books) (source : Option Nat) (action : α) (count : Nat) :
    Told (trace ++ [books.acceptance source action count]) (books.accepted count) := by
  have ids : (books.newRows count).map Row.id = List.range' books.started count := by
    simp [newRows, Function.comp_def]
  have yields : yieldedIn (trace ++ [books.acceptance source action count]) = yieldedIn trace := by
    rw [yieldedIn_append]
    exact List.append_nil _
  have numbered : startedIn (trace ++ [books.acceptance source action count]) =
      List.range (books.started + count) := by
    rw [startedIn_append, told.numbered, List.range_eq_range', List.range_eq_range',
      ← List.range'_append_1]
    simp [startedIn, acceptance]
  exact
    { distinct := by
        rw [Books.accepted, List.map_append, ids]
        refine told.distinct.append List.nodup_range' fun id earlier new => ?_
        obtain ⟨row, member, rfl⟩ := List.mem_map.mp earlier
        have below := told.lt_started member
        have above := (List.mem_range'_1.mp new).1
        omega
      handed := by
        rw [handlesIn_append, told.handed]
        exact (List.range_succ).symm
      numbered := numbered
      home := by
        intro row member
        rw [startedBy_append]
        rcases List.mem_append.mp member with earlier | new
        · exact List.mem_append_left _ (told.home row earlier)
        · obtain ⟨id, started, rfl⟩ := List.mem_map.mp new
          exact List.mem_append_right _ (by simpa [startedBy, acceptance] using started)
      standing := by
        intro row member
        rcases List.mem_append.mp member with earlier | new
        · exact (told.standing row earlier).append fun _ absurd => by cases absurd
        · obtain ⟨id, started, rfl⟩ := List.mem_map.mp new
          have above := (List.mem_range'_1.mp started).1
          rw [Standing, yields]
          exact fun yielded => absurd (told.yields id yielded) (by omega)
      gone := fun handle id started => by
        rw [startedBy_append] at started
        rcases List.mem_append.mp started with earlier | new
        · exact (told.gone handle id earlier).imp
            (Exists.imp fun exit present => List.mem_append_left _ present)
            fun finished => finished.append _
        · by_cases same : books.handles = handle
          · refine .inl ⟨.working, List.mem_append_right _ (List.mem_map.mpr ⟨id, ?_, ?_⟩)⟩
            · simpa [startedBy, acceptance, same] using new
            · rw [same]
          · simp [startedBy, acceptance, same] at new
      once := by rw [yields]; exact told.once
      yields := by
        rw [yields]
        exact fun id yielded => Nat.lt_add_right count (told.yields id yielded) }

theorem Told.step (told : Told trace books) (step : Step books happened next) :
    Told (trace ++ happened) next := by
  cases step with
  | idle => simpa using told
  | accept source action count => exact told.accepted source action count
  | refuse source action => exact told.beside _ rfl rfl rfl
  | close => exact told.beside _ rfl rfl rfl
  | yield rows outcome => exact told.yielded rows outcome
  | rest rows =>
      have yields := told.standing _ (rows ▸ List.mem_append_right _ List.mem_cons_self)
      rw [List.append_nil]
      exact told.replaced rows .answered ⟨none, yields, fun action absurd => by cases absurd⟩
  | @feed front back id handle action rows count =>
      -- the action is reduced first, while the task stands where it has yielded
      have yields := told.standing _ (rows ▸ List.mem_append_right _ List.mem_cons_self)
      have split : (books.accepted count).rows =
          front ++ ⟨id, handle, .yielded (some action)⟩ :: (back ++ books.newRows count) := by
        simp [Books.accepted, rows]
      have reduced := (told.accepted (some id) action count).replaced split .answered
        ⟨some action, List.mem_append_left _ yields, fun given same =>
          .inl ⟨books.handles, List.range' books.started count, by
            obtain rfl := Option.some.inj same
            exact List.mem_append_right _ List.mem_cons_self⟩⟩
      simpa [Books.accepted, withRows, newRows] using reduced
  | @drop front back id handle action rows =>
      have yields := told.standing _ (rows ▸ List.mem_append_right _ List.mem_cons_self)
      refine (told.beside [.refused (some id) action] rfl rfl rfl).replaced rows .answered
        ⟨some action, List.mem_append_left _ yields, fun given same => .inr ?_⟩
      obtain rfl := Option.some.inj same
      exact List.mem_append_right _ List.mem_cons_self
  | uncount rows =>
      have finished := told.standing _ (rows ▸ List.mem_append_right _ List.mem_cons_self)
      rw [List.append_nil]
      exact { told.replaced rows .uncounted finished with }
  | release rows =>
      have finished := told.standing _ (rows ▸ List.mem_append_right _ List.mem_cons_self)
      rw [List.append_nil]
      exact { told.replaced rows .released finished with }
  | tell rows =>
      have finished := told.standing _ (rows ▸ List.mem_append_right _ List.mem_cons_self)
      rw [List.append_nil]
      exact { told.replaced rows .told finished with }
  | @leave front back id handle rows =>
      have finished := told.standing _ (rows ▸ List.mem_append_right _ List.mem_cons_self)
      rw [List.append_nil]
      have fewer : (front ++ back).Sublist books.rows :=
        rows ▸ (List.sublist_cons_self _ back).append_left front
      exact
        { told with
          distinct := told.distinct.sublist (fewer.map Row.id)
          home := fun row member => told.home row (fewer.subset member)
          standing := fun row member => told.standing row (fewer.subset member)
          gone := fun given other started => by
            rcases told.gone given other started with ⟨exit, present⟩ | gone
            · rw [rows, List.mem_append, List.mem_cons] at present
              rcases present with before | same | behind
              · exact .inl ⟨exit, List.mem_append_left _ before⟩
              · cases same
                exact .inr finished
              · exact .inl ⟨exit, List.mem_append_right _ behind⟩
            · exact .inr gone }

/-! ### Who is finished -/

/-- A task that does not run any more is finished. -/
theorem Standing.finished {exit : TaskExit α} (standing : Standing trace id exit)
    (ended : exit.isRunning = false) : Finished trace id := by
  cases exit with
  | working => cases ended
  | yielded outcome => cases ended
  | answered => exact standing
  | uncounted => exact standing
  | released => exact standing
  | told => exact standing

/-- A task that was started runs, or it is finished. -/
theorem Told.finished_or_running (told : Told trace books) (started : id ∈ startedIn trace) :
    Finished trace id ∨ ∃ row ∈ books.rows, row.id = id ∧ row.isRunning = true := by
  obtain ⟨happening, present, listed⟩ := List.mem_flatMap.mp started
  cases happening with
  | reduced source action handle ids =>
      have startedHere : id ∈ startedBy trace handle :=
        List.mem_flatMap.mpr ⟨_, present, by simpa using listed⟩
      rcases told.gone handle id startedHere with ⟨exit, member⟩ | finished
      · cases runs : exit.isRunning with
        | true => exact .inr ⟨_, member, rfl, runs⟩
        | false => exact .inl (Standing.finished (told.standing _ member) runs)
      · exact .inl finished
  | yielded task outcome => cases listed
  | refused source action => cases listed
  | closed => cases listed

/-- A handle that no task pends at has only finished tasks. -/
theorem Told.finished_of_pending_eq_zero (told : Told trace books) (counted : Counted books)
    (none : (books.signal handle).pending = 0) :
    ∀ id ∈ startedBy trace handle, Finished trace id := by
  intro id started
  rcases told.gone handle id started with ⟨exit, member⟩ | finished
  · rw [counted.pending handle, List.countP_eq_zero] at none
    refine Standing.finished (told.standing _ member) ?_
    have notPending := none _ member
    cases exit <;> simp_all [Row.pendsAt, TaskExit.isPending, TaskExit.isRunning]
  · exact finished

/-- A handle that no task belongs to any more has only finished tasks. -/
theorem Told.finished_of_absent (told : Told trace books)
    (absent : ∀ row ∈ books.rows, row.handle ≠ handle) :
    ∀ id ∈ startedBy trace handle, Finished trace id := by
  intro id started
  rcases told.gone handle id started with ⟨exit, member⟩ | finished
  · exact absurd rfl (absent _ member)
  · exact finished

end Books

end BenefitCasework
