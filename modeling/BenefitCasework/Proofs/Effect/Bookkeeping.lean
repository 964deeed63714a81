import BenefitCasework.Proofs.Effect.Standing
import BenefitCasework.Proofs.Effect.Running

/-!
Contract: a tracked store keeps books.

Owns:
- `TrackedStore.books`, the books that a tracked store keeps;
- `TrackedStore.Fresh`, that no task has gone on its way before it was started;
- `TrackedStore.counted_between_starts`, that the counts hold between the starts of the
  tasks of an action, and `store_offer_of_going`, what these starts come to;
- `TrackedStore.offer_step` and `TrackedStore.advance_step`, that whatever a store does
  is a step of its books.

Does not own: what a step of books keeps.
-/

namespace BenefitCasework

namespace TrackedStore

variable {σ ρ α ε : Type} {tracked : TrackedStore σ ρ α ε} {front back : List (RunningTask ε)}
  {task : RunningTask ε} {id handle : Nat}

/-! ### Exits and signals -/

@[simp]
theorem exit_withExit_self (tracked : TrackedStore σ ρ α ε) (id : Nat) (exit : TaskExit α) :
    (tracked.withExit id exit).exit id = exit := by
  simp [withExit, TrackedStore.exit]

theorem exit_withExit_of_ne {other : Nat} (different : other ≠ id)
    (tracked : TrackedStore σ ρ α ε) (exit : TaskExit α) :
    (tracked.withExit id exit).exit other = tracked.exit other := by
  simp [withExit, TrackedStore.exit, Table.get?_set_of_ne different]

theorem signal_withSignal (tracked : TrackedStore σ ρ α ε) (handle : Nat) (signal : Signal) :
    (tracked.withSignal handle signal).signal = Function.update tracked.signal handle signal := by
  funext other
  by_cases same : other = handle
  · subst same
    simp [withSignal, TrackedStore.signal]
  · simp [withSignal, TrackedStore.signal, Table.get?_set_of_ne same, Function.update_of_ne same]

/-- No task has gone on its way before it was started. -/
def Fresh (tracked : TrackedStore σ ρ α ε) : Prop :=
  ∀ id, tracked.store.started ≤ id → tracked.exit id = .working

/-! ### The books of a store -/

def row (tracked : TrackedStore σ ρ α ε) (task : RunningTask ε) : Row α :=
  ⟨task.id, task.handle, tracked.exit task.id⟩

/-- The books that a store keeps. -/
def books (tracked : TrackedStore σ ρ α ε) : Books α :=
  { rows := tracked.store.running.map tracked.row
    signal := tracked.signal
    inFlight := tracked.inFlight
    handles := tracked.store.handles
    started := tracked.store.started }

theorem rows_of_running (running : tracked.store.running = front ++ task :: back) :
    tracked.books.rows = front.map tracked.row ++
      ⟨task.id, task.handle, tracked.exit task.id⟩ :: back.map tracked.row := by
  simp [books, running, row]

/-- The exit of one task is written into its row and into no other. -/
theorem rows_withExit (orderly : tracked.store.Orderly)
    (running : tracked.store.running = front ++ task :: back) (exit : TaskExit α) :
    (tracked.withExit task.id exit).books.rows =
      front.map tracked.row ++ ⟨task.id, task.handle, exit⟩ :: back.map tracked.row := by
  have others := orderly.apart running
  have unchanged (part : List (RunningTask ε)) (apart : ∀ other ∈ part, other.id ≠ task.id) :
      part.map (tracked.withExit task.id exit).row = part.map tracked.row := by
    refine List.map_congr_left fun other member => ?_
    rw [row, row, exit_withExit_of_ne (apart other member)]
  change tracked.store.running.map (tracked.withExit task.id exit).row = _
  rw [running, List.map_append, List.map_cons,
    unchanged front fun other member => others other (List.mem_append_left _ member),
    unchanged back fun other member => others other (List.mem_append_right _ member), row,
    exit_withExit_self]

theorem books_withExit (tracked : TrackedStore σ ρ α ε) (orderly : tracked.store.Orderly)
    (running : tracked.store.running = front ++ task :: back) (exit : TaskExit α) :
    (tracked.withExit task.id exit).books = tracked.books.withRows
      (front.map tracked.row ++ ⟨task.id, task.handle, exit⟩ :: back.map tracked.row) := by
  rw [← rows_withExit orderly running exit]
  rfl

theorem books_withSignal (tracked : TrackedStore σ ρ α ε) (handle : Nat) (signal : Signal) :
    (tracked.withSignal handle signal).books = tracked.books.withSignal handle signal := by
  rw [books, signal_withSignal]
  rfl

/-- A store whose happenings tell what its books say tells its tasks apart. -/
theorem orderly_of_told {trace : List (Happening α)} (told : Books.Told trace tracked.books) :
    tracked.store.Orderly := by
  constructor
  · have distinct := told.distinct
    rwa [books, List.map_map] at distinct
  · intro task member
    exact told.lt_started (List.mem_map_of_mem (f := tracked.row) member)

/-! ### Sending -/

variable {workshop : Workshop σ ρ α ε}

theorem offer_of_closing (closing : tracked.store.closing = true) (source : Option Nat)
    (action : α) : tracked.offer workshop source action = (tracked, .refused source action) := by
  simp [offer, closing]

theorem offer_of_going (going : tracked.store.closing = false) (source : Option Nat)
    (action : α) : tracked.offer workshop source action =
      ((tracked.reduce workshop action).2.foldl (startTask tracked.store.handles)
          (tracked.reduce workshop action).1,
        tracked.books.acceptance source action (tracked.reduce workshop action).2.length) := by
  simp [offer, going, Books.acceptance, books]

/-- A reduction leaves the tasks alone and opens its handle. -/
theorem books_reduce (workshop : Workshop σ ρ α ε) (tracked : TrackedStore σ ρ α ε) (action : α) :
    (tracked.reduce workshop action).1.books = tracked.books.opened := by
  rw [reduce, books_withSignal]
  rfl

theorem fresh_reduce (fresh : tracked.Fresh) (workshop : Workshop σ ρ α ε) (action : α) :
    (tracked.reduce workshop action).1.Fresh := fresh

theorem fresh_startTask (fresh : tracked.Fresh) (handle : Nat) (content : ε) :
    (startTask handle tracked content).Fresh :=
  fun id above => fresh id (Nat.le_of_succ_le above)

theorem books_startTask (fresh : tracked.Fresh) (handle : Nat) (content : ε) :
    (startTask handle tracked content).books = tracked.books.spawned handle := by
  have signal : (startTask handle tracked content).signal = _ :=
    signal_withSignal tracked handle _
  have rows : (startTask handle tracked content).store.running.map
      (startTask handle tracked content).row =
        tracked.books.rows ++ [⟨tracked.store.started, handle, .working⟩] := by
    have exit := fresh tracked.store.started le_rfl
    change (tracked.store.running ++ [_]).map tracked.row = _
    simp [books, row, withSignal, exit]
  rw [books, signal, rows]
  rfl

/-- So many starts are as many starts in the books. -/
theorem books_foldl_startTask (fresh : tracked.Fresh) (handle : Nat) (contents : List ε) :
    (contents.foldl (startTask handle) tracked).books =
      (Books.spawned handle)^[contents.length] tracked.books := by
  induction contents generalizing tracked with
  | nil => rfl
  | cons content rest inductionHypothesis =>
      rw [List.foldl_cons, inductionHypothesis (fresh_startTask fresh handle content),
        books_startTask fresh, List.length_cons, Function.iterate_succ_apply]

/-- Between the starts of the tasks of an action, too, the counts count the tasks. -/
theorem counted_between_starts (counted : Books.Counted tracked.books) (fresh : tracked.Fresh)
    (workshop : Workshop σ ρ α ε) (action : α) (count : Nat) :
    Books.Counted (((tracked.reduce workshop action).2.take count).foldl
      (startTask tracked.store.handles) (tracked.reduce workshop action).1).books := by
  rw [books_foldl_startTask (fresh_reduce fresh workshop action), books_reduce]
  exact counted.opened.iterate_spawned (Nat.lt_succ_self _) _

theorem exit_foldl_startTask (handle : Nat) (tracked : TrackedStore σ ρ α ε) (contents : List ε) :
    (contents.foldl (startTask handle) tracked).exit = tracked.exit := by
  induction contents generalizing tracked with
  | nil => rfl
  | cons content rest inductionHypothesis => exact inductionHypothesis _

theorem store_foldl_startTask (handle : Nat) (tracked : TrackedStore σ ρ α ε) (contents : List ε) :
    (contents.foldl (startTask handle) tracked).store =
      { tracked.store with
        running := tracked.store.running ++ contents.mapIdx fun place content =>
          ⟨tracked.store.started + place, handle, content, .fresh⟩
        started := tracked.store.started + contents.length } := by
  induction contents generalizing tracked with
  | nil => simp
  | cons content rest inductionHypothesis =>
      rw [List.foldl_cons, inductionHypothesis]
      simp [startTask, withSignal, List.mapIdx_cons, Nat.add_assoc, Nat.add_comm 1]

/-- The starts one by one do to the store what all of them at once do. -/
theorem store_offer_of_going (workshop : Workshop σ ρ α ε)
    (going : tracked.store.closing = false) (source : Option Nat) (action : α) :
    (tracked.offer workshop source action).1.store =
      (EffectStore.accept workshop tracked.store action).1 := by
  rw [offer_of_going going, store_foldl_startTask]
  simp [reduce, withSignal, EffectStore.accept, EffectStore.tasksOf]

theorem books_offer_of_going (fresh : tracked.Fresh) (going : tracked.store.closing = false)
    (source : Option Nat) (action : α) : (tracked.offer workshop source action).1.books =
      tracked.books.accepted (tracked.reduce workshop action).2.length := by
  rw [offer_of_going going, books_foldl_startTask (fresh_reduce fresh workshop action),
    books_reduce, Books.accepted_eq_iterate]
  rfl

theorem rows_tasksOf (fresh : tracked.Fresh) (effects : List (Effect ε)) :
    (tracked.store.tasksOf effects).map tracked.row =
      tracked.books.newRows (effects.filterMap Effect.task?).length := by
  have new : ∀ task ∈ tracked.store.tasksOf effects,
      tracked.row task = ⟨task.id, tracked.store.handles, .working⟩ := by
    intro task member
    obtain ⟨place, below, rfl⟩ := List.mem_mapIdx.mp member
    simp [row, fresh (tracked.store.started + place) (Nat.le_add_right _ _)]
  have length : (tracked.store.tasksOf effects).length =
      (effects.filterMap Effect.task?).length := List.length_mapIdx
  rw [List.map_congr_left new, Books.newRows,
    show tracked.books.started = tracked.store.started from rfl, ← length,
    ← EffectStore.ids_tasksOf, List.map_map]
  rfl

/-- Sending an action is a step of the books. -/
theorem offer_step (fresh : tracked.Fresh) (source : Option Nat) (action : α) :
    Books.Step tracked.books [(tracked.offer workshop source action).2]
      (tracked.offer workshop source action).1.books := by
  cases closing : tracked.store.closing with
  | false =>
      rw [books_offer_of_going fresh closing, offer_of_going closing]
      exact .accept _ source action _
  | true =>
      rw [offer_of_closing closing]
      exact .refuse _ source action

theorem exit_offer (workshop : Workshop σ ρ α ε) (tracked : TrackedStore σ ρ α ε)
    (source : Option Nat) (action : α) :
    (tracked.offer workshop source action).1.exit = tracked.exit := by
  cases closing : tracked.store.closing with
  | false =>
      rw [offer_of_going closing]
      exact exit_foldl_startTask _ _ _
  | true => rw [offer_of_closing closing]

theorem fresh_offer (fresh : tracked.Fresh) (source : Option Nat) (action : α) :
    (tracked.offer workshop source action).1.Fresh := by
  intro id above
  rw [exit_offer]
  exact fresh id ((offer_step fresh source action).started_le.trans above)

/-! ### The way of a task -/

section Way

variable (orderly : tracked.store.Orderly)
  (running : tracked.store.running = front ++ task :: back) (now : Nat)

include orderly running

theorem find?_of_running : tracked.store.running.find? (fun other => other.id == task.id) =
    some task := by
  refine List.find?_eq_some_iff_append.mpr ⟨beq_self_eq_true _, front, back, running, ?_⟩
  intro other member
  simpa using orderly.apart running other (List.mem_append_left _ member)

theorem advance_of_fresh (exit : tracked.exit task.id = .working) (phase : task.phase = .fresh) :
    tracked.advance workshop task.id now = (tracked.begin workshop task now, []) := by
  simp only [advance, find?_of_running orderly running, exit, phase]

theorem advance_of_asleep {wakeAt ticket : Nat} (exit : tracked.exit task.id = .working)
    (phase : task.phase = .asleep wakeAt ticket) : tracked.advance workshop task.id now =
      if wakeAt ≤ now then tracked.complete workshop task ticket else (tracked, []) := by
  simp only [advance, find?_of_running orderly running, exit, phase]

theorem advance_of_yielded {action : Option α} (exit : tracked.exit task.id = .yielded action) :
    tracked.advance workshop task.id now = tracked.answer workshop task.id action := by
  simp only [advance, find?_of_running orderly running, exit]

theorem advance_of_answered (exit : tracked.exit task.id = .answered) :
    tracked.advance workshop task.id now =
      ({ tracked with inFlight := tracked.inFlight - 1 }.withExit task.id .uncounted, []) := by
  simp only [advance, find?_of_running orderly running, exit]

theorem advance_of_uncounted (exit : tracked.exit task.id = .uncounted) :
    tracked.advance workshop task.id now = ((tracked.withSignal task.handle { tracked.signal
      task.handle with pending := (tracked.signal task.handle).pending - 1 }).withExit task.id
        .released, []) := by
  simp only [advance, find?_of_running orderly running, exit]

theorem advance_of_released (exit : tracked.exit task.id = .released) :
    tracked.advance workshop task.id now = ((tracked.withSignal task.handle
      { tracked.signal task.handle with told := (tracked.signal task.handle).told + 1 }).withExit
        task.id .told, []) := by
  simp only [advance, find?_of_running orderly running, exit]

theorem advance_of_told (exit : tracked.exit task.id = .told) :
    tracked.advance workshop task.id now =
      ({ tracked with store := tracked.store.remove task.id }, []) := by
  simp only [advance, find?_of_running orderly running, exit]

theorem running_remove : (tracked.store.remove task.id).running = front ++ back := by
  change tracked.store.running.filter _ = _
  rw [running, List.filter_append, List.filter_cons_of_neg (by simp), ← List.filter_append]
  refine List.filter_eq_self.mpr fun other member => ?_
  simpa using orderly.apart running other member

/-- What a task has yielded is fed back: a step of the books. -/
theorem answer_step (fresh : tracked.Fresh) {action : Option α}
    (exit : tracked.exit task.id = .yielded action) :
    Books.Step tracked.books (tracked.answer workshop task.id action).2
      (tracked.answer workshop task.id action).1.books := by
  have rows := rows_of_running running
  rw [exit] at rows
  cases action with
  | none =>
      rw [answer, books_withExit tracked orderly running]
      exact .rest rows
  | some action =>
      cases closing : tracked.store.closing with
      | true =>
          rw [answer, offer_of_closing closing]
          change Books.Step _ [.refused (some task.id) action] (tracked.withExit _ _).books
          rw [books_withExit tracked orderly running]
          exact .drop rows
      | false =>
          have store := store_offer_of_going workshop closing (some task.id) action
          have fedRunning : (tracked.offer workshop (some task.id) action).1.store.running =
              front ++ task :: (back ++
                tracked.store.tasksOf (workshop.reduce tracked.store.state action).2) := by
            rw [store]
            simp [EffectStore.accept, running]
          have fedOrderly : (tracked.offer workshop (some task.id) action).1.store.Orderly := by
            rw [store]
            exact EffectStore.orderly_accept orderly workshop action
          have fedRow : (tracked.offer workshop (some task.id) action).1.row = tracked.row := by
            funext other
            rw [row, row, exit_offer]
          change Books.Step _ [(tracked.offer workshop (some task.id) action).2]
            ((tracked.offer workshop (some task.id) action).1.withExit task.id .answered).books
          rw [books_withExit _ fedOrderly fedRunning, books_offer_of_going fresh closing, fedRow,
            List.map_append, rows_tasksOf fresh, offer_of_going closing]
          have step := Books.Step.feed rows (tracked.reduce workshop action).2.length
          rw [Books.accepted, Books.withRows, List.append_assoc, List.cons_append] at step
          exact step

/-- The next step of a task that runs is a step of the books. -/
theorem step_of_running (fresh : tracked.Fresh) :
    Books.Step tracked.books (tracked.advance workshop task.id now).2
      (tracked.advance workshop task.id now).1.books := by
  have rows := rows_of_running running
  cases exit : tracked.exit task.id with
  | working =>
      rw [exit] at rows
      cases phase : task.phase with
      | fresh =>
          rw [advance_of_fresh orderly running now exit phase]
          have same : (tracked.begin workshop task now).books = tracked.books := by
            have rows : (tracked.begin workshop task now).store.running.map tracked.row =
                tracked.store.running.map tracked.row := by
              simp only [begin, List.map_map]
              refine List.map_congr_left fun other member => ?_
              by_cases same : other.id = task.id <;> simp [row, same]
            rw [books, books, ← rows]
            rfl
          rw [same]
          exact .idle _
      | asleep wakeAt ticket =>
          rw [advance_of_asleep orderly running now exit phase]
          by_cases due : wakeAt ≤ now
          · rw [if_pos due]
            have completed := books_withExit { tracked with store :=
              { tracked.store with surroundings :=
                (workshop.complete tracked.store.surroundings task.content ticket).1 } }
              ⟨orderly.distinct, orderly.below⟩ running
              (.yielded (workshop.complete tracked.store.surroundings task.content ticket).2)
            rw [complete]
            dsimp only
            rw [completed]
            exact .yield rows _
          · rw [if_neg due]
            exact .idle _
  | yielded action =>
      rw [advance_of_yielded orderly running now exit]
      exact answer_step orderly running fresh exit
  | answered =>
      rw [exit] at rows
      rw [advance_of_answered orderly running now exit]
      have uncounted := books_withExit { tracked with inFlight := tracked.inFlight - 1 }
        orderly running .uncounted
      dsimp only
      rw [uncounted]
      exact .uncount rows
  | uncounted =>
      rw [exit] at rows
      rw [advance_of_uncounted orderly running now exit]
      dsimp only
      rw [books_withExit (tracked.withSignal task.handle _) orderly running,
        books_withSignal]
      exact .release rows
  | released =>
      rw [exit] at rows
      rw [advance_of_released orderly running now exit]
      dsimp only
      rw [books_withExit (tracked.withSignal task.handle _) orderly running,
        books_withSignal]
      exact .tell rows
  | told =>
      rw [exit] at rows
      rw [advance_of_told orderly running now exit]
      have left : ({ tracked with store := tracked.store.remove task.id }).books =
          tracked.books.withRows (front.map tracked.row ++ back.map tracked.row) := by
        rw [books, running_remove orderly running, List.map_append]
        rfl
      dsimp only
      rw [left]
      exact .leave rows

end Way

/-- The next step of a task is a step of the books. -/
theorem advance_step (workshop : Workshop σ ρ α ε) (orderly : tracked.store.Orderly)
    (fresh : tracked.Fresh) (id now : Nat) :
    Books.Step tracked.books (tracked.advance workshop id now).2
      (tracked.advance workshop id now).1.books := by
  cases found : tracked.store.running.find? fun task => task.id == id with
  | none =>
      simp only [advance, found]
      exact .idle _
  | some task =>
      obtain ⟨isTask, front, back, running, -⟩ := List.find?_eq_some_iff_append.mp found
      obtain rfl : task.id = id := beq_iff_eq.mp isTask
      exact step_of_running orderly running now fresh

/-! ### What a step leaves alone -/

/-- A step of a task leaves the exits of all others alone. -/
theorem exit_advance_of_ne {other : Nat} (different : other ≠ id) (workshop : Workshop σ ρ α ε)
    (tracked : TrackedStore σ ρ α ε) (now : Nat) :
    (tracked.advance workshop id now).1.exit other = tracked.exit other := by
  cases found : tracked.store.running.find? fun task => task.id == id with
  | none => simp only [advance, found]
  | some task =>
      cases exit : tracked.exit id with
      | working =>
          obtain rfl : task.id = id := by simpa using List.find?_some found
          cases phase : task.phase with
          | fresh =>
              simp only [advance, found, exit, phase]
              rfl
          | asleep wakeAt ticket =>
              simp only [advance, found, exit, phase]
              split
              · exact exit_withExit_of_ne different _ _
              · rfl
      | yielded action =>
          simp only [advance, found, exit]
          cases action with
          | none => exact exit_withExit_of_ne different _ _
          | some action =>
              exact (exit_withExit_of_ne different _ _).trans
                (congrFun (exit_offer workshop tracked (some id) action) other)
      | answered =>
          simp only [advance, found, exit]
          exact exit_withExit_of_ne different _ _
      | uncounted =>
          simp only [advance, found, exit]
          exact exit_withExit_of_ne different _ _
      | released =>
          simp only [advance, found, exit]
          exact exit_withExit_of_ne different _ _
      | told =>
          simp only [advance, found, exit]
          rfl

theorem advance_of_absent (absent : ∀ task ∈ tracked.store.running, task.id ≠ id) (now : Nat) :
    tracked.advance workshop id now = (tracked, []) := by
  have none : (tracked.store.running.find? fun task => task.id == id) = none :=
    List.find?_eq_none.mpr fun task member => by simpa using absent task member
  simp only [advance, none]

theorem fresh_advance (workshop : Workshop σ ρ α ε) (orderly : tracked.store.Orderly)
    (fresh : tracked.Fresh) (id now : Nat) : (tracked.advance workshop id now).1.Fresh := by
  intro other above
  have earlier : tracked.store.started ≤ other :=
    (advance_step workshop orderly fresh id now).started_le.trans above
  by_cases same : other = id
  · -- a task that is still to be started takes no step
    have absent : ∀ task ∈ tracked.store.running, task.id ≠ id := fun task member equal => by
      have below := orderly.below task member
      omega
    rw [advance_of_absent absent]
    exact fresh other earlier
  · rw [exit_advance_of_ne same]
    exact fresh other earlier

end TrackedStore

end BenefitCasework
