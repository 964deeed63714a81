import BenefitCasework.Effect.Tracking
import Mathlib.Data.List.Nodup
import Mathlib.Data.List.Range
import Mathlib.Logic.Function.Iterate

/-!
Contract: the books of a tracked store, and what each of its steps writes into them.

Owns:
- `startedBy`, `yieldedIn` and `Finished`, what a row of happenings tells of tasks;
- `Books`, the tasks with their exits beside the signals and counts;
- `Books.opened` and `Books.spawned`, a reduction and the start of one task, and
  `accepted_eq_iterate`, what they come to;
- `Books.Step`, everything that a step of a store can do to its books;
- `Books.Counted`, that the counts count the tasks, and `Counted.step`, that every step
  keeps it;
- `Step.tells` and `Within.step`, what a step leaves to those who wait and to a task.

Does not own: the store, and what the happenings tell of the tasks that are left.
-/

namespace BenefitCasework

/-! ### What happenings tell -/

section Happenings

variable {α : Type} {trace more : List (Happening α)} {id handle : Nat}

/-- The handles of the actions that were reduced, one after the other. -/
def handlesIn (trace : List (Happening α)) : List Nat :=
  trace.filterMap fun
    | .reduced _ _ handle _ => some handle
    | _ => none

/-- The tasks that the action of a handle started. -/
def startedBy (trace : List (Happening α)) (handle : Nat) : List Nat :=
  trace.flatMap fun
    | .reduced _ _ given started => if given = handle then started else []
    | _ => []

/-- All tasks that were started, one after the other. -/
def startedIn (trace : List (Happening α)) : List Nat :=
  trace.flatMap fun
    | .reduced _ _ _ started => started
    | _ => []

/-- The tasks whose content was carried out. -/
def yieldedIn (trace : List (Happening α)) : List Nat :=
  trace.filterMap fun
    | .yielded id _ => some id
    | _ => none

/-- The content of a task was carried out, and the action that it yielded, if it did,
was reduced or refused. -/
def Finished (trace : List (Happening α)) (id : Nat) : Prop :=
  ∃ outcome, .yielded id outcome ∈ trace ∧ ∀ action, outcome = some action →
    (∃ handle started, .reduced (some id) action handle started ∈ trace) ∨
      .refused (some id) action ∈ trace

@[simp]
theorem handlesIn_append (trace more : List (Happening α)) :
    handlesIn (trace ++ more) = handlesIn trace ++ handlesIn more := List.filterMap_append

@[simp]
theorem startedBy_append (trace more : List (Happening α)) (handle : Nat) :
    startedBy (trace ++ more) handle = startedBy trace handle ++ startedBy more handle :=
  List.flatMap_append

@[simp]
theorem startedIn_append (trace more : List (Happening α)) :
    startedIn (trace ++ more) = startedIn trace ++ startedIn more := List.flatMap_append

@[simp]
theorem yieldedIn_append (trace more : List (Happening α)) :
    yieldedIn (trace ++ more) = yieldedIn trace ++ yieldedIn more := List.filterMap_append

theorem mem_startedIn_of_mem_startedBy (member : id ∈ startedBy trace handle) :
    id ∈ startedIn trace := by
  obtain ⟨happening, present, started⟩ := List.mem_flatMap.mp member
  refine List.mem_flatMap.mpr ⟨happening, present, ?_⟩
  cases happening with
  | reduced source action given ids =>
      by_cases same : given = handle
      · simpa [same] using started
      · simp [same] at started
  | yielded task outcome => cases started
  | refused source action => cases started
  | closed => cases started

theorem Finished.append (finished : Finished trace id) (more : List (Happening α)) :
    Finished (trace ++ more) id := by
  obtain ⟨outcome, yields, settled⟩ := finished
  refine ⟨outcome, List.mem_append_left _ yields, fun action same => ?_⟩
  rcases settled action same with ⟨handle, started, reduced⟩ | refused
  · exact .inl ⟨handle, started, List.mem_append_left _ reduced⟩
  · exact .inr (List.mem_append_left _ refused)

end Happenings

/-! ### Books -/

/-- How many steps are left until a task has told that it is done, if it has yielded. -/
def TaskExit.stepsLeft {α : Type} : TaskExit α → Nat
  | .working => 5
  | .yielded _ => 4
  | .answered => 3
  | .uncounted => 2
  | .released => 1
  | .told => 0

/-- A task with its handle and its exit. -/
structure Row (α : Type) where
  id : Nat
  handle : Nat
  exit : TaskExit α

namespace Row

variable {α : Type}

def isRunning (row : Row α) : Bool := row.exit.isRunning

/-- The handle waits for the task. -/
def pendsAt (handle : Nat) (row : Row α) : Bool := row.handle == handle && row.exit.isPending

/-- The task has still to tell those who wait for the handle. -/
def untoldAt (handle : Nat) (row : Row α) : Bool := row.handle == handle && row.exit.isUntold

end Row

/-- The tasks of a store, the signals of its handles, the count of running tasks, and
the numbers of the next handle and the next task. -/
structure Books (α : Type) where
  rows : List (Row α)
  signal : Nat → Signal
  inFlight : Nat
  handles : Nat
  started : Nat

namespace Books

variable {α : Type}

/-- The rows of tasks that are started now. -/
def newRows (books : Books α) (count : Nat) : List (Row α) :=
  (List.range' books.started count).map fun id => ⟨id, books.handles, .working⟩

/-- An action is reduced: its handle has no task yet. -/
def opened (books : Books α) : Books α :=
  { books with
    signal := Function.update books.signal books.handles ⟨0, 0⟩
    handles := books.handles + 1 }

/-- A task of a handle is started. -/
def spawned (handle : Nat) (books : Books α) : Books α :=
  { books with
    rows := books.rows ++ [⟨books.started, handle, .working⟩]
    signal := Function.update books.signal handle
      { books.signal handle with pending := (books.signal handle).pending + 1 }
    inFlight := books.inFlight + 1
    started := books.started + 1 }

/-- An action is reduced that starts so many tasks. -/
def accepted (books : Books α) (count : Nat) : Books α :=
  { rows := books.rows ++ books.newRows count
    signal := Function.update books.signal books.handles ⟨count, 0⟩
    inFlight := books.inFlight + count
    handles := books.handles + 1
    started := books.started + count }

def withRows (books : Books α) (rows : List (Row α)) : Books α := { books with rows := rows }

def withSignal (books : Books α) (handle : Nat) (signal : Signal) : Books α :=
  { books with signal := Function.update books.signal handle signal }

/-- What happens when an action is reduced that starts so many tasks. -/
def acceptance (books : Books α) (source : Option Nat) (action : α) (count : Nat) : Happening α :=
  .reduced source action books.handles (List.range' books.started count)

/-- Everything that a step of a store can do to its books. -/
inductive Step : Books α → List (Happening α) → Books α → Prop where
  | idle (books : Books α) : Step books [] books
  | accept (books : Books α) (source : Option Nat) (action : α) (count : Nat) :
      Step books [books.acceptance source action count] (books.accepted count)
  | refuse (books : Books α) (source : Option Nat) (action : α) :
      Step books [.refused source action] books
  | close (books : Books α) : Step books [.closed] books
  | yield {books : Books α} {front back : List (Row α)} {id handle : Nat}
      (rows : books.rows = front ++ ⟨id, handle, .working⟩ :: back) (outcome : Option α) :
      Step books [.yielded id outcome]
        (books.withRows (front ++ ⟨id, handle, .yielded outcome⟩ :: back))
  | rest {books : Books α} {front back : List (Row α)} {id handle : Nat}
      (rows : books.rows = front ++ ⟨id, handle, .yielded none⟩ :: back) :
      Step books [] (books.withRows (front ++ ⟨id, handle, .answered⟩ :: back))
  | feed {books : Books α} {front back : List (Row α)} {id handle : Nat} {action : α}
      (rows : books.rows = front ++ ⟨id, handle, .yielded (some action)⟩ :: back) (count : Nat) :
      Step books [books.acceptance (some id) action count]
        ((books.withRows (front ++ ⟨id, handle, .answered⟩ :: back)).accepted count)
  | drop {books : Books α} {front back : List (Row α)} {id handle : Nat} {action : α}
      (rows : books.rows = front ++ ⟨id, handle, .yielded (some action)⟩ :: back) :
      Step books [.refused (some id) action]
        (books.withRows (front ++ ⟨id, handle, .answered⟩ :: back))
  | uncount {books : Books α} {front back : List (Row α)} {id handle : Nat}
      (rows : books.rows = front ++ ⟨id, handle, .answered⟩ :: back) :
      Step books [] { books with
        rows := front ++ ⟨id, handle, .uncounted⟩ :: back, inFlight := books.inFlight - 1 }
  | release {books : Books α} {front back : List (Row α)} {id handle : Nat}
      (rows : books.rows = front ++ ⟨id, handle, .uncounted⟩ :: back) :
      Step books [] ((books.withRows (front ++ ⟨id, handle, .released⟩ :: back)).withSignal handle
        { books.signal handle with pending := (books.signal handle).pending - 1 })
  | tell {books : Books α} {front back : List (Row α)} {id handle : Nat}
      (rows : books.rows = front ++ ⟨id, handle, .released⟩ :: back) :
      Step books [] ((books.withRows (front ++ ⟨id, handle, .told⟩ :: back)).withSignal handle
        { books.signal handle with told := (books.signal handle).told + 1 })
  | leave {books : Books α} {front back : List (Row α)} {id handle : Nat}
      (rows : books.rows = front ++ ⟨id, handle, .told⟩ :: back) :
      Step books [] (books.withRows (front ++ back))

section Keeping

variable {books next : Books α} {front back : List (Row α)} {id handle : Nat}
  {old new : TaskExit α} {trace happened : List (Happening α)}

/-! ### A row among others -/

theorem mem_middle {β : Type} {item other : β} {front back : List β} :
    other ∈ front ++ item :: back ↔ other = item ∨ other ∈ front ++ back := by
  rw [List.perm_middle.mem_iff, List.mem_cons]

theorem countP_middle {β : Type} (counts : β → Bool) (item : β) (front back : List β) :
    (front ++ item :: back).countP counts =
      (front ++ back).countP counts + (counts item).toNat := by
  cases held : counts item
  · simp [held]
  · simp only [List.countP_append, List.countP_cons_of_pos held, Bool.toNat_true]
    omega

/-- What holds of all rows holds when one exit has changed, if it holds of that row. -/
theorem forall_replaced {holds : Row α → Prop}
    (all : ∀ row ∈ front ++ ⟨id, handle, old⟩ :: back, holds row)
    (changed : holds ⟨id, handle, new⟩) :
    ∀ row ∈ front ++ ⟨id, handle, new⟩ :: back, holds row := by
  intro row member
  rcases mem_middle.mp member with rfl | other
  · exact changed
  · exact all row (mem_middle.mpr (.inr other))

/-! ### What the counts say -/

/-- The counts count the tasks. -/
structure Counted (books : Books α) : Prop where
  known : ∀ row ∈ books.rows, row.handle < books.handles
  running : books.inFlight = books.rows.countP Row.isRunning
  pending : ∀ handle, (books.signal handle).pending = books.rows.countP (Row.pendsAt handle)

theorem Counted.known_replaced (counted : Counted books)
    (rows : books.rows = front ++ ⟨id, handle, old⟩ :: back) (new : TaskExit α) :
    ∀ row ∈ front ++ ⟨id, handle, new⟩ :: back, row.handle < books.handles :=
  forall_replaced (rows ▸ counted.known)
    (counted.known ⟨id, handle, old⟩ (rows ▸ mem_middle.mpr (.inl rfl)))

/-- An exit may change as long as it counts the same. -/
theorem Counted.replaced (counted : Counted books)
    (rows : books.rows = front ++ ⟨id, handle, old⟩ :: back) (new : TaskExit α)
    (running : new.isRunning = old.isRunning) (pending : new.isPending = old.isPending) :
    Counted (books.withRows (front ++ ⟨id, handle, new⟩ :: back)) := by
  refine ⟨counted.known_replaced rows new, ?_, fun other => ?_⟩
  · simp only [withRows, counted.running, rows, countP_middle, Row.isRunning, running]
  · simp only [withRows, counted.pending, rows, countP_middle, Row.pendsAt, pending]

theorem Counted.opened (counted : Counted books) : Counted books.opened := by
  refine ⟨fun row member => Nat.lt_succ_of_lt (counted.known row member), counted.running,
    fun handle => ?_⟩
  by_cases same : handle = books.handles
  · -- no task that was started earlier has the handle that is given now
    have unused : books.rows.countP (Row.pendsAt handle) = 0 := by
      refine List.countP_eq_zero.mpr fun row member => ?_
      have below := counted.known row member
      simp [Row.pendsAt, same, below.ne]
    change (Function.update books.signal books.handles ⟨0, 0⟩ handle).pending = _
    rw [same, Function.update_self, ← same]
    exact unused.symm
  · change (Function.update books.signal books.handles ⟨0, 0⟩ handle).pending = _
    rw [Function.update_of_ne same]
    exact counted.pending handle

/-- A task that is started is counted. -/
theorem Counted.spawned (counted : Counted books) (known : handle < books.handles) :
    Counted (books.spawned handle) := by
  refine ⟨fun row member => ?_, ?_, fun other => ?_⟩
  · rcases List.mem_append.mp member with earlier | new
    · exact counted.known row earlier
    · obtain rfl := List.mem_singleton.mp new
      exact known
  · simp [Books.spawned, counted.running, Row.isRunning, TaskExit.isRunning]
  · have pending := counted.pending other
    by_cases same : other = handle
    · subst same
      simp [Books.spawned, pending, Row.pendsAt, TaskExit.isPending, TaskExit.isRunning]
    · have apart : (handle == other) = false := beq_eq_false_iff_ne.mpr (Ne.symm same)
      simp [Books.spawned, Function.update_of_ne same, pending, Row.pendsAt, apart]

/-- What so many starts of tasks of a handle come to. -/
theorem iterate_spawned (handle : Nat) (books : Books α) (count : Nat) :
    (Books.spawned handle)^[count] books =
      { books with
        rows := books.rows ++
          (List.range' books.started count).map fun id => ⟨id, handle, .working⟩
        signal := Function.update books.signal handle
          { books.signal handle with pending := (books.signal handle).pending + count }
        inFlight := books.inFlight + count
        started := books.started + count } := by
  induction count with
  | zero => simp
  | succ count inductionHypothesis =>
      rw [Function.iterate_succ_apply', inductionHypothesis]
      simp [Books.spawned, List.range'_concat, Nat.add_assoc]

/-- A reduction and its starts one by one come to the same as all of them at once. -/
theorem accepted_eq_iterate (books : Books α) (count : Nat) :
    books.accepted count = (Books.spawned books.handles)^[count] books.opened := by
  rw [iterate_spawned]
  simp [Books.accepted, opened, newRows]

/-- The counts count the tasks after each start. -/
theorem Counted.iterate_spawned (counted : Counted books) (known : handle < books.handles)
    (count : Nat) : Counted ((Books.spawned handle)^[count] books) := by
  induction count with
  | zero => exact counted
  | succ count inductionHypothesis =>
      rw [Function.iterate_succ_apply']
      refine inductionHypothesis.spawned ?_
      rw [Books.iterate_spawned]
      exact known

theorem Counted.accepted (counted : Counted books) (count : Nat) :
    Counted (books.accepted count) := by
  rw [accepted_eq_iterate]
  exact counted.opened.iterate_spawned (Nat.lt_succ_self _) count

theorem Counted.step (counted : Counted books) (step : Step books happened next) :
    Counted next := by
  cases step with
  | idle => exact counted
  | accept source action count => exact counted.accepted count
  | refuse source action => exact counted
  | close => exact counted
  | yield rows outcome => exact counted.replaced rows _ rfl rfl
  | rest rows => exact counted.replaced rows _ rfl rfl
  | feed rows count => exact (counted.replaced rows .answered rfl rfl).accepted count
  | drop rows => exact counted.replaced rows _ rfl rfl
  | uncount rows =>
      -- the task runs no more, and its handle still waits for it
      refine ⟨counted.known_replaced rows _, ?_, fun other => ?_⟩
      · rw [countP_middle]
        change books.inFlight - 1 = _
        rw [counted.running, rows, countP_middle]
        rfl
      · rw [counted.pending, rows, countP_middle, countP_middle]
        rfl
  | @release front back id handle rows =>
      -- its own handle waits for one task less; the others go by their own tasks
      refine ⟨counted.known_replaced rows _, ?_, fun other => ?_⟩
      · rw [withSignal, withRows, counted.running, rows, countP_middle, countP_middle]
        rfl
      · have pending := counted.pending other
        rw [rows, countP_middle] at pending
        rw [withSignal, withRows, countP_middle]
        by_cases same : other = handle
        · subst same
          simp_all [Row.pendsAt, TaskExit.isPending, TaskExit.isRunning]
        · have apart : (handle == other) = false := beq_eq_false_iff_ne.mpr (Ne.symm same)
          simp_all [Row.pendsAt]
  | @tell front back id handle rows =>
      have told := counted.replaced rows .told rfl rfl
      refine ⟨told.known, told.running, fun other => ?_⟩
      have pending := told.pending other
      by_cases same : other = handle
      · subst same
        simpa [withSignal, withRows] using pending
      · simpa [withSignal, withRows, Function.update_of_ne same] using pending
  | leave rows =>
      refine ⟨fun row member => counted.known row (rows ▸ mem_middle.mpr (.inr member)), ?_,
        fun other => ?_⟩
      · rw [withRows, counted.running, rows, countP_middle]
        rfl
      · rw [withRows, counted.pending, rows, countP_middle]
        simp [Row.pendsAt, TaskExit.isPending, TaskExit.isRunning]

/-- As long as a task pends at a handle, somebody has still to tell those who wait. -/
theorem Counted.any_untoldAt (counted : Counted books) (some : (books.signal handle).pending ≠ 0) :
    books.rows.any (Row.untoldAt handle) = true := by
  rw [counted.pending handle, ← Nat.pos_iff_ne_zero, List.countP_pos_iff] at some
  obtain ⟨row, member, pends⟩ := some
  refine List.any_eq_true.mpr ⟨row, member, ?_⟩
  rw [Row.pendsAt, Bool.and_eq_true] at pends
  rw [Row.untoldAt, pends.1, Bool.true_and]
  cases exit : row.exit <;> simp_all [TaskExit.isUntold, TaskExit.isPending]

/-! ### What a step leaves alone -/

theorem Step.handles_le (step : Step books happened next) : books.handles ≤ next.handles := by
  cases step with
  | accept source action count => exact Nat.le_succ _
  | feed rows count => exact Nat.le_succ _
  | _ => exact le_rfl

/-- A handle that was given out keeps its tasks. -/
theorem Step.startedBy_eq (step : Step books happened next) (known : handle < books.handles) :
    startedBy happened handle = [] := by
  cases step <;> simp [startedBy, acceptance, known.ne']

theorem any_replaced (same : new.isUntold = old.isUntold) (other : Nat) :
    (front ++ ⟨id, handle, new⟩ :: back).any (Row.untoldAt other) =
      (front ++ ⟨id, handle, old⟩ :: back).any (Row.untoldAt other) := by
  simp only [List.any_append, List.any_cons, Row.untoldAt, same]

/-- A step tells those who wait for a handle, or whoever has still to tell them stays. -/
theorem Step.tells (step : Step books happened next) (known : handle < books.handles) :
    (books.signal handle).told < (next.signal handle).told ∨
      ((next.signal handle).told = (books.signal handle).told ∧
        (books.rows.any (Row.untoldAt handle) → next.rows.any (Row.untoldAt handle))) := by
  have stays {front back : List (Row α)} {id given : Nat} {old new : TaskExit α}
      (rows : books.rows = front ++ ⟨id, given, old⟩ :: back)
      (same : new.isUntold = old.isUntold) : books.rows.any (Row.untoldAt handle) →
        (front ++ ⟨id, given, new⟩ :: back).any (Row.untoldAt handle) :=
    fun untold => by rw [any_replaced same, ← rows]; exact untold
  cases step with
  | idle => exact .inr ⟨rfl, id⟩
  | accept source action count =>
      refine .inr ⟨by simp [Books.accepted, known.ne], fun untold => ?_⟩
      simp [Books.accepted, untold]
  | refuse source action => exact .inr ⟨rfl, id⟩
  | close => exact .inr ⟨rfl, id⟩
  | yield rows outcome => exact .inr ⟨rfl, stays rows rfl⟩
  | rest rows => exact .inr ⟨rfl, stays rows rfl⟩
  | feed rows count =>
      refine .inr ⟨by simp [Books.accepted, withRows, known.ne], fun untold => ?_⟩
      rw [Books.accepted, List.any_append]
      exact Bool.or_eq_true_iff.mpr (.inl (stays rows rfl untold))
  | drop rows => exact .inr ⟨rfl, stays rows rfl⟩
  | uncount rows => exact .inr ⟨rfl, stays rows rfl⟩
  | @release front back id given rows =>
      refine .inr ⟨?_, stays rows rfl⟩
      by_cases same : handle = given
      · subst same
        simp [withSignal]
      · simp [withSignal, withRows, same]
  | @tell front back id given rows =>
      by_cases same : handle = given
      · subst same
        exact .inl (by simp [withSignal])
      · refine .inr ⟨by simp [withSignal, withRows, same], fun untold => ?_⟩
        rw [rows] at untold
        simpa [withSignal, withRows, Row.untoldAt, Ne.symm same] using untold
  | leave rows =>
      refine .inr ⟨rfl, fun untold => ?_⟩
      rw [rows] at untold
      simpa [withRows, Row.untoldAt, TaskExit.isUntold, TaskExit.isPending, TaskExit.isRunning]
        using untold

/-- Only an action that is reduced lets more tasks run. -/
theorem Step.inFlight_le (step : Step books happened next) (none : handlesIn happened = []) :
    next.inFlight ≤ books.inFlight := by
  cases step with
  | accept source action count => cases none
  | feed rows count => cases none
  | uncount rows => exact Nat.sub_le _ _
  | _ => exact le_rfl

/-! ### The way out -/

/-- At most so many steps are left until the task has told that it is done. -/
def Within (books : Books α) (id count : Nat) : Prop :=
  ∀ row ∈ books.rows, row.id = id → row.exit.stepsLeft ≤ count

theorem Within.replaced {count : Nat} {other : Nat} (within : Within books other count)
    (rows : books.rows = front ++ ⟨id, handle, old⟩ :: back) (new : TaskExit α)
    (fewer : new.stepsLeft ≤ old.stepsLeft) :
    Within (books.withRows (front ++ ⟨id, handle, new⟩ :: back)) other count := by
  have before := within ⟨id, handle, old⟩ (rows ▸ mem_middle.mpr (.inl rfl))
  rw [Within, rows] at within
  exact forall_replaced within fun same => fewer.trans (before same)

theorem Within.accepted {count : Nat} (within : Within books id count)
    (known : id < books.started) (more : Nat) : Within (books.accepted more) id count := by
  intro row member same
  rcases List.mem_append.mp member with earlier | new
  · exact within row earlier same
  · obtain ⟨other, started, rfl⟩ := List.mem_map.mp new
    have above := (List.mem_range'_1.mp started).1
    have equal : other = id := same
    omega

/-- No step of anybody leaves more to do. -/
theorem Within.step {count : Nat} (within : Within books id count) (known : id < books.started)
    (step : Step books happened next) : Within next id count := by
  cases step with
  | idle => exact within
  | accept source action more => exact within.accepted known more
  | refuse source action => exact within
  | close => exact within
  | yield rows outcome => exact within.replaced rows _ (Nat.le_succ _)
  | rest rows => exact within.replaced rows _ (Nat.le_succ _)
  | feed rows more => exact (within.replaced rows .answered (Nat.le_succ _)).accepted known more
  | drop rows => exact within.replaced rows _ (Nat.le_succ _)
  | uncount rows => exact within.replaced rows .uncounted (Nat.le_succ _)
  | release rows => exact within.replaced rows .released (Nat.le_succ _)
  | tell rows => exact within.replaced rows .told (Nat.le_succ _)
  | leave rows => exact fun row member => within row (rows ▸ mem_middle.mpr (.inr member))

theorem Step.started_le (step : Step books happened next) : books.started ≤ next.started := by
  cases step with
  | accept source action count => exact Nat.le_add_right _ _
  | feed rows count => exact Nat.le_add_right _ _
  | _ => exact le_rfl

end Keeping

end Books

end BenefitCasework
