import BenefitCasework.Proofs.Effect.Floor

/-!
Contract: a turn of a task is the row of its steps with nothing in between.

Owns:
- `TrackedStore.steps`, some steps of a task, one right behind the other;
- `TrackedStore.Resting`, a store where no task is on its way out;
- `TrackedStore.steps_seven`, that seven steps of a task do to a resting store what its
  turn does;
- `StoreMove`, what is done to a store whose tasks take turns, and `Shift.run_floorMoves`,
  that a row of it is a row of moves on a floor;
- `TrackedStore.pending_of_resting` and `TrackedStore.peekFrom_of_resting`, that those who
  wait at a resting store and those who close it find what its tasks say.

Does not own: what happens when steps of other tasks come in between.
-/

namespace BenefitCasework

namespace EffectStore

variable {σ ρ α ε : Type} {workshop : Workshop σ ρ α ε} {store : EffectStore σ ρ ε}
  {front back : List (RunningTask ε)} {task : RunningTask ε}

/-- What is fed back is accepted, or nothing changes. -/
theorem feedBack_cases (workshop : Workshop σ ρ α ε) (store : EffectStore σ ρ ε)
    (action : Option α) :
    (feedBack workshop store action).1 = store ∨
      ∃ given, (feedBack workshop store action).1 = (accept workshop store given).1 := by
  cases action with
  | none => exact .inl rfl
  | some given =>
      cases closing : store.closing with
      | true => exact .inl (by simp [feedBack, closing])
      | false => exact .inr ⟨given, by simp [feedBack, closing]⟩

theorem orderly_feedBack (orderly : store.Orderly) (workshop : Workshop σ ρ α ε)
    (action : Option α) : (feedBack workshop store action).1.Orderly := by
  rcases feedBack_cases workshop store action with same | ⟨given, accepted⟩
  · rwa [same]
  · rw [accepted]
    exact orderly_accept orderly workshop given

theorem exists_running_feedBack (workshop : Workshop σ ρ α ε) (store : EffectStore σ ρ ε)
    (action : Option α) :
    ∃ more, (feedBack workshop store action).1.running = store.running ++ more ∧
      ∀ task ∈ more, store.started ≤ task.id := by
  rcases feedBack_cases workshop store action with same | ⟨given, accepted⟩
  · exact ⟨[], by rw [same, List.append_nil], fun task member => by cases member⟩
  · refine ⟨store.tasksOf (workshop.reduce store.state given).2, by rw [accepted]; rfl, ?_⟩
    intro task member
    obtain ⟨place, below, rfl⟩ := List.mem_mapIdx.mp member
    exact Nat.le_add_right _ _

theorem finish_eq (workshop : Workshop σ ρ α ε) (store : EffectStore σ ρ ε)
    (task : RunningTask ε) (ticket : Nat) : (finish workshop store task ticket).1 =
      (feedBack workshop { store with surroundings :=
        (workshop.complete store.surroundings task.content ticket).1 }
        (workshop.complete store.surroundings task.content ticket).2).1.remove task.id := rfl

/-- A task that ends leaves the others, and those that its action starts. -/
theorem mem_running_finish {ticket : Nat} {other : RunningTask ε}
    (member : other ∈ (finish workshop store task ticket).1.running) :
    other.id ≠ task.id ∧ (other ∈ store.running ∨ store.started ≤ other.id) := by
  obtain ⟨more, grown, above⟩ := exists_running_feedBack workshop { store with surroundings :=
    (workshop.complete store.surroundings task.content ticket).1 }
    (workshop.complete store.surroundings task.content ticket).2
  rw [finish_eq] at member
  obtain ⟨present, different⟩ := List.mem_filter.mp member
  rw [grown] at present
  exact ⟨by simpa using different, (List.mem_append.mp present).imp_right (above other)⟩

/-- The end of a task does not look at how far the task has come. -/
theorem finish_replaced (workshop : Workshop σ ρ α ε) (store : EffectStore σ ρ ε)
    (front back : List (RunningTask ε)) (task : RunningTask ε) (phase : TaskPhase)
    (ticket : Nat) :
    (finish workshop { store with running := front ++ { task with phase := phase } :: back }
      { task with phase := phase } ticket).1 =
    (finish workshop { store with running := front ++ task :: back } task ticket).1 := by
  cases yielded : (workshop.complete store.surroundings task.content ticket).2 with
  | none => simp [finish, feedBack, yielded, remove]
  | some action =>
      cases closing : store.closing with
      | true => simp [finish, feedBack, yielded, remove]
      | false => simp [finish, feedBack, yielded, accept, tasksOf, remove]

end EffectStore

namespace TrackedStore

variable {σ ρ α ε : Type} {workshop : Workshop σ ρ α ε} {tracked : TrackedStore σ ρ α ε}
  {front back : List (RunningTask ε)} {task : RunningTask ε} {id now : Nat}

/-- Some steps of a task, one right behind the other. -/
def steps (workshop : Workshop σ ρ α ε) (id now count : Nat) (tracked : TrackedStore σ ρ α ε) :
    TrackedStore σ ρ α ε :=
  (fun current => (current.advance workshop id now).1)^[count] tracked

theorem steps_succ (count : Nat) : tracked.steps workshop id now (count + 1) =
    (tracked.advance workshop id now).1.steps workshop id now count := rfl

theorem steps_succ' (count : Nat) : tracked.steps workshop id now (count + 1) =
    ((tracked.steps workshop id now count).advance workshop id now).1 :=
  Function.iterate_succ_apply' _ count tracked

theorem steps_of_idle (idle : (tracked.advance workshop id now).1 = tracked) (count : Nat) :
    tracked.steps workshop id now count = tracked :=
  Function.iterate_fixed idle count

theorem steps_of_absent (absent : ∀ task ∈ tracked.store.running, task.id ≠ id) (count : Nat) :
    tracked.steps workshop id now count = tracked :=
  steps_of_idle (by rw [advance_of_absent absent]) count

/-- The steps of other tasks leave an exit alone. -/
theorem exit_steps_of_ne {other : Nat} (different : other ≠ id) (count : Nat)
    (tracked : TrackedStore σ ρ α ε) :
    (tracked.steps workshop id now count).exit other = tracked.exit other := by
  induction count generalizing tracked with
  | zero => rfl
  | succ count inductionHypothesis =>
      rw [steps_succ, inductionHypothesis, exit_advance_of_ne different]

theorem store_answer (workshop : Workshop σ ρ α ε) (tracked : TrackedStore σ ρ α ε) (id : Nat)
    (action : Option α) : (tracked.answer workshop id action).1.store =
      (EffectStore.feedBack workshop tracked.store action).1 := by
  cases action with
  | none => rfl
  | some given =>
      cases closing : tracked.store.closing with
      | true => simp [answer, offer_of_closing closing, withExit, EffectStore.feedBack, closing]
      | false =>
          have store := store_offer_of_going workshop closing (some id) given
          simpa [answer, withExit, EffectStore.feedBack, closing] using store

/-- A task whose action has been fed back leaves with four steps. -/
theorem store_steps_of_answered (orderly : tracked.store.Orderly)
    (running : tracked.store.running = front ++ task :: back)
    (exit : tracked.exit task.id = .answered) (now : Nat) :
    (tracked.steps workshop task.id now 4).store = tracked.store.remove task.id := by
  rw [steps_succ, advance_of_answered orderly running now exit, steps_succ,
    advance_of_uncounted (by exact orderly) (by exact running) now (exit_withExit_self _ _ _),
    steps_succ,
    advance_of_released (by exact orderly) (by exact running) now (exit_withExit_self _ _ _),
    steps_succ,
    advance_of_told (by exact orderly) (by exact running) now (exit_withExit_self _ _ _)]
  rfl

theorem exit_answer_self (workshop : Workshop σ ρ α ε) (tracked : TrackedStore σ ρ α ε)
    (id : Nat) (action : Option α) : (tracked.answer workshop id action).1.exit id = .answered := by
  cases action with
  | none => exact exit_withExit_self tracked id .answered
  | some given => exact exit_withExit_self _ id .answered

/-- A task that has yielded feeds back and leaves with five steps. -/
theorem store_steps_of_yielded (orderly : tracked.store.Orderly)
    (running : tracked.store.running = front ++ task :: back) {action : Option α}
    (exit : tracked.exit task.id = .yielded action) (now : Nat) :
    (tracked.steps workshop task.id now 5).store =
      (EffectStore.feedBack workshop tracked.store action).1.remove task.id := by
  rw [steps_succ, advance_of_yielded orderly running now exit]
  have fed := store_answer workshop tracked task.id action
  obtain ⟨more, grown, -⟩ := EffectStore.exists_running_feedBack workshop tracked.store action
  have orderlyThen : (tracked.answer workshop task.id action).1.store.Orderly :=
    fed ▸ EffectStore.orderly_feedBack orderly workshop action
  have runningThen : (tracked.answer workshop task.id action).1.store.running =
      front ++ task :: (back ++ more) := by
    rw [fed, grown, running, List.append_assoc, List.cons_append]
  rw [store_steps_of_answered orderlyThen runningThen (exit_answer_self _ _ _ _), fed]

/-- A task whose time has come ends with six steps. -/
theorem store_steps_of_due (workshop : Workshop σ ρ α ε) (orderly : tracked.store.Orderly)
    (running : tracked.store.running = front ++ task :: back)
    (exit : tracked.exit task.id = .working) {wakeAt ticket : Nat}
    (phase : task.phase = .asleep wakeAt ticket) (due : wakeAt ≤ now) :
    (tracked.steps workshop task.id now 6).store =
      (EffectStore.finish workshop tracked.store task ticket).1 := by
  rw [steps_succ, advance_of_asleep orderly running now exit phase, if_pos due]
  exact store_steps_of_yielded (by exact ⟨orderly.distinct, orderly.below⟩) (by exact running)
    (exit_withExit_self _ _ _) now

/-! ### Turns -/

/-- No task is on its way out. -/
def Resting (tracked : TrackedStore σ ρ α ε) : Prop :=
  ∀ task ∈ tracked.store.running, tracked.exit task.id = .working

/-- A resting store rests again when a task has ended. -/
theorem steps_of_due (workshop : Workshop σ ρ α ε) (orderly : tracked.store.Orderly)
    (fresh : tracked.Fresh)
    (resting : tracked.Resting) (running : tracked.store.running = front ++ task :: back)
    {wakeAt ticket : Nat} (phase : task.phase = .asleep wakeAt ticket) (due : wakeAt ≤ now) :
    (tracked.steps workshop task.id now 6).store =
        (EffectStore.finish workshop tracked.store task ticket).1 ∧
      (tracked.steps workshop task.id now 6).Resting ∧
      ∀ other ∈ (tracked.steps workshop task.id now 6).store.running, other.id ≠ task.id := by
  have exit := resting task (by simp [running])
  have ended := store_steps_of_due workshop orderly running exit phase due
  refine ⟨ended, fun other member => ?_, fun other member => ?_⟩
  · rw [ended] at member
    obtain ⟨different, present | new⟩ := EffectStore.mem_running_finish member
    · rw [exit_steps_of_ne different]
      exact resting other present
    · rw [exit_steps_of_ne different]
      exact fresh other.id new
  · rw [ended] at member
    exact (EffectStore.mem_running_finish member).1

/-- A task that begins is asleep, and only its phase has changed. -/
theorem store_begin (orderly : tracked.store.Orderly)
    (running : tracked.store.running = front ++ task :: back) (now : Nat) {surroundings : ρ}
    {delay ticket : Nat} (begun : workshop.begin tracked.store.surroundings task.content =
      (surroundings, delay, ticket)) :
    (tracked.begin workshop task now).store = { tracked.store with
      surroundings := surroundings
      tally := tracked.store.tally.bump .effects
      running := front ++ { task with phase := .asleep (now + delay) ticket } :: back } := by
  simp only [begin, begun, orderly.map_phase running]

theorem orderly_begin (workshop : Workshop σ ρ α ε) (orderly : tracked.store.Orderly)
    (running : tracked.store.running = front ++ task :: back) (now : Nat) :
    (tracked.begin workshop task now).store.Orderly := by
  rw [store_begin orderly running now rfl]
  refine orderly.replaced running ?_ _ _
  rfl

theorem resting_begin (workshop : Workshop σ ρ α ε) (task : RunningTask ε)
    (resting : tracked.Resting) (now : Nat) : (tracked.begin workshop task now).Resting := by
  intro other member
  obtain ⟨earlier, present, rfl⟩ := List.mem_map.mp member
  have exit := resting earlier present
  split <;> exact exit

/-- The first step of a task and six more are its first turn. -/
theorem steps_of_fresh (orderly : tracked.store.Orderly) (fresh : tracked.Fresh)
    (resting : tracked.Resting) (running : tracked.store.running = front ++ task :: back)
    (phase : task.phase = .fresh) (now : Nat) :
    (tracked.steps workshop task.id now 7).store =
        (EffectStore.beginTask workshop tracked.store task now).1 ∧
      (tracked.steps workshop task.id now 7).Resting := by
  have exit := resting task (by simp [running])
  obtain ⟨surroundings, delay, ticket, begun⟩ : ∃ surroundings delay ticket,
      workshop.begin tracked.store.surroundings task.content = (surroundings, delay, ticket) :=
    ⟨_, _, _, rfl⟩
  have orderlyThen := orderly_begin workshop orderly running now
  have restsThen := resting_begin workshop task resting now
  have storeThen := store_begin orderly running now begun
  have runningThen : (tracked.begin workshop task now).store.running =
      front ++ { task with phase := .asleep (now + delay) ticket } :: back := by
    rw [storeThen]
  rw [steps_succ, advance_of_fresh orderly running now exit phase]
  by_cases atOnce : delay = 0
  · have due : now + delay ≤ now := by omega
    obtain ⟨ended, rests, -⟩ :=
      steps_of_due workshop orderlyThen (by exact fresh) restsThen runningThen rfl due
    refine ⟨ended.trans ?_, rests⟩
    have same := EffectStore.finish_replaced workshop { tracked.store with
      surroundings := surroundings
      tally := tracked.store.tally.bump .effects } front back task
      (.asleep (now + delay) ticket) ticket
    rw [← running] at same
    simp only [EffectStore.beginTask, begun, if_pos atOnce, storeThen]
    exact same
  · have early : ¬ now + delay ≤ now := by omega
    have idle : ((tracked.begin workshop task now).advance workshop task.id now).1 =
        tracked.begin workshop task now := by
      rw [show task.id = ({ task with phase := .asleep (now + delay) ticket } : RunningTask ε).id
        from rfl, advance_of_asleep orderlyThen runningThen now exit rfl, if_neg early]
    rw [steps_of_idle idle]
    refine ⟨?_, restsThen⟩
    exact storeThen.trans (EffectStore.beginTask_of_delay orderly running begun atOnce now).symm

/-- Seven steps of a task do to a resting store what its turn does, and it rests again. -/
theorem steps_seven (orderly : tracked.store.Orderly) (fresh : tracked.Fresh)
    (resting : tracked.Resting) (id now : Nat) :
    (tracked.steps workshop id now 7).store =
        (EffectStore.turn workshop tracked.store id now).1 ∧
      (tracked.steps workshop id now 7).Resting := by
  cases found : tracked.store.running.find? fun task => task.id == id with
  | none =>
      have absent : ∀ task ∈ tracked.store.running, task.id ≠ id := fun task member => by
        simpa using List.find?_eq_none.mp found task member
      rw [steps_of_absent absent]
      exact ⟨by simp [EffectStore.turn, found], resting⟩
  | some task =>
      obtain ⟨isTask, front, back, running, -⟩ := List.find?_eq_some_iff_append.mp found
      obtain rfl : task.id = id := beq_iff_eq.mp isTask
      have exit := resting task (by simp [running])
      cases phase : task.phase with
      | asleep wakeAt ticket =>
          by_cases due : wakeAt ≤ now
          · obtain ⟨ended, rests, gone⟩ :=
              steps_of_due workshop orderly fresh resting running phase due
            have seven : tracked.steps workshop task.id now 7 =
                tracked.steps workshop task.id now 6 := by
              rw [steps_succ', advance_of_absent gone]
            rw [seven]
            refine ⟨ended.trans ?_, rests⟩
            simp only [EffectStore.turn, found, phase, if_pos due]
          · rw [steps_of_idle]
            · refine ⟨?_, resting⟩
              simp only [EffectStore.turn, found, phase, if_neg due]
            · rw [advance_of_asleep orderly running now exit phase, if_neg due]
      | fresh =>
          have turn : EffectStore.turn workshop tracked.store task.id now =
              EffectStore.beginTask workshop tracked.store task now := by
            simp only [EffectStore.turn, found, phase]
          rw [turn]
          exact steps_of_fresh orderly fresh resting running phase now

/-! ### What is found at rest -/

/-- At rest every task runs. -/
theorem inFlight_of_resting (counted : Books.Counted tracked.books) (resting : tracked.Resting) :
    tracked.inFlight = tracked.store.running.length := by
  refine counted.running.trans ?_
  rw [books, List.countP_map, List.countP_eq_length]
  intro task member
  simp [Row.isRunning, row, resting task member, TaskExit.isRunning]

/-- At rest a handle waits for all of its tasks. -/
theorem pending_of_resting (counted : Books.Counted tracked.books) (resting : tracked.Resting)
    (handle : Nat) : (tracked.signal handle).pending = tracked.store.pending handle := by
  refine (counted.pending handle).trans ?_
  rw [books, List.countP_map, EffectStore.pending, ← List.countP_eq_length_filter]
  refine List.countP_congr fun task member => ?_
  simp [Row.pendsAt, row, resting task member, TaskExit.isPending, TaskExit.isRunning]

/-- At rest a look of somebody who closes the store finds what its tasks say. -/
theorem peekFrom_of_resting (counted : Books.Counted tracked.books) (resting : tracked.Resting)
    (now deadline : Nat) : Floor.peekFrom tracked now (.watching deadline) =
      match tracked.store.closed? now deadline with
      | some outcome => .ended outcome
      | none => .watching deadline := by
  simp only [Floor.peekFrom, EffectStore.closed?, inFlight_of_resting counted resting,
    List.isEmpty_iff, ← List.length_eq_zero_iff]
  split
  · rfl
  · split <;> rfl

end TrackedStore

/-! ### What is done to a store whose tasks take turns -/

/-- An action is sent, a task takes its turn, or the store is closed. -/
inductive StoreMove (α : Type) where
  | send (action : α)
  | turn (task now : Nat)
  | close
deriving DecidableEq, Repr

namespace StoreMove

variable {σ ρ α ε : Type}

def apply (workshop : Workshop σ ρ α ε) (store : EffectStore σ ρ ε) :
    StoreMove α → EffectStore σ ρ ε
  | .send action =>
      match store.send workshop action with
      | .ok (sent, _, _) => sent
      | .error _ => store
  | .turn task now => (store.turn workshop task now).1
  | .close => store.close

/-- The moves that a move of a store is made of, with nothing in between. -/
def floorMoves : StoreMove α → List (FloorMove α)
  | .send action => [.send action]
  | .turn task now => List.replicate 7 (.advance task now)
  | .close => [.close 0 0]

end StoreMove

/-- An action that is sent to a resting store leaves it at rest. -/
theorem TrackedStore.offer_of_resting {σ ρ α ε : Type} {tracked : TrackedStore σ ρ α ε}
    (workshop : Workshop σ ρ α ε) (fresh : tracked.Fresh) (resting : tracked.Resting)
    (source : Option Nat) (action : α) :
    (tracked.offer workshop source action).1.store =
        (StoreMove.send action).apply workshop tracked.store ∧
      (tracked.offer workshop source action).1.Resting := by
  cases closing : tracked.store.closing with
  | true =>
      rw [offer_of_closing closing]
      exact ⟨by simp [StoreMove.apply, EffectStore.send, closing], resting⟩
  | false =>
      have store := store_offer_of_going workshop closing source action
      refine ⟨?_, fun task member => ?_⟩
      · rw [store, StoreMove.apply, EffectStore.send_of_going closing]
      · rw [exit_offer]
        rw [store] at member
        rcases List.mem_append.mp member with earlier | new
        · exact resting task earlier
        · obtain ⟨place, below, rfl⟩ := List.mem_mapIdx.mp new
          exact fresh _ (Nat.le_add_right _ _)

namespace Shift

variable {σ ρ α ε : Type} {workshop : Workshop σ ρ α ε} {state : σ} {shift : Shift σ ρ α ε}

theorem tracked_run_replicate (shift : Shift σ ρ α ε) (id now count : Nat) :
    (shift.run workshop (List.replicate count (.advance id now))).floor.tracked =
      shift.floor.tracked.steps workshop id now count := by
  induction count generalizing shift with
  | zero => rfl
  | succ count inductionHypothesis =>
      exact inductionHypothesis (shift.step workshop (.advance id now))

/-- A move of a resting store is a row of moves on a floor, and it rests again. -/
theorem run_floorMoves (kept : Kept workshop state shift)
    (resting : shift.floor.tracked.Resting) (move : StoreMove α) :
    (shift.run workshop move.floorMoves).floor.tracked.store =
        move.apply workshop shift.floor.tracked.store ∧
      (shift.run workshop move.floorMoves).floor.tracked.Resting := by
  cases move with
  | send action => exact TrackedStore.offer_of_resting workshop kept.fresh resting none action
  | turn task now =>
      rw [StoreMove.floorMoves, tracked_run_replicate]
      exact TrackedStore.steps_seven (TrackedStore.orderly_of_told kept.told) kept.fresh resting
        task now
  | close => exact ⟨rfl, resting⟩

/-- A row of moves of a resting store is a row of moves on a floor. -/
theorem run_flatMap_floorMoves (kept : Kept workshop state shift)
    (resting : shift.floor.tracked.Resting) (moves : List (StoreMove α)) :
    (shift.run workshop (moves.flatMap StoreMove.floorMoves)).floor.tracked.store =
        moves.foldl (StoreMove.apply workshop) shift.floor.tracked.store ∧
      (shift.run workshop (moves.flatMap StoreMove.floorMoves)).floor.tracked.Resting := by
  induction moves generalizing shift with
  | nil => exact ⟨rfl, resting⟩
  | cons move rest inductionHypothesis =>
      obtain ⟨moved, rests⟩ := run_floorMoves kept resting move
      rw [List.flatMap_cons, List.foldl_cons, ← moved, run_append]
      exact inductionHypothesis (kept.run move.floorMoves) rests

/-- A store whose tasks take turns is one whose tasks take their steps at once, and those who
wait at it and those who close it find the same there. -/
theorem turns_are_rows_of_steps (workshop : Workshop σ ρ α ε) (state : σ) (surroundings : ρ)
    (moves : List (StoreMove α)) :
    let reached := (start state surroundings).run workshop (moves.flatMap StoreMove.floorMoves)
    let tracked := reached.floor.tracked
    tracked.store = moves.foldl (StoreMove.apply workshop) (.start state surroundings) ∧
      (∀ handle, (tracked.signal handle).pending = tracked.store.pending handle) ∧
      ∀ now deadline, Floor.peekFrom tracked now (.watching deadline) =
        match tracked.store.closed? now deadline with
        | some outcome => .ended outcome
        | none => .watching deadline := by
  intro reached tracked
  have kept := kept_start workshop state surroundings
  have counted := (kept.run (moves.flatMap StoreMove.floorMoves)).counted
  obtain ⟨same, resting⟩ := run_flatMap_floorMoves kept (fun task member => by cases member) moves
  exact ⟨same, TrackedStore.pending_of_resting counted resting,
    TrackedStore.peekFrom_of_resting counted resting⟩

end Shift

end BenefitCasework
