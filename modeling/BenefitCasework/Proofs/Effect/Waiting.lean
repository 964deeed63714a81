import BenefitCasework.Proofs.Effect.Floor
import BenefitCasework.Effect.Script

/-!
Contract: a wait goes by the tasks of its handle, and a closing by the tasks of the store.

Owns:
- `FloorMove.advances` and `FloorMove.looksFor`, the moves that a task or somebody who
  waits makes for itself;
- `Shift.within_run`, that a task which has yielded is done after a few steps of its own,
  and `Shift.wait_run`, that a wait for done tasks is over after a few looks of its own,
  whatever others do in between;
- `waits_end_with_their_own_tasks`, how waits and closings come out in every order of
  moves.

Does not own: how long the content of a task takes.
-/

namespace BenefitCasework

/-! ### Own moves -/

/-- The move is a step of the task. -/
def FloorMove.advances {α : Type} (id : Nat) : FloorMove α → Bool
  | .advance task _ => task == id
  | _ => false

/-- The move is a look of the one who waits. -/
def FloorMove.looksFor {α : Type} (waiter : Nat) : FloorMove α → Bool
  | .look looker => looker == waiter
  | _ => false

/-- How many looks are left when the tasks are done. -/
def WaitPhase.looksLeft : WaitPhase → Nat
  | .looking => 2
  | .noted _ => 1
  | .asleep _ => 3
  | .ended => 0

namespace TrackedStore

variable {σ ρ α ε : Type} {workshop : Workshop σ ρ α ε} {tracked : TrackedStore σ ρ α ε}
  {front back : List (RunningTask ε)} {task : RunningTask ε}

/-- A step of a task that has yielded brings it further. -/
theorem stepsLeft_advance_self (workshop : Workshop σ ρ α ε) (orderly : tracked.store.Orderly)
    (running : tracked.store.running = front ++ task :: back) (now : Nat)
    (yielded : (tracked.exit task.id).stepsLeft ≤ 4) :
    ((tracked.advance workshop task.id now).1.exit task.id).stepsLeft ≤
      (tracked.exit task.id).stepsLeft - 1 := by
  cases exit : tracked.exit task.id with
  | working =>
      rw [exit] at yielded
      exact absurd yielded (Nat.not_succ_le_self 4)
  | yielded outcome =>
      rw [advance_of_yielded orderly running now exit]
      cases outcome with
      | none =>
          rw [answer, exit_withExit_self]
          exact le_rfl
      | some action =>
          change ((withExit _ task.id .answered).exit task.id).stepsLeft ≤ _
          rw [exit_withExit_self]
          exact le_rfl
  | answered =>
      rw [advance_of_answered orderly running now exit, exit_withExit_self]
      exact le_rfl
  | uncounted =>
      rw [advance_of_uncounted orderly running now exit, exit_withExit_self]
      exact le_rfl
  | released =>
      rw [advance_of_released orderly running now exit, exit_withExit_self]
      exact le_rfl
  | told =>
      rw [advance_of_told orderly running now exit]
      change (tracked.exit task.id).stepsLeft ≤ _
      rw [exit]
      exact le_rfl

/-- A step of a task that has yielded leaves less to do. -/
theorem within_advance_self {id count : Nat} (orderly : tracked.store.Orderly) (now : Nat)
    (few : count ≤ 4) (within : Books.Within tracked.books id count) :
    Books.Within (tracked.advance workshop id now).1.books id (count - 1) := by
  intro row member same
  obtain ⟨other, present, rfl⟩ := List.mem_map.mp member
  obtain rfl : other.id = id := same
  cases found : tracked.store.running.find? fun task => task.id == other.id with
  | none =>
      have none : tracked.advance workshop other.id now = (tracked, []) := by
        simp only [advance, found]
      rw [none] at present
      exact absurd (beq_self_eq_true other.id) (List.find?_eq_none.mp found other present)
  | some task =>
      obtain ⟨isTask, front, back, running, -⟩ := List.find?_eq_some_iff_append.mp found
      have sameId : task.id = other.id := beq_iff_eq.mp isTask
      have left : (tracked.exit task.id).stepsLeft ≤ count :=
        within (tracked.row task) (List.mem_map_of_mem (by simp [running])) sameId
      have fewer := stepsLeft_advance_self workshop orderly running now (left.trans few)
      rw [sameId] at fewer left
      exact fewer.trans (Nat.sub_le_sub_right left 1)

end TrackedStore

namespace Shift

variable {σ ρ α ε : Type} {workshop : Workshop σ ρ α ε} {state : σ} {shift : Shift σ ρ α ε}

/-- A move leaves no task more to do, and an own step leaves less. -/
theorem within_step (kept : Kept workshop state shift) {id count : Nat}
    (known : id < shift.floor.tracked.store.started) (few : count ≤ 4)
    (within : Books.Within shift.floor.tracked.books id count) (move : FloorMove α) :
    Books.Within (shift.step workshop move).floor.tracked.books id
      (count - (move.advances id).toNat) := by
  cases own : move.advances id with
  | false =>
      obtain ⟨happened, -, step⟩ := kept.books_step move
      exact within.step known step
  | true =>
      cases move with
      | advance task now =>
          obtain rfl : task = id := beq_iff_eq.mp own
          exact TrackedStore.within_advance_self (TrackedStore.orderly_of_told kept.told) now few
            within
      | send action => cases own
      | await waiter handle => cases own
      | look waiter => cases own
      | close closer deadline => cases own
      | peek closer now => cases own

/-- A task that has yielded comes as many steps further as it takes. -/
theorem within_run (kept : Kept workshop state shift) {id count : Nat}
    (known : id < shift.floor.tracked.store.started) (few : count ≤ 4)
    (within : Books.Within shift.floor.tracked.books id count) (moves : List (FloorMove α)) :
    Books.Within (shift.run workshop moves).floor.tracked.books id
      (count - moves.countP (FloorMove.advances id)) := by
  induction moves generalizing shift count with
  | nil => exact within
  | cons move rest inductionHypothesis =>
      obtain ⟨happened, -, step⟩ := kept.books_step move
      have further := inductionHypothesis (kept.step move) (known.trans_le step.started_le)
        ((Nat.sub_le _ _).trans few) (within_step kept known few within move)
      have spent : count - (move :: rest).countP (FloorMove.advances id) =
          count - (move.advances id).toNat - rest.countP (FloorMove.advances id) := by
        rw [show (move :: rest).countP (FloorMove.advances id) = _ from
          Books.countP_middle (FloorMove.advances id) move [] rest, Nat.add_comm, Nat.sub_add_eq]
        rfl
      rw [spent]
      exact further

/-- All tasks of the handle have told that they are done, as far as they are still
there. -/
def AllDone (shift : Shift σ ρ α ε) (handle : Nat) : Prop :=
  ∀ id ∈ startedBy shift.trace handle, Books.Within shift.floor.tracked.books id 0

theorem AllDone.step (kept : Kept workshop state shift) {handle : Nat}
    (known : handle < shift.floor.tracked.store.handles) (done : shift.AllDone handle)
    (move : FloorMove α) : (shift.step workshop move).AllDone handle := by
  obtain ⟨happened, more, step⟩ := kept.books_step move
  intro id started
  rw [more, startedBy_append, step.startedBy_eq known, List.append_nil] at started
  have listed := mem_startedIn_of_mem_startedBy started
  rw [kept.told.numbered] at listed
  exact (done id started).step (List.mem_range.mp listed) step

/-- Where all tasks of a handle are done, each of its rows says so. -/
theorem AllDone.exit_eq_told (kept : Kept workshop state shift) {handle : Nat}
    (done : shift.AllDone handle) {row : Row α}
    (member : row ∈ shift.floor.tracked.books.rows) (same : row.handle = handle) :
    row.exit = .told := by
  have none := done row.id (same ▸ kept.told.home row member) row member rfl
  cases exit : row.exit <;> simp_all [TaskExit.stepsLeft]

/-- Who waits for done tasks comes one look further with each look. -/
theorem looksLeft_lookFrom (kept : Kept workshop state shift) {wait : Wait}
    (found : WaitKept shift.trace shift.floor.tracked.books wait)
    (done : shift.AllDone wait.handle) :
    (Floor.lookFrom shift.floor.tracked wait.handle wait.phase).looksLeft ≤
      wait.phase.looksLeft - 1 := by
  obtain ⟨handle, phase⟩ := wait
  cases phase with
  | looking => exact le_rfl
  | noted told =>
      have none : (shift.floor.tracked.signal handle).pending = 0 := by
        change (shift.floor.tracked.books.signal handle).pending = 0
        rw [kept.counted.pending, List.countP_eq_zero]
        intro row member pends
        rw [Row.pendsAt, Bool.and_eq_true, beq_iff_eq] at pends
        rw [done.exit_eq_told kept member pends.1] at pends
        cases pends.2
      simp only [Floor.lookFrom, if_pos none]
      exact le_rfl
  | asleep told =>
      -- who fell asleep had somebody left to tell, and nobody is left now
      have heard : (shift.floor.tracked.signal handle).told ≠ told := by
        intro same
        obtain ⟨row, member, untold⟩ := List.any_eq_true.mp (found.2.2 same)
        rw [Row.untoldAt, Bool.and_eq_true, beq_iff_eq] at untold
        rw [done.exit_eq_told kept member untold.1] at untold
        cases untold.2
      simp only [Floor.lookFrom, if_pos heard]
      exact le_rfl
  | ended => exact le_rfl

/-- Nobody else ends a wait, and an own look brings it further once the tasks are done. -/
theorem wait_step (kept : Kept workshop state shift) {waiter : Nat} {wait : Wait}
    (present : shift.floor.waits.get? waiter = some wait) (move : FloorMove α) :
    ∃ phase, (shift.step workshop move).floor.waits.get? waiter = some ⟨wait.handle, phase⟩ ∧
      (shift.AllDone wait.handle →
        phase.looksLeft ≤ wait.phase.looksLeft - (move.looksFor waiter).toNat) := by
  cases move with
  | send action => exact ⟨wait.phase, present, fun _ => le_rfl⟩
  | advance task now => exact ⟨wait.phase, present, fun _ => le_rfl⟩
  | close closer deadline => exact ⟨wait.phase, present, fun _ => le_rfl⟩
  | await other handle =>
      refine ⟨wait.phase, ?_, fun _ => le_rfl⟩
      change (shift.floor.await other handle).waits.get? waiter = some wait
      unfold Floor.await
      split
      · next possible =>
          have different : waiter ≠ other := by
            rintro rfl
            rw [present] at possible
            cases possible.2
          rw [Table.get?_set_of_ne different, present]
      · exact present
  | look other =>
      by_cases same : other = waiter
      · subst same
        refine ⟨Floor.lookFrom shift.floor.tracked wait.handle wait.phase, ?_, fun done => ?_⟩
        · change (shift.floor.look other).waits.get? other = _
          simp only [Floor.look, present, Table.get?_set_self]
        · simpa [FloorMove.looksFor] using
            looksLeft_lookFrom kept (kept.waits other wait present) done
      · refine ⟨wait.phase, ?_, fun _ => ?_⟩
        · change (shift.floor.look other).waits.get? waiter = some wait
          unfold Floor.look
          split
          · exact present
          · rw [Table.get?_set_of_ne (Ne.symm same), present]
        · rw [FloorMove.looksFor, beq_eq_false_iff_ne.mpr same]
          exact le_rfl
  | peek closer now =>
      refine ⟨wait.phase, ?_, fun _ => le_rfl⟩
      change (shift.floor.peek closer now).waits.get? waiter = some wait
      unfold Floor.peek
      split <;> exact present

/-- A wait comes as many looks further as it takes once the tasks are done. -/
theorem wait_run (kept : Kept workshop state shift) {waiter : Nat} {wait : Wait}
    (present : shift.floor.waits.get? waiter = some wait) (moves : List (FloorMove α)) :
    ∃ phase, (shift.run workshop moves).floor.waits.get? waiter = some ⟨wait.handle, phase⟩ ∧
      (shift.AllDone wait.handle →
        phase.looksLeft ≤ wait.phase.looksLeft - moves.countP (FloorMove.looksFor waiter)) := by
  induction moves generalizing shift wait with
  | nil => exact ⟨wait.phase, present, fun _ => le_rfl⟩
  | cons move rest inductionHypothesis =>
      obtain ⟨phase, presentThen, fewer⟩ := wait_step kept present move
      have known := (kept.waits waiter wait present).1
      obtain ⟨final, presentLast, fewest⟩ := inductionHypothesis (kept.step move) presentThen
      refine ⟨final, presentLast, fun done => (fewest (done.step kept known move)).trans ?_⟩
      rw [show (move :: rest).countP (FloorMove.looksFor waiter) = _ from
        Books.countP_middle (FloorMove.looksFor waiter) move [] rest, Nat.add_comm, Nat.sub_add_eq]
      exact Nat.sub_le_sub_right (fewer done) _

/-- A handle that was given out keeps its tasks. -/
theorem startedBy_run (kept : Kept workshop state shift) {handle : Nat}
    (known : handle < shift.floor.tracked.store.handles) (moves : List (FloorMove α)) :
    startedBy (shift.run workshop moves).trace handle = startedBy shift.trace handle := by
  induction moves generalizing shift with
  | nil => rfl
  | cons move rest inductionHypothesis =>
      obtain ⟨happened, more, step⟩ := kept.books_step move
      have later := inductionHypothesis (kept.step move) (known.trans_le step.handles_le)
      rw [more, startedBy_append, step.startedBy_eq known, List.append_nil] at later
      exact later

/-- Once the tasks of a handle have yielded, own steps of them and own looks end a wait for
it, whatever others do in between. -/
theorem get?_of_yielded (kept : Kept workshop state shift) {waiter : Nat} {wait : Wait}
    (present : shift.floor.waits.get? waiter = some wait)
    (yielded : ∀ id ∈ startedBy shift.trace wait.handle, id ∈ yieldedIn shift.trace)
    {own looks : List (FloorMove α)}
    (steps : ∀ id ∈ startedBy shift.trace wait.handle, 4 ≤ own.countP (FloorMove.advances id))
    (looked : 3 ≤ looks.countP (FloorMove.looksFor waiter)) :
    (shift.run workshop (own ++ looks)).floor.waits.get? waiter = some ⟨wait.handle, .ended⟩ := by
  have known := (kept.waits waiter wait present).1
  have done : (shift.run workshop own).AllDone wait.handle := by
    intro id started
    rw [startedBy_run kept known own] at started
    have listed := mem_startedIn_of_mem_startedBy started
    rw [kept.told.numbered] at listed
    have within : Books.Within shift.floor.tracked.books id 4 := by
      intro row member same
      have standing := kept.told.standing row member
      rw [same] at standing
      cases exit : row.exit with
      | working =>
          rw [exit] at standing
          exact absurd (yielded id started) standing
      | _ => simp [TaskExit.stepsLeft]
    have left := within_run kept (List.mem_range.mp listed) le_rfl within own
    rwa [Nat.sub_eq_zero_of_le (steps id started)] at left
  obtain ⟨phase, presentThen, -⟩ := wait_run kept present own
  obtain ⟨final, presentLast, few⟩ := wait_run (kept.run own) presentThen looks
  rw [run_append, presentLast]
  have none : final.looksLeft = 0 := by
    have bound : final.looksLeft ≤ phase.looksLeft - looks.countP (FloorMove.looksFor waiter) :=
      few done
    have most : phase.looksLeft ≤ 3 := by cases phase <;> simp [WaitPhase.looksLeft]
    omega
  cases final <;> simp [WaitPhase.looksLeft] at none ⊢

/-- What has happened is not undone. -/
theorem exists_trace_run (workshop : Workshop σ ρ α ε) (shift : Shift σ ρ α ε)
    (moves : List (FloorMove α)) :
    ∃ more, (shift.run workshop moves).trace = shift.trace ++ more := by
  induction moves generalizing shift with
  | nil => exact ⟨[], (List.append_nil _).symm⟩
  | cons move rest inductionHypothesis =>
      obtain ⟨more, later⟩ := inductionHypothesis (shift.step workshop move)
      exact ⟨_, later.trans (List.append_assoc _ _ _)⟩

/-! ### Closing -/

theorem get?_run_close (workshop : Workshop σ ρ α ε) (shift : Shift σ ρ α ε)
    (moves : List (FloorMove α)) (closer deadline : Nat) :
    (shift.run workshop (moves ++ [.close closer deadline])).floor.closings.get? closer =
      some (.watching deadline) := by
  rw [run_append]
  exact Table.get?_set_self closer _ _

/-- A closing finds out how many tasks run. -/
theorem get?_peek (kept : Kept workshop state shift) {closer deadline : Nat}
    (watching : shift.floor.closings.get? closer = some (.watching deadline)) (now : Nat) :
    (shift.step workshop (.peek closer now)).floor.closings.get? closer = some
      (if shift.floor.tracked.stillRunning = [] then .ended (.ok ())
      else if deadline ≤ now then
        .ended (.error (.timedOut shift.floor.tracked.stillRunning.length))
      else .watching deadline) := by
  change (shift.floor.peek closer now).closings.get? closer = _
  simp only [Floor.peek, watching, Table.get?_set_self, Floor.peekFrom,
    TrackedStore.stillRunning_eq_nil_iff kept.counted,
    TrackedStore.length_stillRunning kept.counted]

/-- Behind a closing nothing is reduced, and the state stays. -/
theorem unchanged_of_close (kept : Kept workshop state shift) (closer deadline : Nat)
    (later : List (FloorMove α)) :
    let ended := (shift.step workshop (.close closer deadline)).run workshop later
    actionsIn ended.trace = actionsIn shift.trace ∧
      ended.floor.tracked.store.state = shift.floor.tracked.store.state := by
  intro ended
  have keptEnded := (kept.step (.close closer deadline)).run later
  obtain ⟨more, happened⟩ :=
    exists_trace_run workshop (shift.step workshop (.close closer deadline)) later
  have happened : ended.trace = shift.trace ++ [.closed] ++ more := happened
  have coherent : Coherent workshop state ended.trace := keptEnded.coherent
  rw [happened] at coherent
  have actions : actionsIn ended.trace = actionsIn shift.trace := by
    rw [happened, actionsIn_append, coherent.actionsIn_eq_nil (by simp), actionsIn_append]
    simp [actionsIn]
  refine ⟨actions, ?_⟩
  rw [keptEnded.reached, kept.reached, stateAfter, stateAfter]
  exact congrArg _ actions

/-- Every task that is not finished runs, and no task is counted twice. -/
theorem Kept.stillRunning (kept : Kept workshop state shift) :
    shift.floor.tracked.stillRunning.Nodup ∧
      (∀ id ∈ shift.floor.tracked.stillRunning, id ∈ startedIn shift.trace) ∧
      ∀ id ∈ startedIn shift.trace,
        Finished shift.trace id ∨ id ∈ shift.floor.tracked.stillRunning := by
  have orderly := TrackedStore.orderly_of_told kept.told
  refine ⟨orderly.distinct.filter _, fun id member => ?_, fun id started => ?_⟩
  · obtain ⟨task, present, rfl⟩ := List.mem_map.mp (List.mem_filter.mp member).1
    rw [kept.told.numbered]
    exact List.mem_range.mpr (orderly.below task present)
  · refine (kept.told.finished_or_running started).imp_right ?_
    rintro ⟨row, member, rfl, runs⟩
    obtain ⟨task, present, rfl⟩ := List.mem_map.mp member
    exact List.mem_filter.mpr ⟨List.mem_map_of_mem present, runs⟩

end Shift

/-- In every order of moves, with every workshop: a wait for a handle is over only when
each task that was started with it has been carried out and what it yielded has been
reduced or, behind a closing, refused; once these tasks have yielded, four more steps of
each of them and three looks end the wait, whatever other tasks do or leave. A closing ends
well only when no task runs, and at its deadline it tells how many do; behind it, no
action is reduced and the state stays. -/
theorem waits_end_with_their_own_tasks {σ ρ α ε : Type} (workshop : Workshop σ ρ α ε) (state : σ)
    (surroundings : ρ) (moves : List (FloorMove α)) :
    let reached := (Shift.start state surroundings).run workshop moves
    let tracked := reached.floor.tracked
    (Coherent workshop state reached.trace ∧
      tracked.store.state = stateAfter workshop state reached.trace) ∧
    (∀ waiter handle, reached.floor.waits.get? waiter = some ⟨handle, .ended⟩ →
      ∀ id ∈ startedBy reached.trace handle, Finished reached.trace id) ∧
    (∀ waiter wait, reached.floor.waits.get? waiter = some wait →
      (∀ id ∈ startedBy reached.trace wait.handle, id ∈ yieldedIn reached.trace) →
      ∀ own looks,
        (∀ id ∈ startedBy reached.trace wait.handle, 4 ≤ own.countP (FloorMove.advances id)) →
        3 ≤ looks.countP (FloorMove.looksFor waiter) →
        (reached.run workshop (own ++ looks)).floor.waits.get? waiter =
          some ⟨wait.handle, .ended⟩) ∧
    (tracked.stillRunning.Nodup ∧ (∀ id ∈ tracked.stillRunning, id ∈ startedIn reached.trace) ∧
      ∀ id ∈ startedIn reached.trace, Finished reached.trace id ∨ id ∈ tracked.stillRunning) ∧
    (∀ closer, reached.floor.closings.get? closer = some (.ended (.ok ())) →
      tracked.stillRunning = []) ∧
    (∀ closer deadline now, reached.floor.closings.get? closer = some (.watching deadline) →
      (reached.step workshop (.peek closer now)).floor.closings.get? closer = some
        (if tracked.stillRunning = [] then .ended (.ok ())
        else if deadline ≤ now then .ended (.error (.timedOut tracked.stillRunning.length))
        else .watching deadline)) ∧
    ∀ closer deadline later,
      let ended := (reached.step workshop (.close closer deadline)).run workshop later
      actionsIn ended.trace = actionsIn reached.trace ∧
        ended.floor.tracked.store.state = tracked.store.state := by
  intro reached tracked
  have kept : Shift.Kept workshop state reached :=
    Shift.kept_run workshop state surroundings moves
  refine ⟨⟨kept.coherent, kept.reached⟩, ?_, ?_, kept.stillRunning, ?_, ?_, ?_⟩
  · intro waiter handle ended
    exact (kept.waits waiter ⟨handle, .ended⟩ ended).2
  · intro waiter wait present yielded own looks steps looked
    exact Shift.get?_of_yielded kept present yielded steps looked
  · intro closer well
    have none := (kept.closings closer (.ended (.ok ())) well).2 rfl
    exact (TrackedStore.stillRunning_eq_nil_iff kept.counted).mpr none
  · intro closer deadline now watching
    exact Shift.get?_peek kept watching now
  · intro closer deadline later
    exact Shift.unchanged_of_close kept closer deadline later

/-- An action that starts a task which yields one that starts a slow task, and a task that
yields nothing. -/
def forkingAction : ScriptedAction :=
  .act "fork" [.task (0, some (.act "later" [.task (50, none)])), .nothing, .task (0, none)]

/-- The tasks of the forking action have yielded, and somebody sleeps who waits for them. -/
def forked : List (FloorMove ScriptedAction) :=
  [.send forkingAction, .await 0 0, .look 0, .look 0, .advance 0 0, .advance 1 0, .advance 0 0,
    .advance 1 0]

/-- The two tasks go on, in turns, and then the sleeper; the slow task does not. -/
def joined : List (FloorMove ScriptedAction) :=
  [.advance 0 0, .advance 1 0, .advance 0 0, .advance 1 0, .advance 0 0, .advance 1 0, .advance 0 0,
    .advance 1 0]

/-- The wait for a forking action is over while the slow task runs, and a closing that does
not wait for that task tells of it. -/
theorem forked_wait_ends_before_slow_task :
    let looks := [.look 0, .look 0, .look 0]
    let sent := (Shift.start [] ()).run scriptWorkshop forked
    let closing := (Shift.start [] ()).run scriptWorkshop
      (forked ++ (joined ++ looks) ++ [.close 0 10])
    (sent.run scriptWorkshop (joined ++ looks)).floor.waits.get? 0 = some ⟨0, .ended⟩ ∧
      closing.floor.tracked.stillRunning = [2] ∧
      (closing.step scriptWorkshop (.peek 0 10)).floor.closings.get? 0 =
        some (.ended (.error (.timedOut 1))) := by
  intro looks sent closing
  have running : closing.floor.tracked.stillRunning = [2] := by decide +kernel
  refine ⟨?_, running, ?_⟩
  · exact (waits_end_with_their_own_tasks scriptWorkshop [] () forked).2.2.1 0 ⟨0, .asleep 0⟩
      (by decide +kernel) (by decide +kernel) joined looks (by decide +kernel) (by decide +kernel)
  · have told := (waits_end_with_their_own_tasks scriptWorkshop [] ()
      (forked ++ (joined ++ looks) ++ [.close 0 10])).2.2.2.2.2.1 0 10 10
      (Shift.get?_run_close scriptWorkshop _ _ 0 10)
    rw [running] at told
    exact told

end BenefitCasework
