import BenefitCasework.Proofs.Effect.Bookkeeping

/-!
Contract: what holds on a floor, whatever anybody does next.

Owns:
- `stateAfter`, the state that the reduced actions lead to;
- `Coherent`, that every happening fits behind the ones before it: nothing is reduced
  behind a closing, and nothing is refused before one;
- `WaitKept` and `ClosingKept`, what somebody who waits or closes has found out;
- `Shift.Kept`, all of it for a floor with what has happened there, and `Shift.kept_run`,
  that every row of moves keeps it.

Does not own: how soon a wait is over.
-/

namespace BenefitCasework

/-! ### What has happened -/

section Happenings

variable {σ ρ α ε : Type} {workshop : Workshop σ ρ α ε} {state : σ}
  {trace more : List (Happening α)}

/-- The actions that were reduced, one after the other. -/
def actionsIn (trace : List (Happening α)) : List α :=
  trace.filterMap fun
    | .reduced _ action _ _ => some action
    | _ => none

/-- The state that the reduced actions lead to. -/
def stateAfter (workshop : Workshop σ ρ α ε) (state : σ) (trace : List (Happening α)) : σ :=
  (actionsIn trace).foldl (fun reached action => (workshop.reduce reached action).1) state

/-- A happening fits behind those before it: an action is reduced as long as the store
is not closed, with the next handle and the next tasks, one for each that it asks for;
an action is refused after that; a task yields once. -/
def FitsBehind (workshop : Workshop σ ρ α ε) (state : σ) (before : List (Happening α)) :
    Happening α → Prop
  | .reduced _ action handle started =>
      .closed ∉ before ∧ handle = (handlesIn before).length ∧
        started = List.range' (startedIn before).length
          ((workshop.reduce (stateAfter workshop state before) action).2.filterMap
            Effect.task?).length
  | .refused _ _ => .closed ∈ before
  | .yielded id _ => id ∈ startedIn before ∧ id ∉ yieldedIn before
  | .closed => True

/-- Every happening fits behind the ones before it. -/
def Coherent (workshop : Workshop σ ρ α ε) (state : σ) (trace : List (Happening α)) : Prop :=
  ∀ before happening after, trace = before ++ happening :: after →
    FitsBehind workshop state before happening

@[simp]
theorem actionsIn_append (trace more : List (Happening α)) :
    actionsIn (trace ++ more) = actionsIn trace ++ actionsIn more := List.filterMap_append

theorem stateAfter_append (workshop : Workshop σ ρ α ε) (state : σ)
    (trace more : List (Happening α)) : stateAfter workshop state (trace ++ more) =
      stateAfter workshop (stateAfter workshop state trace) more := by
  rw [stateAfter, actionsIn_append, List.foldl_append]
  rfl

theorem coherent_nil : Coherent workshop state [] := by
  intro before happening after split
  simp at split

theorem Coherent.snoc (coherent : Coherent workshop state trace) {last : Happening α}
    (fits : FitsBehind workshop state trace last) : Coherent workshop state (trace ++ [last]) := by
  intro before happening after split
  rcases List.eq_nil_or_concat after with rfl | ⟨rest, final, rfl⟩
  · obtain ⟨rfl, same⟩ := List.append_inj' split rfl
    obtain rfl := List.singleton_inj.mp same
    exact fits
  · rw [List.concat_eq_append, ← List.cons_append, ← List.append_assoc] at split
    exact coherent before happening rest (List.append_inj' split rfl).1

/-- Nothing is reduced behind a closing. -/
theorem Coherent.not_reduced (coherent : Coherent workshop state (trace ++ more))
    (closed : .closed ∈ trace) {source : Option Nat} {action : α} {handle : Nat}
    {started : List Nat} : .reduced source action handle started ∉ more := by
  intro reduced
  obtain ⟨front, back, rfl⟩ := List.append_of_mem reduced
  have fits := coherent (trace ++ front) _ back (List.append_assoc trace front _).symm
  exact fits.1 (List.mem_append_left front closed)

theorem Coherent.handlesIn_eq_nil (coherent : Coherent workshop state (trace ++ more))
    (closed : .closed ∈ trace) : handlesIn more = [] := by
  refine List.filterMap_eq_nil_iff.mpr fun happening present => ?_
  cases happening with
  | reduced source action handle started => exact absurd present (coherent.not_reduced closed)
  | refused source action => rfl
  | yielded id outcome => rfl
  | closed => rfl

theorem Coherent.actionsIn_eq_nil (coherent : Coherent workshop state (trace ++ more))
    (closed : .closed ∈ trace) : actionsIn more = [] := by
  refine List.filterMap_eq_nil_iff.mpr fun happening present => ?_
  cases happening with
  | reduced source action handle started => exact absurd present (coherent.not_reduced closed)
  | refused source action => rfl
  | yielded id outcome => rfl
  | closed => rfl

end Happenings

/-! ### What a step of a store does to its state -/

namespace TrackedStore

variable {σ ρ α ε : Type} {workshop : Workshop σ ρ α ε} {tracked : TrackedStore σ ρ α ε}

theorem closing_offer (workshop : Workshop σ ρ α ε) (tracked : TrackedStore σ ρ α ε)
    (source : Option Nat) (action : α) :
    (tracked.offer workshop source action).1.store.closing = tracked.store.closing := by
  cases closing : tracked.store.closing with
  | false =>
      rw [store_offer_of_going workshop closing]
      exact closing
  | true =>
      rw [offer_of_closing closing]
      exact closing

theorem closed_ne_offer (workshop : Workshop σ ρ α ε) (tracked : TrackedStore σ ρ α ε)
    (source : Option Nat) (action : α) : .closed ≠ (tracked.offer workshop source action).2 := by
  intro same
  cases closing : tracked.store.closing with
  | false =>
      rw [offer_of_going closing] at same
      cases same
  | true =>
      rw [offer_of_closing closing] at same
      cases same

theorem state_offer (workshop : Workshop σ ρ α ε) (tracked : TrackedStore σ ρ α ε)
    (source : Option Nat) (action : α) :
    (tracked.offer workshop source action).1.store.state =
      stateAfter workshop tracked.store.state [(tracked.offer workshop source action).2] := by
  cases closing : tracked.store.closing with
  | false =>
      rw [store_offer_of_going workshop closing, offer_of_going closing]
      rfl
  | true =>
      rw [offer_of_closing closing]
      rfl

/-- A step of a task leaves the state alone, or it sends what the task has yielded. -/
theorem advance_cases (workshop : Workshop σ ρ α ε) (tracked : TrackedStore σ ρ α ε)
    (id now : Nat) :
    ((tracked.advance workshop id now).1.store.state = tracked.store.state ∧
      (tracked.advance workshop id now).1.store.closing = tracked.store.closing ∧
      ((tracked.advance workshop id now).2 = [] ∨
        ∃ outcome, (tracked.advance workshop id now).2 = [.yielded id outcome])) ∨
    ∃ action, (tracked.advance workshop id now).1.store =
        (tracked.offer workshop (some id) action).1.store ∧
      (tracked.advance workshop id now).2 = [(tracked.offer workshop (some id) action).2] := by
  cases found : tracked.store.running.find? fun task => task.id == id with
  | none => exact .inl (by simp [advance, found])
  | some task =>
      obtain rfl : task.id = id := by simpa using List.find?_some found
      cases exit : tracked.exit task.id with
      | working =>
          refine .inl ?_
          cases phase : task.phase with
          | fresh => simp [advance, found, exit, phase, begin]
          | asleep wakeAt ticket =>
              by_cases due : wakeAt ≤ now
              · simp [advance, found, exit, phase, due, complete, withExit]
              · simp [advance, found, exit, phase, due]
      | yielded outcome =>
          cases outcome with
          | none => exact .inl (by simp [advance, found, exit, answer, withExit])
          | some action => exact .inr ⟨action, by simp [advance, found, exit, answer, withExit]⟩
      | answered => exact .inl (by simp [advance, found, exit, withExit])
      | uncounted => exact .inl (by simp [advance, found, exit, withExit, withSignal])
      | released => exact .inl (by simp [advance, found, exit, withExit, withSignal])
      | told => exact .inl (by simp [advance, found, exit, EffectStore.remove])

/-- As many tasks run as the count says. -/
theorem length_stillRunning (counted : Books.Counted tracked.books) :
    tracked.stillRunning.length = tracked.inFlight := by
  rw [stillRunning, ← List.countP_eq_length_filter, List.countP_map]
  refine Eq.trans ?_ counted.running.symm
  rw [books, List.countP_map]
  rfl

theorem stillRunning_eq_nil_iff (counted : Books.Counted tracked.books) :
    tracked.stillRunning = [] ↔ tracked.inFlight = 0 := by
  rw [← length_stillRunning counted, List.length_eq_zero_iff]

end TrackedStore

/-! ### What those who wait and those who close have found out -/

section Watchers

variable {σ ρ α ε : Type} {trace happened : List (Happening α)} {books next : Books α}
  {wait : Wait} {tracked : TrackedStore σ ρ α ε}

/-- Who waits has noted no telling that is still to come, falls asleep only as long as
somebody is left to tell, and is through only when the tasks are finished. -/
def WaitKept (trace : List (Happening α)) (books : Books α) (wait : Wait) : Prop :=
  wait.handle < books.handles ∧ match wait.phase with
    | .looking => True
    | .noted told => told ≤ (books.signal wait.handle).told
    | .asleep told => told ≤ (books.signal wait.handle).told ∧
        ((books.signal wait.handle).told = told →
          books.rows.any (Row.untoldAt wait.handle) = true)
    | .ended => ∀ id ∈ startedBy trace wait.handle, Finished trace id

theorem WaitKept.step (kept : WaitKept trace books wait)
    (step : Books.Step books happened next) : WaitKept (trace ++ happened) next wait := by
  obtain ⟨handle, phase⟩ := wait
  obtain ⟨known, found⟩ := kept
  refine ⟨known.trans_le step.handles_le, ?_⟩
  have tells := step.tells known
  have later : (books.signal handle).told ≤ (next.signal handle).told :=
    tells.elim Nat.le_of_lt fun unchanged => unchanged.1.ge
  cases phase with
  | looking => trivial
  | noted told => exact found.trans later
  | asleep told =>
      obtain ⟨noted, untold⟩ := found
      refine ⟨noted.trans later, fun same => ?_⟩
      rcases tells with more | ⟨unchanged, stays⟩
      · -- what was noted is at most what was told before, so the new telling is seen
        exact absurd (more.trans_eq same) (Nat.not_lt_of_le noted)
      · exact stays (untold (unchanged.symm.trans same))
  | ended =>
      intro id started
      have earlier : id ∈ startedBy trace handle := by
        rw [startedBy_append, step.startedBy_eq known, List.append_nil] at started
        exact started
      exact (found id earlier).append happened

/-- What somebody finds out who looks at a handle. -/
theorem WaitKept.look (told : Books.Told trace tracked.books)
    (counted : Books.Counted tracked.books) (kept : WaitKept trace tracked.books wait) :
    WaitKept trace tracked.books
      { wait with phase := Floor.lookFrom tracked wait.handle wait.phase } := by
  obtain ⟨handle, phase⟩ := wait
  obtain ⟨known, found⟩ := kept
  refine ⟨known, ?_⟩
  cases phase with
  | looking => exact le_rfl (a := (tracked.signal handle).told)
  | noted seen =>
      by_cases none : (tracked.signal handle).pending = 0
      · simp only [Floor.lookFrom, if_pos none]
        exact told.finished_of_pending_eq_zero counted none
      · simp only [Floor.lookFrom, if_neg none]
        exact ⟨found, fun _ => counted.any_untoldAt none⟩
  | asleep seen =>
      by_cases same : (tracked.signal handle).told = seen
      · -- nothing was told since; with nobody left to tell, the tasks are all gone
        by_cases teller : tracked.hasTeller handle = true
        · simp only [Floor.lookFrom, same, ne_eq, not_true_eq_false, if_false, if_pos teller]
          exact found
        · simp only [Floor.lookFrom, same, ne_eq, not_true_eq_false, if_false, if_neg teller]
          refine told.finished_of_absent fun row member same => teller ?_
          obtain ⟨task, present, rfl⟩ := List.mem_map.mp member
          exact List.any_eq_true.mpr ⟨task, present, beq_iff_eq.mpr same⟩
      · simp only [Floor.lookFrom, ne_eq, same, not_false_eq_true, if_true]
  | ended => exact found

/-- Who closes a store has closed it, and is told that this went well only when no task
runs. -/
def ClosingKept (trace : List (Happening α)) (books : Books α) : Closing → Prop
  | .watching _ => .closed ∈ trace
  | .ended outcome => .closed ∈ trace ∧ (outcome = .ok () → books.inFlight = 0)

theorem ClosingKept.closed {closing : Closing} (kept : ClosingKept trace books closing) :
    .closed ∈ trace := by
  cases closing with
  | watching deadline => exact kept
  | ended outcome => exact kept.1

theorem ClosingKept.step {closing : Closing} (kept : ClosingKept trace books closing)
    (step : Books.Step books happened next) (nothing : .closed ∈ trace → handlesIn happened = []) :
    ClosingKept (trace ++ happened) next closing := by
  cases closing with
  | watching deadline => exact List.mem_append_left _ kept
  | ended outcome =>
      refine ⟨List.mem_append_left _ kept.1, fun well => ?_⟩
      have fewer := step.inFlight_le (nothing kept.1)
      have none := kept.2 well
      omega

theorem ClosingKept.peek {closing : Closing} (kept : ClosingKept trace tracked.books closing)
    (now : Nat) : ClosingKept trace tracked.books (Floor.peekFrom tracked now closing) := by
  cases closing with
  | watching deadline =>
      simp only [Floor.peekFrom]
      split
      · exact ⟨kept, fun _ => ‹_›⟩
      · split
        · exact ⟨kept, fun absurd => by cases absurd⟩
        · exact kept
  | ended outcome => exact kept

end Watchers

/-! ### What holds on a floor -/

namespace Floor

variable {σ ρ α ε : Type}

theorem tracked_await (floor : Floor σ ρ α ε) (waiter handle : Nat) :
    (floor.await waiter handle).tracked = floor.tracked := by
  unfold await
  split <;> rfl

theorem tracked_look (floor : Floor σ ρ α ε) (waiter : Nat) :
    (floor.look waiter).tracked = floor.tracked := by
  unfold look
  split <;> rfl

theorem tracked_peek (floor : Floor σ ρ α ε) (closer now : Nat) :
    (floor.peek closer now).tracked = floor.tracked := by
  unfold peek
  split <;> rfl

end Floor

namespace Shift

variable {σ ρ α ε : Type} {workshop : Workshop σ ρ α ε} {state : σ} {shift : Shift σ ρ α ε}

theorem step_send (shift : Shift σ ρ α ε) (action : α) : shift.step workshop (.send action) =
    ⟨{ shift.floor with tracked := (shift.floor.tracked.offer workshop none action).1 },
      shift.trace ++ [(shift.floor.tracked.offer workshop none action).2]⟩ := rfl

theorem step_advance (shift : Shift σ ρ α ε) (id now : Nat) :
    shift.step workshop (.advance id now) =
      ⟨{ shift.floor with tracked := (shift.floor.tracked.advance workshop id now).1 },
        shift.trace ++ (shift.floor.tracked.advance workshop id now).2⟩ := rfl

theorem run_append (shift : Shift σ ρ α ε) (moves more : List (FloorMove α)) :
    shift.run workshop (moves ++ more) = (shift.run workshop moves).run workshop more :=
  List.foldl_append

/-- What holds whatever anybody does next. -/
structure Kept (workshop : Workshop σ ρ α ε) (state : σ) (shift : Shift σ ρ α ε) : Prop where
  told : Books.Told shift.trace shift.floor.tracked.books
  counted : Books.Counted shift.floor.tracked.books
  fresh : shift.floor.tracked.Fresh
  reached : shift.floor.tracked.store.state = stateAfter workshop state shift.trace
  closing : shift.floor.tracked.store.closing = true ↔ .closed ∈ shift.trace
  coherent : Coherent workshop state shift.trace
  waits : ∀ waiter wait, shift.floor.waits.get? waiter = some wait →
    WaitKept shift.trace shift.floor.tracked.books wait
  closings : ∀ closer closing, shift.floor.closings.get? closer = some closing →
    ClosingKept shift.trace shift.floor.tracked.books closing

theorem kept_start (workshop : Workshop σ ρ α ε) (state : σ) (surroundings : ρ) :
    Kept workshop state (start state surroundings) where
  told :=
    { distinct := List.nodup_nil
      handed := rfl
      numbered := rfl
      home := fun row member => by cases member
      standing := fun row member => by cases member
      gone := fun handle id started => by cases started
      once := List.nodup_nil
      yields := fun id member => by cases member }
  counted :=
    { known := fun row member => by cases member
      running := rfl
      pending := fun handle => rfl }
  fresh := fun id above => rfl
  reached := rfl
  closing := by simp [start, Floor.start, TrackedStore.start, EffectStore.start]
  coherent := coherent_nil
  waits := fun waiter wait present => by cases present
  closings := fun closer closing present => by cases present

/-- An action that is sent fits behind what has happened. -/
theorem Kept.fits_offer (kept : Kept workshop state shift) (source : Option Nat) (action : α) :
    FitsBehind workshop state shift.trace
      (shift.floor.tracked.offer workshop source action).2 := by
  cases closing : shift.floor.tracked.store.closing with
  | false =>
      rw [TrackedStore.offer_of_going closing]
      refine ⟨fun closed => ?_, ?_, ?_⟩
      · simp [kept.closing.mpr closed] at closing
      · rw [kept.told.handed, List.length_range]
      · rw [kept.told.numbered, List.length_range, ← kept.reached]
        rfl
  | true =>
      rw [TrackedStore.offer_of_closing closing]
      exact kept.closing.mp closing

/-- A step of the store keeps what holds. -/
theorem Kept.tracked (kept : Kept workshop state shift) {next : TrackedStore σ ρ α ε}
    {happened : List (Happening α)}
    (step : Books.Step shift.floor.tracked.books happened next.books) (fresh : next.Fresh)
    (reached : next.store.state = stateAfter workshop shift.floor.tracked.store.state happened)
    (closing : next.store.closing = shift.floor.tracked.store.closing)
    (quiet : .closed ∉ happened) (coherent : Coherent workshop state (shift.trace ++ happened)) :
    Kept workshop state ⟨{ shift.floor with tracked := next }, shift.trace ++ happened⟩ where
  told := kept.told.step step
  counted := kept.counted.step step
  fresh := fresh
  reached := by rw [reached, kept.reached, stateAfter_append]
  closing := by
    change next.store.closing = true ↔ _
    rw [closing, kept.closing, List.mem_append]
    exact ⟨.inl, fun closed => closed.resolve_right quiet⟩
  coherent := coherent
  waits := fun waiter wait present => (kept.waits waiter wait present).step step
  closings := fun closer closing present =>
    (kept.closings closer closing present).step step coherent.handlesIn_eq_nil

theorem Kept.send (kept : Kept workshop state shift) (action : α) :
    Kept workshop state (shift.step workshop (.send action)) := by
  rw [step_send]
  exact kept.tracked (TrackedStore.offer_step kept.fresh none action)
    (TrackedStore.fresh_offer kept.fresh none action) (TrackedStore.state_offer _ _ _ _)
    (TrackedStore.closing_offer _ _ _ _)
    (fun closed => TrackedStore.closed_ne_offer _ _ _ _ (List.mem_singleton.mp closed))
    (kept.coherent.snoc (kept.fits_offer none action))

theorem Kept.advance (kept : Kept workshop state shift) (id now : Nat) :
    Kept workshop state (shift.step workshop (.advance id now)) := by
  have orderly := TrackedStore.orderly_of_told kept.told
  have step := TrackedStore.advance_step workshop orderly kept.fresh id now
  have fresh := TrackedStore.fresh_advance workshop orderly kept.fresh id now
  rw [step_advance]
  rcases TrackedStore.advance_cases workshop shift.floor.tracked id now with
    ⟨sameState, sameClosing, nothing | ⟨outcome, yielded⟩⟩ | ⟨action, sameStore, happened⟩
  · refine kept.tracked step fresh ?_ sameClosing ?_ ?_
    · rw [sameState, nothing]
      rfl
    · rw [nothing]
      exact List.not_mem_nil
    · rw [nothing, List.append_nil]
      exact kept.coherent
  · have told := kept.told.step step
    rw [yielded] at told
    refine kept.tracked step fresh ?_ sameClosing ?_ ?_
    · rw [sameState, yielded]
      rfl
    · rw [yielded]
      simp
    · rw [yielded]
      refine kept.coherent.snoc ⟨?_, ?_⟩
      · have below := told.yields id (by simp [yieldedIn])
        have started : id ∈ startedIn (shift.trace ++ [.yielded id outcome]) := by
          rw [told.numbered]
          exact List.mem_range.mpr below
        simpa [startedIn] using started
      · have once := told.once
        rw [yieldedIn_append, List.nodup_append] at once
        exact fun earlier => once.2.2 id earlier id (by simp [yieldedIn]) rfl
  · refine kept.tracked step fresh ?_ ?_ ?_ ?_
    · rw [sameStore, happened, TrackedStore.state_offer]
    · rw [sameStore, TrackedStore.closing_offer]
    · rw [happened]
      exact fun closed => TrackedStore.closed_ne_offer _ _ _ _ (List.mem_singleton.mp closed)
    · rw [happened]
      exact kept.coherent.snoc (kept.fits_offer (some id) action)

/-- A step that only concerns those who wait and those who close. -/
theorem Kept.watchers (kept : Kept workshop state shift) (floor : Floor σ ρ α ε)
    (same : floor.tracked = shift.floor.tracked)
    (waits : ∀ waiter wait, floor.waits.get? waiter = some wait →
      WaitKept shift.trace shift.floor.tracked.books wait)
    (closings : ∀ closer closing, floor.closings.get? closer = some closing →
      ClosingKept shift.trace shift.floor.tracked.books closing) :
    Kept workshop state ⟨floor, shift.trace ++ []⟩ := by
  rw [List.append_nil]
  exact
    { told := same ▸ kept.told
      counted := same ▸ kept.counted
      fresh := same ▸ kept.fresh
      reached := same ▸ kept.reached
      closing := same ▸ kept.closing
      coherent := kept.coherent
      waits := same ▸ waits
      closings := same ▸ closings }

/-- What holds of the entries of a table holds when one more entry does. -/
theorem forall_get?_set {κ ν : Type} [DecidableEq κ] {table : Table κ ν} {holds : ν → Prop}
    (entries : ∀ key value, table.get? key = some value → holds value) {value : ν}
    (new : holds value) (key : κ) :
    ∀ other present, (table.set key value).get? other = some present → holds present := by
  intro other present found
  by_cases same : other = key
  · subst same
    rw [Table.get?_set_self] at found
    exact Option.some.inj found ▸ new
  · rw [Table.get?_set_of_ne same] at found
    exact entries other present found

theorem Kept.await (kept : Kept workshop state shift) (waiter handle : Nat) :
    Kept workshop state (shift.step workshop (.await waiter handle)) := by
  refine kept.watchers _ (Floor.tracked_await _ waiter handle) ?_ ?_
  · unfold Floor.await
    split
    · next possible => exact forall_get?_set kept.waits ⟨possible.1, trivial⟩ waiter
    · exact kept.waits
  · unfold Floor.await
    split <;> exact kept.closings

theorem Kept.look (kept : Kept workshop state shift) (waiter : Nat) :
    Kept workshop state (shift.step workshop (.look waiter)) := by
  refine kept.watchers _ (Floor.tracked_look _ waiter) ?_ ?_ <;> unfold Floor.look <;> split
  · exact kept.waits
  · next wait found =>
      exact forall_get?_set kept.waits
        ((kept.waits waiter wait found).look kept.told kept.counted) waiter
  · exact kept.closings
  · exact kept.closings

theorem Kept.close (kept : Kept workshop state shift) (closer deadline : Nat) :
    Kept workshop state (shift.step workshop (.close closer deadline)) := by
  have step := Books.Step.close shift.floor.tracked.books
  have closed : Happening.closed ∈ shift.trace ++ [.closed] := by simp
  have watching : ClosingKept (shift.trace ++ [.closed]) shift.floor.tracked.books
    (.watching deadline) := closed
  exact
    { told := kept.told.step step
      counted := kept.counted
      fresh := kept.fresh
      reached := by
        change shift.floor.tracked.store.state =
          stateAfter workshop state (shift.trace ++ [.closed])
        rw [stateAfter_append, ← kept.reached]
        rfl
      closing := ⟨fun _ => closed, fun _ => rfl⟩
      coherent := kept.coherent.snoc trivial
      waits := fun waiter wait present => (kept.waits waiter wait present).step step
      closings := forall_get?_set (fun other closing present =>
        (kept.closings other closing present).step step fun _ => rfl) watching closer }

theorem Kept.peek (kept : Kept workshop state shift) (closer now : Nat) :
    Kept workshop state (shift.step workshop (.peek closer now)) := by
  refine kept.watchers _ (Floor.tracked_peek _ closer now) ?_ ?_ <;> unfold Floor.peek <;> split
  · exact kept.waits
  · exact kept.waits
  · exact kept.closings
  · next closing found =>
      exact forall_get?_set kept.closings ((kept.closings closer closing found).peek now) closer

/-- Whatever anybody does next keeps what holds. -/
theorem Kept.step (kept : Kept workshop state shift) (move : FloorMove α) :
    Kept workshop state (shift.step workshop move) := by
  cases move with
  | send action => exact kept.send action
  | advance task now => exact kept.advance task now
  | await waiter handle => exact kept.await waiter handle
  | look waiter => exact kept.look waiter
  | close closer deadline => exact kept.close closer deadline
  | peek closer now => exact kept.peek closer now

theorem Kept.run (kept : Kept workshop state shift) (moves : List (FloorMove α)) :
    Kept workshop state (shift.run workshop moves) := by
  induction moves generalizing shift with
  | nil => exact kept
  | cons move rest inductionHypothesis => exact inductionHypothesis (kept.step move)

/-- Whatever anybody does next is a step of the books, and more has happened. -/
theorem Kept.books_step (kept : Kept workshop state shift) (move : FloorMove α) :
    ∃ happened, (shift.step workshop move).trace = shift.trace ++ happened ∧
      Books.Step shift.floor.tracked.books happened
        (shift.step workshop move).floor.tracked.books := by
  have aside {floor : Floor σ ρ α ε} (same : floor.tracked = shift.floor.tracked) :
      Books.Step shift.floor.tracked.books [] floor.tracked.books := same ▸ .idle _
  cases move with
  | send action => exact ⟨_, rfl, TrackedStore.offer_step kept.fresh none action⟩
  | advance task now =>
      exact ⟨_, rfl, TrackedStore.advance_step workshop
        (TrackedStore.orderly_of_told kept.told) kept.fresh task now⟩
  | await waiter handle => exact ⟨[], rfl, aside (Floor.tracked_await _ waiter handle)⟩
  | look waiter => exact ⟨[], rfl, aside (Floor.tracked_look _ waiter)⟩
  | close closer deadline => exact ⟨_, rfl, .close _⟩
  | peek closer now => exact ⟨[], rfl, aside (Floor.tracked_peek _ closer now)⟩

theorem kept_run (workshop : Workshop σ ρ α ε) (state : σ) (surroundings : ρ)
    (moves : List (FloorMove α)) :
    Kept workshop state ((start state surroundings).run workshop moves) :=
  (kept_start workshop state surroundings).run moves

end Shift

end BenefitCasework
