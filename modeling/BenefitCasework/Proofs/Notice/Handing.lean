import BenefitCasework.Notice.Courier
import BenefitCasework.Proofs.Effect.Running
import BenefitCasework.Proofs.Notice.Dispatch

/-!
Contract: the courier is given the accepted events of each request in their order.

Owns:
- `dispatchOf`, a store of notices seen as a projection with its deliveries;
- `HandsOver`, what holds of such a store, the events it received and those the
  courier was given, and that every arrival and every turn of a delivery keeps
  it;
- `HandsOver.isPrefix` and `HandsOver.of_idle`, what follows for a request.

Deliveries take any time, end well or not, and end in any order. Does not own: a
store that is closed.
-/

namespace BenefitCasework

open EffectStore (begunBy orderly_accept)

/-- A store of notices as a projection with its deliveries. Those the courier was
given come first, then those that no turn has begun. -/
def dispatchOf (store : NoticeStore) (begun : List Event) : Dispatch :=
  ⟨store.state, begun ++ unbegun store.running, contentsOf store.running⟩

/-- The events that the courier was given come from those received. -/
structure HandsOver (received : List Event) (store : NoticeStore) (begun : List Event) : Prop where
  going : store.closing = false
  orderly : store.Orderly
  kept : (dispatchOf store begun).Kept received

theorem handsOver_start (courier : Courier) : HandsOver [] (.start .empty courier) [] :=
  ⟨rfl, EffectStore.orderly_start _ _, Dispatch.kept_start⟩

/-- Between different requests, the order of what was started is free. -/
theorem Dispatch.Kept.reorder {received handed reordered outstanding : List Event}
    {projection : Projection} (kept : Dispatch.Kept received ⟨projection, handed, outstanding⟩)
    (same : ∀ request, ofRequest request reordered = ofRequest request handed) :
    Dispatch.Kept received ⟨projection, reordered, outstanding⟩ :=
  ⟨fun request => by rw [same request]; exact kept.ordered request, kept.single, kept.highest,
    kept.distinct, kept.counted, kept.skipped⟩

/-- What a delivery reports is that it has ended. -/
theorem Courier.ends_complete (courier : Courier) (event : Event) (call : Nat) :
    ∃ after action, courier.complete event call = (after, some action) ∧ action.Ends event := by
  unfold complete
  split
  · exact ⟨_, _, rfl, .inr ⟨_, rfl⟩⟩
  · exact ⟨_, _, rfl, .inl rfl⟩

theorem dispatchOf_accept (store : NoticeStore) (begun : List Event) (action : NoticeAction) :
    dispatchOf (EffectStore.accept noticeWorkshop store action).1 begun =
      (dispatchOf store begun).perform action := by
  simp only [dispatchOf, EffectStore.accept, Dispatch.perform, noticeWorkshop, unbegun_append,
    contentsOf_append, EffectStore.unbegun_tasksOf, EffectStore.contentsOf_tasksOf,
    List.append_assoc]

/-- Where no task is about a request, none of its events waits for a turn. -/
theorem ofRequest_unbegun_of_nil {request : Identifier} {tasks : List (RunningTask Event)}
    (nothing : ofRequest request (contentsOf tasks) = []) :
    ofRequest request (unbegun tasks) = [] := by
  have fewer := (unbegun_sublist tasks).filter fun event => decide (event.request = request)
  exact List.sublist_nil.mp (nothing ▸ fewer)

section Turns

variable {received begun : List Event} {store : NoticeStore} {task : RunningTask Event}
  {front back : List (RunningTask Event)}

namespace HandsOver

theorem receive (hands : HandsOver received store begun) (event : Event) :
    HandsOver (received ++ [event])
      (EffectStore.accept noticeWorkshop store (.received event)).1 begun := by
  refine ⟨hands.going, orderly_accept hands.orderly _ _, ?_⟩
  rw [dispatchOf_accept]
  exact Dispatch.kept_receive hands.kept event

/-- A delivery ends that the courier was given. -/
theorem finish (orderly : store.Orderly) (going : store.closing = false)
    (running : store.running = front ++ task :: back)
    (kept : Dispatch.Kept received
      ⟨store.state, begun ++ unbegun (front ++ back), contentsOf store.running⟩) (ticket : Nat) :
    HandsOver received (EffectStore.finish noticeWorkshop store task ticket).1 begun := by
  obtain ⟨courier, action, completed, ends⟩ :=
    Courier.ends_complete store.surroundings task.content ticket
  have outstanding : contentsOf store.running =
      contentsOf front ++ task.content :: contentsOf back := by
    rw [running, contentsOf_append, contentsOf_cons]
  rw [EffectStore.finish_of_action orderly going running completed]
  refine ⟨going, orderly_accept (orderly.without running courier) _ _, ?_⟩
  rw [dispatchOf_accept]
  have ended := Dispatch.kept_complete kept outstanding ends
  rw [← contentsOf_append] at ended
  exact ended

/-- The courier is given an event: it is the only one of its request that waits
for a turn, so it goes behind those given before. -/
theorem kept_begun (hands : HandsOver received store begun)
    (running : store.running = front ++ task :: back) (fresh : task.isFresh = true) :
    Dispatch.Kept received ⟨store.state, begun ++ [task.content] ++ unbegun (front ++ back),
      contentsOf store.running⟩ := by
  have outstanding : (dispatchOf store begun).outstanding =
      contentsOf front ++ task.content :: contentsOf back := by
    rw [dispatchOf, running, contentsOf_append, contentsOf_cons]
  have alone := (hands.kept.only outstanding).2
  rw [← contentsOf_append, List.length_eq_zero_iff] at alone
  apply hands.kept.reorder
  intro request
  rw [running, unbegun_append, unbegun_append, unbegun_cons_of_fresh fresh]
  simp only [ofRequest_append, List.append_assoc]
  by_cases same : task.content.request = request
  · subst same
    rw [contentsOf_append, ofRequest_append] at alone
    rw [ofRequest_unbegun_of_nil (List.append_eq_nil_iff.mp alone).1, ofRequest_cons_of_eq rfl,
      ofRequest_cons_of_eq rfl]
    rfl
  · rw [ofRequest_cons_of_ne same, ofRequest_cons_of_ne same, ofRequest_nil, List.nil_append]

theorem beginTask (hands : HandsOver received store begun)
    (running : store.running = front ++ task :: back) (fresh : task.isFresh = true) (now : Nat) :
    HandsOver received (EffectStore.beginTask noticeWorkshop store task now).1
      (begun ++ [task.content]) := by
  have kept := hands.kept_begun running fresh
  cases given : noticeWorkshop.begin store.surroundings task.content with
  | mk courier answer =>
      obtain ⟨delay, ticket⟩ := answer
      by_cases quick : delay = 0
      · have orderly : EffectStore.Orderly
            { store with surroundings := courier, tally := store.tally.bump .effects } :=
          ⟨hands.orderly.distinct, hands.orderly.below⟩
        simp only [EffectStore.beginTask, given, if_pos quick]
        exact finish orderly hands.going running kept ticket
      · rw [EffectStore.beginTask_of_delay hands.orderly running given quick]
        refine ⟨hands.going, hands.orderly.replaced running (by rfl) _ _, ?_⟩
        have asleep : RunningTask.isFresh
            { task with phase := .asleep (now + delay) ticket } = false := rfl
        rw [running] at kept
        simpa [dispatchOf, unbegun_cons_of_begun asleep] using kept

/-- Whatever a turn does, what it begins is given to the courier. -/
theorem turn (hands : HandsOver received store begun) (id now : Nat) :
    HandsOver received (EffectStore.turn noticeWorkshop store id now).1
      (begun ++ store.begunBy id) := by
  unfold EffectStore.turn begunBy
  cases found : store.running.find? fun task => task.id == id with
  | none => simpa using hands
  | some task =>
      obtain ⟨-, front, back, running, -⟩ := List.find?_eq_some_iff_append.mp found
      cases phase : task.phase with
      | fresh =>
          have fresh : task.isFresh = true := by simp [RunningTask.isFresh, phase]
          simp only [phase, Option.toList_some, unbegun_cons_of_fresh fresh]
          exact hands.beginTask running fresh now
      | asleep wakeAt ticket =>
          have begun : task.isFresh = false := by simp [RunningTask.isFresh, phase]
          have kept := hands.kept
          rw [dispatchOf, running, unbegun_append, unbegun_cons_of_begun begun, ← unbegun_append,
            ← running] at kept
          simp only [phase, Option.toList_some, unbegun_cons_of_begun begun, unbegun_nil,
            List.append_nil]
          split
          · exact finish hands.orderly hands.going running kept ticket
          · exact hands

/-! ### What follows for a request -/

/-- What the courier was given of a request is a beginning of what was accepted. -/
theorem isPrefix (hands : HandsOver received store begun) (request : Identifier) :
    ofRequest request begun <+: ofRequest request (acceptedEvents received) := by
  rw [← hands.kept.ordered request, dispatchOf, ofRequest_append, List.append_assoc]
  exact List.prefix_append _ _

/-- With nothing in flight, the courier was given all that was accepted. -/
theorem of_idle (hands : HandsOver received store begun) (idle : store.state.inFlight = [])
    (request : Identifier) :
    ofRequest request begun = ofRequest request (acceptedEvents received) := by
  have nothing : (dispatchOf store begun).projection.inFlight.get? request = none := by
    rw [dispatchOf, idle, Table.get?_nil]
  have single := hands.kept.single request
  rw [nothing] at single
  have outstanding : ofRequest request (contentsOf store.running) = [] :=
    List.length_eq_zero_iff.mp single
  have ordered := hands.kept.ordered request
  rw [Dispatch.waitingOf, nothing, Option.getD_none, List.append_nil, dispatchOf,
    ofRequest_append, ofRequest_unbegun_of_nil outstanding, List.append_nil] at ordered
  exact ordered

end HandsOver

end Turns

end BenefitCasework
