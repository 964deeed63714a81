import BenefitCasework.Notice.Projection
import BenefitCasework.Proofs.Request.Announcements
import BenefitCasework.Proofs.TableItems

/-!
Contract: every accepted event is handed over once, in the order of arrival.

Owns:
- `acceptedEvents`, those of some events that exceed all before them;
- `Dispatch`, a projection with the deliveries that it started, and
  `Dispatched`, the rows of actions in which every completion is one of a
  delivery that is outstanding;
- `Dispatch.Kept`, what every such row keeps, and
  `every_accepted_event_is_handed_over_once`;
- `counts_le_received`, that the counts stay within the number of events that arrived.

Events may arrive in any order, with gaps and repeats, and deliveries may end in
any order, well or not. Does not own: who sends the events.
-/

namespace BenefitCasework

/-- The number of an event is above zero and above those of all earlier events
of its request. -/
def Event.Exceeds (event : Event) (earlier : List Event) : Prop :=
  0 < event.sequence ∧ ∀ other ∈ ofRequest event.request earlier, other.sequence < event.sequence

instance (event : Event) (earlier : List Event) : Decidable (event.Exceeds earlier) :=
  inferInstanceAs (Decidable (_ ∧ _))

/-- Those of some events that exceed all events before them, of which the first
ones have already come by. -/
def acceptedBehind (earlier : List Event) : List Event → List Event
  | [] => []
  | event :: rest =>
      (if event.Exceeds earlier then [event] else []) ++ acceptedBehind (earlier ++ [event]) rest

/-- Those of some events that exceed all events before them. -/
def acceptedEvents (events : List Event) : List Event := acceptedBehind [] events

section Accepted

variable {events : List Event} {event : Event}

theorem acceptedBehind_append (earlier front back : List Event) :
    acceptedBehind earlier (front ++ back) =
      acceptedBehind earlier front ++ acceptedBehind (earlier ++ front) back := by
  induction front generalizing earlier with
  | nil => simp [acceptedBehind]
  | cons event rest inductionHypothesis =>
      simp only [List.cons_append, acceptedBehind, inductionHypothesis, List.append_assoc]
      rfl

theorem acceptedEvents_append_of_exceeds (exceeds : event.Exceeds events) :
    acceptedEvents (events ++ [event]) = acceptedEvents events ++ [event] := by
  simp [acceptedEvents, acceptedBehind_append, acceptedBehind, exceeds]

theorem acceptedEvents_append_of_not_exceeds (below : ¬ event.Exceeds events) :
    acceptedEvents (events ++ [event]) = acceptedEvents events := by
  simp [acceptedEvents, acceptedBehind_append, acceptedBehind, below]

theorem mem_of_mem_acceptedEvents (member : event ∈ acceptedEvents events) : event ∈ events := by
  induction events using List.reverseRecOn with
  | nil => cases member
  | append_singleton events last inductionHypothesis =>
      by_cases exceeds : last.Exceeds events
      · rw [acceptedEvents_append_of_exceeds exceeds] at member
        rcases List.mem_append.mp member with earlier | now
        · exact List.mem_append_left _ (inductionHypothesis earlier)
        · exact List.mem_append_right _ now
      · rw [acceptedEvents_append_of_not_exceeds exceeds] at member
        exact List.mem_append_left _ (inductionHypothesis member)

/-- Within a request, accepted events are strictly increasing. -/
theorem pairwise_acceptedEvents (request : Identifier) (events : List Event) :
    (ofRequest request (acceptedEvents events)).Pairwise fun first second =>
      first.sequence < second.sequence := by
  induction events using List.reverseRecOn with
  | nil => exact .nil
  | append_singleton events last inductionHypothesis =>
      by_cases exceeds : last.Exceeds events
      · rw [acceptedEvents_append_of_exceeds exceeds, ofRequest_append]
        by_cases same : last.request = request
        · rw [ofRequest_cons_of_eq same, ofRequest_nil]
          refine List.pairwise_append.mpr ⟨inductionHypothesis, List.pairwise_singleton _ _, ?_⟩
          intro earlier member later isLast
          rw [List.mem_singleton.mp isLast]
          obtain ⟨accepted, own⟩ := mem_ofRequest.mp member
          exact exceeds.2 earlier (mem_ofRequest.mpr
            ⟨mem_of_mem_acceptedEvents accepted, own.trans same.symm⟩)
        · rw [ofRequest_cons_of_ne same, ofRequest_nil, List.append_nil]
          exact inductionHypothesis
      · rw [acceptedEvents_append_of_not_exceeds exceeds]
        exact inductionHypothesis

end Accepted

/-! ### Actions and the deliveries that they start -/

/-- A projection, the events handed over so far, and the deliveries among them
that have not ended. -/
structure Dispatch where
  projection : Projection
  handed : List Event
  outstanding : List Event
deriving DecidableEq

namespace NoticeAction

def event? : NoticeAction → Option Event
  | .received event => some event
  | .delivered _ _ => none
  | .failed _ _ _ => none

/-- The action tells that the delivery of the event has ended. -/
def Ends (action : NoticeAction) (event : Event) : Prop :=
  action = .delivered event.request event.id ∨
    ∃ reason, action = .failed event.request event.id reason

end NoticeAction

/-- The events that some actions bring. -/
def receivedIn (actions : List NoticeAction) : List Event :=
  actions.filterMap NoticeAction.event?

namespace Dispatch

def start : Dispatch := ⟨.empty, [], []⟩

/-- An action, with the deliveries that it starts. -/
def perform (dispatch : Dispatch) (action : NoticeAction) : Dispatch :=
  let (projection, effects) := dispatch.projection.step action
  let started := effects.filterMap Effect.task?
  ⟨projection, dispatch.handed ++ started, dispatch.outstanding ++ started⟩

end Dispatch

/-- What some actions lead to when every completion among them is one of a
delivery that was started and has not ended. -/
inductive Dispatched : List NoticeAction → Dispatch → Prop where
  | start : Dispatched [] .start
  | receive {actions : List NoticeAction} {dispatch : Dispatch}
      (before : Dispatched actions dispatch) (event : Event) :
      Dispatched (actions ++ [.received event]) (dispatch.perform (.received event))
  | complete {actions : List NoticeAction} {dispatch : Dispatch} {front back : List Event}
      {event : Event} {action : NoticeAction} (before : Dispatched actions dispatch)
      (outstanding : dispatch.outstanding = front ++ event :: back) (ends : action.Ends event) :
      Dispatched (actions ++ [action])
        ({ dispatch with outstanding := front ++ back }.perform action)

/-! ### One action -/

/-- How many events wait. -/
def waitingCount : Table Identifier (List Event) → Nat
  | [] => 0
  | entry :: rest => entry.2.length + waitingCount rest

section WaitingCount

variable {inFlight : Table Identifier (List Event)} {request : Identifier}

theorem waitingCount_eq_itemCount (inFlight : Table Identifier (List Event)) :
    waitingCount inFlight = Table.itemCount inFlight := by
  induction inFlight with
  | nil => rfl
  | cons entry rest inductionHypothesis =>
      rw [waitingCount, Table.itemCount, inductionHypothesis]

theorem waitingCount_set {held : List Event}
    (stored : (inFlight.get? request).getD [] = held) (waiting : List Event) :
    waitingCount (inFlight.set request waiting) + held.length =
      waitingCount inFlight + waiting.length := by
  rw [waitingCount_eq_itemCount, waitingCount_eq_itemCount]
  exact Table.itemCount_set stored waiting

/-- Where nothing waits, nothing is lost. -/
theorem waitingCount_erase (distinct : (Table.keys inFlight).Nodup)
    (found : inFlight.get? request = some []) :
    waitingCount (inFlight.erase request) = waitingCount inFlight := by
  rw [waitingCount_eq_itemCount, waitingCount_eq_itemCount]
  exact Table.itemCount_erase distinct found

end WaitingCount

/-- This is the highest number among some events, and none if there are none. -/
def IsHighest (events : List Event) : Option UInt64 → Prop
  | none => events = []
  | some top => (∃ event ∈ events, event.sequence = top) ∧ ∀ event ∈ events, event.sequence ≤ top

namespace IsHighest

variable {events : List Event} {event : Event} {top : Option UInt64}

theorem lt_iff (highest : IsHighest events top) (number : UInt64) :
    top.getD 0 < number ↔ 0 < number ∧ ∀ other ∈ events, other.sequence < number := by
  cases top with
  | none =>
      rw [IsHighest] at highest
      simp [highest]
  | some top =>
      obtain ⟨⟨last, member, same⟩, above⟩ := highest
      refine ⟨fun greater => ⟨?_, fun other present => ?_⟩, fun exceeds => ?_⟩
      · exact UInt64.lt_of_le_of_lt UInt64.zero_le greater
      · exact UInt64.lt_of_le_of_lt (above other present) greater
      · exact same ▸ exceeds.2 last member

theorem append_of_le (highest : IsHighest events top) (below : event.sequence ≤ top.getD 0) :
    IsHighest (events ++ [event]) (some (top.getD 0)) := by
  cases top with
  | none =>
      have zero : event.sequence = 0 := UInt64.le_antisymm below UInt64.zero_le
      rw [IsHighest] at highest
      simp [IsHighest, highest, zero]
  | some top =>
      obtain ⟨⟨last, member, same⟩, above⟩ := highest
      refine ⟨⟨last, List.mem_append_left _ member, same⟩, fun other present => ?_⟩
      rcases List.mem_append.mp present with earlier | now
      · exact above other earlier
      · rw [List.mem_singleton.mp now]
        exact below

theorem append_of_lt (highest : IsHighest events top) (above : top.getD 0 < event.sequence) :
    IsHighest (events ++ [event]) (some event.sequence) := by
  have exceeds := ((highest.lt_iff event.sequence).mp above).2
  refine ⟨⟨event, List.mem_append_right _ List.mem_cons_self, rfl⟩, fun other present => ?_⟩
  rcases List.mem_append.mp present with earlier | now
  · exact UInt64.le_of_lt (exceeds other earlier)
  · rw [List.mem_singleton.mp now]
    exact UInt64.le_refl _

end IsHighest

namespace Dispatch

/-- The events of a request that wait. -/
def waitingOf (dispatch : Dispatch) (request : Identifier) : List Event :=
  (dispatch.projection.inFlight.get? request).getD []

/-- The deliveries that were started and the events that wait are those that
were accepted; a request waits behind one delivery. -/
structure Kept (received : List Event) (dispatch : Dispatch) : Prop where
  ordered : ∀ request, ofRequest request dispatch.handed ++ dispatch.waitingOf request =
    ofRequest request (acceptedEvents received)
  single : ∀ request, (ofRequest request dispatch.outstanding).length =
    if (dispatch.projection.inFlight.get? request).isSome = true then 1 else 0
  highest : ∀ request, IsHighest (ofRequest request received)
    (dispatch.projection.acceptedThrough.get? request)
  distinct : (Table.keys dispatch.projection.inFlight).Nodup
  counted : (acceptedEvents received).length =
    dispatch.projection.delivered + dispatch.projection.failures + dispatch.outstanding.length +
      waitingCount dispatch.projection.inFlight
  skipped : (acceptedEvents received).length + dispatch.projection.skipped = received.length

theorem kept_start : Kept [] start :=
  ⟨fun _ => rfl, fun _ => rfl, fun _ => rfl, List.nodup_nil, rfl, rfl⟩

section Arrival

variable {received : List Event} {dispatch : Dispatch} {event : Event}

/-- An event is accepted when its number is above the one noted. -/
theorem Kept.exceeds_iff (kept : Kept received dispatch) (event : Event) :
    event.Exceeds received ↔ dispatch.projection.acceptedFor event.request < event.sequence :=
  ((kept.highest event.request).lt_iff event.sequence).symm

/-- The number noted stays the highest one. -/
theorem Kept.highest_append (kept : Kept received dispatch) {top : UInt64}
    (own : IsHighest (ofRequest event.request received ++ [event]) (some top))
    (request : Identifier) :
    IsHighest (ofRequest request (received ++ [event]))
      ((dispatch.projection.acceptedThrough.set event.request top).get? request) := by
  by_cases same : event.request = request
  · subst same
    rw [Table.get?_set_self, ofRequest_append, ofRequest_cons_of_eq rfl, ofRequest_nil]
    exact own
  · rw [Table.get?_set_of_ne (Ne.symm same), ofRequest_append, ofRequest_cons_of_ne same,
      ofRequest_nil, List.append_nil]
    exact kept.highest request

/-- An event that is accepted is not skipped. -/
theorem Kept.skipped_of_accepted (kept : Kept received dispatch)
    (accepted : acceptedEvents (received ++ [event]) = acceptedEvents received ++ [event]) :
    (acceptedEvents (received ++ [event])).length + dispatch.projection.skipped =
      (received ++ [event]).length := by
  rw [accepted, List.length_append, List.length_append, ← kept.skipped]
  omega

theorem kept_skip (kept : Kept received dispatch)
    (below : event.sequence ≤ dispatch.projection.acceptedFor event.request) :
    Kept (received ++ [event]) (dispatch.perform (.received event)) := by
  have skipped : ¬ event.Exceeds received := by
    rw [kept.exceeds_iff, UInt64.not_lt]
    exact below
  have same : acceptedEvents (received ++ [event]) = acceptedEvents received :=
    acceptedEvents_append_of_not_exceeds skipped
  have through := (kept.highest event.request).append_of_le below
  simp only [perform, Projection.step, Projection.receive, if_pos below, List.filterMap_nil,
    List.append_nil]
  refine ⟨?_, kept.single, kept.highest_append through, kept.distinct, ?_, ?_⟩
  · rw [same]
    exact kept.ordered
  · rw [same]
    exact kept.counted
  · rw [same, List.length_append, ← kept.skipped]
    rfl

theorem kept_queue (kept : Kept received dispatch)
    (above : dispatch.projection.acceptedFor event.request < event.sequence)
    {waiting : List Event}
    (busy : dispatch.projection.inFlight.get? event.request = some waiting) :
    Kept (received ++ [event]) (dispatch.perform (.received event)) := by
  have next : acceptedEvents (received ++ [event]) = acceptedEvents received ++ [event] :=
    acceptedEvents_append_of_exceeds ((kept.exceeds_iff event).mpr above)
  have through := (kept.highest event.request).append_of_lt above
  simp only [perform, Projection.step, Projection.receive, if_neg (UInt64.not_le.mpr above), busy,
    List.filterMap_nil, List.append_nil]
  refine ⟨fun request => ?_, fun request => ?_, kept.highest_append through,
    Table.nodup_keys_set kept.distinct _ _, ?_, kept.skipped_of_accepted next⟩
  · rw [next, ofRequest_append, ← kept.ordered request, List.append_assoc]
    by_cases same : event.request = request
    · subst same
      simp [waitingOf, busy, ofRequest_cons_of_eq]
    · simp [waitingOf, Table.get?_set_of_ne (Ne.symm same), ofRequest_cons_of_ne same]
  · rw [kept.single request]
    by_cases same : event.request = request
    · subst same
      simp [busy]
    · rw [Table.get?_set_of_ne (Ne.symm same)]
  · have held : (dispatch.projection.inFlight.get? event.request).getD [] = waiting := by
      rw [busy, Option.getD_some]
    have more := waitingCount_set held (waiting ++ [event])
    rw [List.length_append, List.length_singleton] at more
    rw [next, List.length_append, List.length_singleton, kept.counted]
    simp only
    omega

theorem kept_begin (kept : Kept received dispatch)
    (above : dispatch.projection.acceptedFor event.request < event.sequence)
    (idle : dispatch.projection.inFlight.get? event.request = none) :
    Kept (received ++ [event]) (dispatch.perform (.received event)) := by
  have next : acceptedEvents (received ++ [event]) = acceptedEvents received ++ [event] :=
    acceptedEvents_append_of_exceeds ((kept.exceeds_iff event).mpr above)
  have through := (kept.highest event.request).append_of_lt above
  simp only [perform, Projection.step, Projection.receive, if_neg (UInt64.not_le.mpr above), idle,
    List.filterMap_cons, Effect.task?, List.filterMap_nil]
  refine ⟨fun request => ?_, fun request => ?_, kept.highest_append through,
    Table.nodup_keys_set kept.distinct _ _, ?_, kept.skipped_of_accepted next⟩
  · rw [next, ofRequest_append, ofRequest_append, ← kept.ordered request]
    by_cases same : event.request = request
    · subst same
      simp [waitingOf, idle]
    · simp [waitingOf, Table.get?_set_of_ne (Ne.symm same), ofRequest_cons_of_ne same]
  · rw [ofRequest_append, List.length_append, kept.single request]
    by_cases same : event.request = request
    · subst same
      simp [idle, ofRequest_cons_of_eq]
    · rw [Table.get?_set_of_ne (Ne.symm same), ofRequest_cons_of_ne same]
      rfl
  · have held : (dispatch.projection.inFlight.get? event.request).getD [] = [] := by
      rw [idle, Option.getD_none]
    have more := waitingCount_set held []
    rw [List.length_nil, Nat.add_zero, Nat.add_zero] at more
    rw [next, List.length_append, List.length_append, List.length_singleton, kept.counted]
    simp only [more]
    omega

theorem kept_receive (kept : Kept received dispatch) (event : Event) :
    Kept (received ++ [event]) (dispatch.perform (.received event)) := by
  by_cases above : dispatch.projection.acceptedFor event.request < event.sequence
  · cases found : dispatch.projection.inFlight.get? event.request with
    | none => exact kept_begin kept above found
    | some waiting => exact kept_queue kept above found
  · exact kept_skip kept (UInt64.not_lt.mp above)

end Arrival

section Completion

variable {received front back waiting : List Event} {dispatch : Dispatch} {event next : Event}

/-- A delivery that is outstanding is the only one of its request. -/
theorem Kept.only (kept : Kept received dispatch)
    (outstanding : dispatch.outstanding = front ++ event :: back) :
    (dispatch.projection.inFlight.get? event.request).isSome = true ∧
      (ofRequest event.request (front ++ back)).length = 0 := by
  have single := kept.single event.request
  rw [outstanding, ofRequest_append, ofRequest_cons_of_eq rfl, List.length_append,
    List.length_cons] at single
  rw [ofRequest_append, List.length_append]
  split at single
  · rename_i busy
    exact ⟨busy, by omega⟩
  · omega

/-- A delivery of another request stays outstanding. -/
theorem ofRequest_without {request : Identifier} (different : event.request ≠ request) :
    ofRequest request (front ++ event :: back) = ofRequest request (front ++ back) := by
  rw [ofRequest_append, ofRequest_append, ofRequest_cons_of_ne different]

/-- A delivery ends, and the next event of its request is handed over. -/
theorem kept_next (kept : Kept received dispatch)
    (outstanding : dispatch.outstanding = front ++ event :: back)
    (found : dispatch.projection.inFlight.get? event.request = some (next :: waiting))
    {delivered failures : Nat}
    (ended : delivered + failures =
      dispatch.projection.delivered + dispatch.projection.failures + 1) :
    Kept received ⟨{ dispatch.projection with
        inFlight := dispatch.projection.inFlight.set event.request waiting
        delivered := delivered
        failures := failures }, dispatch.handed ++ [next], front ++ back ++ [next]⟩ := by
  have own : next.request = event.request := by
    have member : next ∈ ofRequest event.request (acceptedEvents received) := by
      rw [← kept.ordered event.request, waitingOf, found]
      simp
    exact (mem_ofRequest.mp member).2
  refine ⟨fun request => ?_, fun request => ?_, kept.highest,
    Table.nodup_keys_set kept.distinct _ _, ?_, kept.skipped⟩
  · rw [ofRequest_append, ← kept.ordered request, List.append_assoc]
    by_cases same : event.request = request
    · subst same
      simp [waitingOf, found, ofRequest_cons_of_eq own]
    · simp [waitingOf, Table.get?_set_of_ne (Ne.symm same),
        ofRequest_cons_of_ne (own ▸ same)]
  · by_cases same : event.request = request
    · subst same
      rw [ofRequest_append, List.length_append, (kept.only outstanding).2,
        ofRequest_cons_of_eq own, Table.get?_set_self]
      rfl
    · have single := kept.single request
      rw [outstanding, ofRequest_without same] at single
      simp only [ofRequest_append (front ++ back), ofRequest_cons_of_ne (own ▸ same),
        ofRequest_nil, List.append_nil, single, Table.get?_set_of_ne (Ne.symm same)]
  · have held : (dispatch.projection.inFlight.get? event.request).getD [] = next :: waiting := by
      rw [found, Option.getD_some]
    have fewer := waitingCount_set held waiting
    have counted := kept.counted
    rw [outstanding] at counted
    simp only [List.length_append, List.length_cons, List.length_nil] at counted fewer ⊢
    omega

/-- A delivery ends, and nothing waits behind it. -/
theorem kept_idle (kept : Kept received dispatch)
    (outstanding : dispatch.outstanding = front ++ event :: back)
    (found : dispatch.projection.inFlight.get? event.request = some [])
    {delivered failures : Nat}
    (ended : delivered + failures =
      dispatch.projection.delivered + dispatch.projection.failures + 1) :
    Kept received ⟨{ dispatch.projection with
        inFlight := dispatch.projection.inFlight.erase event.request
        delivered := delivered
        failures := failures }, dispatch.handed, front ++ back⟩ := by
  refine ⟨fun request => ?_, fun request => ?_, kept.highest,
    Table.nodup_keys_erase kept.distinct _, ?_, kept.skipped⟩
  · rw [← kept.ordered request]
    by_cases same : event.request = request
    · subst same
      simp [waitingOf, found]
    · simp [waitingOf, Table.get?_erase_of_ne (Ne.symm same)]
  · by_cases same : event.request = request
    · subst same
      rw [(kept.only outstanding).2, Table.get?_erase_self]
      rfl
    · have single := kept.single request
      rw [outstanding, ofRequest_without same] at single
      rw [Table.get?_erase_of_ne (Ne.symm same), single]
  · have counted := kept.counted
    rw [outstanding, List.length_append, List.length_cons] at counted
    simp only [waitingCount_erase kept.distinct found, List.length_append]
    omega

theorem kept_complete (kept : Kept received dispatch)
    (outstanding : dispatch.outstanding = front ++ event :: back) {action : NoticeAction}
    (ends : action.Ends event) :
    Kept received ({ dispatch with outstanding := front ++ back }.perform action) := by
  obtain ⟨busy, -⟩ := kept.only outstanding
  obtain ⟨waiting, found⟩ := Option.isSome_iff_exists.mp busy
  rcases ends with rfl | ⟨reason, rfl⟩
  all_goals
    cases waiting with
    | nil =>
        simp only [perform, Projection.step, Projection.next, found, List.filterMap_nil,
          List.append_nil]
        exact kept_idle kept outstanding found (by omega)
    | cons next waiting =>
        simp only [perform, Projection.step, Projection.next, found, List.filterMap_cons,
          Effect.task?, List.filterMap_nil]
        exact kept_next kept outstanding found (by omega)

end Completion

end Dispatch

theorem receivedIn_append (front back : List NoticeAction) :
    receivedIn (front ++ back) = receivedIn front ++ receivedIn back :=
  List.filterMap_append

theorem receivedIn_of_ends {action : NoticeAction} {event : Event} (ends : action.Ends event) :
    receivedIn [action] = [] := by
  rcases ends with rfl | ⟨reason, rfl⟩ <;> rfl

theorem kept_dispatched {actions : List NoticeAction} {dispatch : Dispatch}
    (run : Dispatched actions dispatch) : dispatch.Kept (receivedIn actions) := by
  induction run with
  | start => exact Dispatch.kept_start
  | receive before event inductionHypothesis =>
      rw [receivedIn_append]
      exact Dispatch.kept_receive inductionHypothesis event
  | complete before outstanding ends inductionHypothesis =>
      rw [receivedIn_append, receivedIn_of_ends ends, List.append_nil]
      exact Dispatch.kept_complete inductionHypothesis outstanding ends

/-- Every delivery that was counted, well ended or not, and every event that was
skipped is one of the events that arrived. -/
theorem counts_le_received {actions : List NoticeAction} {dispatch : Dispatch}
    (run : Dispatched actions dispatch) :
    dispatch.projection.delivered + dispatch.projection.failures + dispatch.projection.skipped ≤
      (receivedIn actions).length := by
  obtain ⟨-, -, -, -, counted, skipped⟩ := kept_dispatched run
  omega

/-- Whatever arrives and however deliveries end: of every request, the events
handed over and then those that wait are the accepted ones in the order of their
arrival, strictly increasing; at most one delivery is outstanding, exactly while
the request is in flight, and without one nothing waits; the number noted is the
highest that arrived; and every accepted event is delivered, failed, outstanding
or waiting. -/
theorem every_accepted_event_is_handed_over_once {actions : List NoticeAction}
    {dispatch : Dispatch} (run : Dispatched actions dispatch) :
    let received := receivedIn actions
    let projection := dispatch.projection
    (∀ request,
      let accepted := ofRequest request (acceptedEvents received)
      let waiting := (projection.inFlight.get? request).getD []
      let outstanding := ofRequest request dispatch.outstanding
      ofRequest request dispatch.handed ++ waiting = accepted ∧
        (accepted.Pairwise fun first second => first.sequence < second.sequence) ∧
        (outstanding = [] → waiting = []) ∧
        outstanding.length ≤ 1 ∧
        ((projection.inFlight.get? request).isSome = true ↔ outstanding ≠ []) ∧
        IsHighest (ofRequest request received) (projection.acceptedThrough.get? request)) ∧
      (acceptedEvents received).length =
        projection.delivered + projection.failures + dispatch.outstanding.length +
          waitingCount projection.inFlight := by
  intro received projection
  have kept : dispatch.Kept received := kept_dispatched run
  refine ⟨fun request => ?_, kept.counted⟩
  intro accepted waiting outstanding
  have single : outstanding.length =
      if (projection.inFlight.get? request).isSome = true then 1 else 0 := kept.single request
  refine ⟨kept.ordered request, pairwise_acceptedEvents request received, ?_, ?_, ?_,
    kept.highest request⟩
  · intro none
    rw [none] at single
    have idle : projection.inFlight.get? request = .none := by
      cases found : projection.inFlight.get? request with
      | none => rfl
      | some waiting => simp [found] at single
    simp only [waiting, idle, Option.getD_none]
  · split at single <;> omega
  · rw [← List.length_pos_iff, single]
    split <;> simp_all

namespace Sample

/-- The second announcement of the request. -/
def followUp : Event :=
  { opening with id := .numbered 8, sequence := 2, payload := .submitted .opened }

/-- An announcement of another request. -/
def elsewhere : Event := { opening with id := .numbered 9, request := .numbered 7 }

/-- The first announcement comes again while the second one waits, and then its
delivery fails. -/
def arrivals : List NoticeAction :=
  [.received opening, .received followUp, .received opening, .received elsewhere,
    .failed (.numbered 5) (.numbered 6) "gateway down"]

/-- Four arrivals, of which the third was skipped. -/
def arrived : Dispatch :=
  ⟨⟨[(.numbered 5, 2), (.numbered 7, 1)], [(.numbered 5, [followUp]), (.numbered 7, [])],
    0, 0, 1⟩, [opening, elsewhere], [opening, elsewhere]⟩

/-- Behind the failure, the second announcement is handed over. -/
def dispatched : Dispatch :=
  ⟨⟨[(.numbered 5, 2), (.numbered 7, 1)], [(.numbered 5, []), (.numbered 7, [])], 0, 1, 1⟩,
    [opening, elsewhere, followUp], [elsewhere, followUp]⟩

theorem dispatched_arrivals : Dispatched arrivals dispatched := by
  have run := Dispatched.start.receive opening |>.receive followUp |>.receive opening
    |>.receive elsewhere
  have reached : arrived = ((((Dispatch.start.perform (.received opening)).perform
      (.received followUp)).perform (.received opening)).perform (.received elsewhere)) := by
    decide +kernel
  rw [← reached] at run
  have isOutstanding : arrived.outstanding = [] ++ opening :: [elsewhere] := rfl
  have ended := run.complete isOutstanding (Or.inr ⟨"gateway down", rfl⟩)
  have followed : dispatched = Dispatch.perform { arrived with outstanding := [elsewhere] }
      (.failed (.numbered 5) (.numbered 6) "gateway down") := by decide +kernel
  rw [followed]
  exact ended

end Sample

/-- A failed delivery is followed by the next one, and what came again was
skipped. -/
theorem second_follows_failed_first :
    Dispatched Sample.arrivals Sample.dispatched ∧
      ofRequest (.numbered 5) Sample.dispatched.handed = [Sample.opening, Sample.followUp] ∧
      ofRequest (.numbered 5) (acceptedEvents (receivedIn Sample.arrivals)) =
        [Sample.opening, Sample.followUp] ∧
      (acceptedEvents (receivedIn Sample.arrivals)).length = 0 + 1 + 2 + 0 := by
  obtain ⟨each, counted⟩ := every_accepted_event_is_handed_over_once Sample.dispatched_arrivals
  obtain ⟨ordered, -⟩ := each (.numbered 5)
  have handed : ofRequest (.numbered 5) Sample.dispatched.handed =
      [Sample.opening, Sample.followUp] := by decide +kernel
  refine ⟨Sample.dispatched_arrivals, handed, ?_, counted⟩
  rw [← ordered, handed]
  rfl

end BenefitCasework
