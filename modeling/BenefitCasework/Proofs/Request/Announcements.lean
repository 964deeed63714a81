import BenefitCasework.Proofs.Request.Run

/-!
Contract: the announcements of a request are a faithful image of it.

Owns:
- `announced`, the events of some turns, and `sinceAnnounced`, the turns behind
  the last event;
- `ofRequest`, the events of one request, and `Numbered`, events of one request
  that are numbered from one on;
- `EventPayload.statusTold`, the status that an event tells as long as it is the
  last one, and `raisedCycles`, the cycles that events raise;
- `Reported`, what holds of a request, its turns and all its events, and
  `announcements_tell_the_request`.

Numbers are machine words, so that they name their places up to the size of a
word. Does not own: how events travel.
-/

namespace BenefitCasework

/-- The events of some turns, in the order in which they were announced. -/
def announced (turns : List Turn) : List Event := turns.flatMap fun turn => turn.outcome.events

/-- The turns behind the last one that announced something, or all of them. -/
def sinceAnnounced (turns : List Turn) : List Turn :=
  turns.rtakeWhile fun turn => turn.outcome.events.isEmpty

/-- The request has been sent into analysis since its last announcement. -/
def sentToAnalysisSince (turns : List Turn) : Bool :=
  (sinceAnnounced turns).any fun turn => turn.acceptedAs .sendToAnalysis

/-- The events of one request. -/
def ofRequest (request : Identifier) (events : List Event) : List Event :=
  events.filter fun event => decide (event.request = request)

section OfRequest

variable {request : Identifier} {event : Event}

@[simp]
theorem ofRequest_nil : ofRequest request [] = [] := rfl

@[simp]
theorem ofRequest_append (front back : List Event) :
    ofRequest request (front ++ back) = ofRequest request front ++ ofRequest request back :=
  List.filter_append front back

theorem ofRequest_cons_of_eq (same : event.request = request) (rest : List Event) :
    ofRequest request (event :: rest) = event :: ofRequest request rest :=
  List.filter_cons_of_pos (by simpa using same)

theorem ofRequest_cons_of_ne (different : event.request ≠ request) (rest : List Event) :
    ofRequest request (event :: rest) = ofRequest request rest :=
  List.filter_cons_of_neg (by simpa using different)

/-- Among events of one request, all are of that request. -/
theorem ofRequest_of_forall {events : List Event} (own : ∀ event ∈ events, event.request = request) :
    ofRequest request events = events :=
  List.filter_eq_self.mpr fun event member => by simpa using own event member

theorem ofRequest_of_other {events : List Event} {other : Identifier} (different : other ≠ request)
    (foreign : ∀ event ∈ events, event.request = other) : ofRequest request events = [] :=
  List.filter_eq_nil_iff.mpr fun event member => by
    simpa [foreign event member] using different

theorem mem_ofRequest {events : List Event} :
    event ∈ ofRequest request events ↔ event ∈ events ∧ event.request = request := by
  simp [ofRequest]

end OfRequest

/-- Events of one request, numbered from one on, and the number of the last. -/
structure Numbered (id : Identifier) (events : List Event) (last : UInt64) : Prop where
  sameRequest : ∀ event ∈ events, event.request = id
  inTurn : events.map Event.sequence = (List.range' 1 events.length).map UInt64.ofNat
  counted : last = UInt64.ofNat events.length

namespace EventPayload

/-- The status that an announcement tells while no other one follows. Only the
way from the open status into analysis is not announced. -/
def statusTold (sentToAnalysis : Bool) : EventPayload → Status
  | .created _ _ _ _ _ => .draft
  | .submitted status => if status = .opened ∧ sentToAnalysis = true then .inAnalysis else status
  | .pended _ _ _ => .pending
  | .approved _ _ => .approved
  | .rejected _ => .cancelled
  | .resubmitted _ => .inAnalysis
  | .released _ _ => .released
  | .completed _ => .completed
  | .cancelled _ _ => .cancelled

def cycleRaised? : EventPayload → Option UInt32
  | .pended _ _ cycle => some cycle
  | _ => none

end EventPayload

/-- The cycles that were raised, in their order. -/
def raisedCycles (events : List Event) : List UInt32 :=
  events.filterMap fun event => event.payload.cycleRaised?

/-- Cycles that are numbered from one on, and the number of the last. -/
structure CyclesCounted (cycles : List UInt32) (last : UInt32) : Prop where
  inTurn : cycles = (List.range' 1 cycles.length).map UInt32.ofNat
  counted : last = UInt32.ofNat cycles.length

/-- Each request that was handed in again names the cycle that was raised last. -/
def CyclesClosed (events : List Event) : Prop :=
  ∀ front event back cycle, events = front ++ event :: back →
    event.payload = .resubmitted cycle → (raisedCycles front).getLast? = some cycle

/-- What a turn announces agrees with what it did. -/
structure Turn.Tells (turn : Turn) (payload : EventPayload) : Prop where
  source : ∀ reason source, payload = .cancelled reason source → source = turn.before.status
  items : ∀ justification summaries cycle, payload = .pended justification summaries cycle →
    ∃ descriptions raised, turn.attempt.operation = .pend justification descriptions ∧
      turn.outcome.request.pendencies.items = turn.before.pendencies.items ++ raised ∧
      raised.map Pendency.description = descriptions ∧
      (∀ item ∈ raised, item.cycle = cycle ∧ item.isOpen = true) ∧
      summaries = raised.map fun item => ⟨item.id, item.description⟩

/-! ### One operation -/

namespace Request

variable {request : Request} {operation : Operation} {call : Call} {office : Office}
  {fresh : Nat → Identifier} {payload : EventPayload}

theorem length_eventsOf :
    (request.eventsOf operation call office fresh).length ≤ 1 := by
  unfold eventsOf
  split <;> simp

/-- What is announced tells the operation and what it read. -/
theorem operation_of_announcement
    (told : request.announcement? operation call office fresh = some payload) :
    match payload with
    | .created _ _ _ _ _ => False
    | .submitted status => operation = .submit ∧
        status = if request.route.hasTriage then .opened else .inAnalysis
    | .pended justification summaries cycle => ∃ items, operation = .pend justification items ∧
        cycle = request.pendencies.cycle + 1 ∧
        summaries = (PendencyLog.newItems fresh cycle call.caller.user call.moment items).map
          fun item => ⟨item.id, item.description⟩
    | .approved _ _ => operation = .approve ∧ request.hasGateBehind = false
    | .rejected justification => operation = .reject justification
    | .resubmitted cycle => operation = .resubmit ∧ cycle = request.pendencies.cycle
    | .released payment _ => operation = .release payment
    | .completed note => operation = .complete note
    | .cancelled reason source => operation = .cancel reason ∧ source = request.status := by
  cases operation with
  | submit => cases told; exact ⟨rfl, rfl⟩
  | approve =>
      by_cases behind : request.hasGateBehind = true
      · simp [announcement?, behind] at told
      · simp only [announcement?, behind] at told
        cases told
        exact ⟨rfl, Bool.eq_false_iff.mpr behind⟩
  | pend justification items => cases told; exact ⟨items, rfl, rfl, rfl⟩
  | reject justification => cases told; rfl
  | resubmit => cases told; exact ⟨rfl, rfl⟩
  | release payment =>
      obtain ⟨channel, -, same⟩ := Option.map_eq_some_iff.mp told
      cases same
      rfl
  | complete note => cases told; rfl
  | cancel reason => cases told; exact ⟨rfl, rfl⟩
  | sendToAnalysis => cases told
  | attachDocument documentType => cases told
  | recordOpinion text => cases told
  | resolvePendency pendency note => cases told

/-- What an operation announces is the status to which it leads. -/
theorem status_of_announcement
    (told : request.announcement? operation call office fresh = some payload) :
    (request.carriedOut operation call office fresh).status = payload.statusTold false := by
  have inverted := operation_of_announcement told
  rw [status_carriedOut]
  cases payload with
  | created benefitType beneficiary requester origin routeRevision => exact inverted.elim
  | submitted status =>
      obtain ⟨rfl, rfl⟩ := inverted
      by_cases triage : request.route.hasTriage = true <;>
        simp [path, triage, EventPayload.statusTold]
  | pended justification summaries cycle =>
      obtain ⟨items, rfl, -⟩ := inverted
      rfl
  | approved user gates =>
      obtain ⟨rfl, last⟩ := inverted
      simp [path, last, EventPayload.statusTold]
  | rejected justification => cases inverted; rfl
  | resubmitted cycle => obtain ⟨rfl, -⟩ := inverted; rfl
  | released payment channel => cases inverted; rfl
  | completed note => cases inverted; rfl
  | cancelled reason source => obtain ⟨rfl, -⟩ := inverted; rfl

/-- What is not announced leaves the status alone, but for the way from the open
status into analysis. -/
theorem status_of_silence (admitted : request.Admits operation call office)
    (silent : request.announcement? operation call office fresh = none) :
    if operation.name = .sendToAnalysis then
      request.status = .opened ∧
        (request.carriedOut operation call office fresh).status = .inAnalysis
    else (request.carriedOut operation call office fresh).status = request.status := by
  rw [status_carriedOut]
  cases operation with
  | sendToAnalysis =>
      have allowed := (Permission.decide_eq_ok_iff.mp admitted.1).1
      exact ⟨by simpa [Operation.allowedFrom] using allowed, rfl⟩
  | approve =>
      by_cases behind : request.hasGateBehind = true
      · simp [path, behind, Operation.name]
      · simp [announcement?, behind] at silent
  | release payment =>
      have checked := admitted.2
      rw [announcement?, Option.map_eq_none_iff] at silent
      simp [checkOffice, silent] at checked
  | attachDocument documentType => rfl
  | recordOpinion text => rfl
  | resolvePendency pendency note => rfl
  | submit => cases silent
  | pend justification items => cases silent
  | reject justification => cases silent
  | resubmit => cases silent
  | complete note => cases silent
  | cancel reason => cases silent

/-- Only pendencies raise a cycle, the one behind the current one. -/
theorem cycle_carriedOut (request : Request) (operation : Operation) (call : Call)
    (office : Office) (fresh : Nat → Identifier) :
    match (request.announcement? operation call office fresh).bind EventPayload.cycleRaised? with
    | some cycle => cycle = request.pendencies.cycle + 1 ∧
        (request.carriedOut operation call office fresh).pendencies.cycle = cycle
    | none => (request.carriedOut operation call office fresh).pendencies.cycle =
        request.pendencies.cycle := by
  rw [pendencies_carriedOut]
  cases operation with
  | pend justification items => exact ⟨rfl, rfl⟩
  | resolvePendency pendency note =>
      simp only [announcement?, Option.bind_none, prepared, PendencyLog.resolve]
      split
      · rename_i resolved
        split at resolved <;> cases resolved
        rfl
      · rfl
  | approve =>
      by_cases behind : request.hasGateBehind = true <;>
        simp [announcement?, behind, EventPayload.cycleRaised?, prepared]
  | release payment =>
      cases found : office.channels.get? request.beneficiary.citizen <;>
        simp [announcement?, found, EventPayload.cycleRaised?, prepared]
  | submit => rfl
  | sendToAnalysis => rfl
  | attachDocument documentType => rfl
  | recordOpinion text => rfl
  | reject justification => rfl
  | resubmit => rfl
  | complete note => rfl
  | cancel reason => rfl

/-- Only a pending request is handed in again. -/
theorem pending_of_resubmitted {cycle : UInt32} (admitted : request.Admits operation call office)
    (told : request.announcement? operation call office fresh = some (.resubmitted cycle)) :
    request.status = .pending := by
  obtain ⟨rfl, -⟩ := operation_of_announcement told
  simpa [Operation.allowedFrom] using (Permission.decide_eq_ok_iff.mp admitted.1).1

end Request

theorem map_description_newItems (fresh : Nat → Identifier) (cycle : UInt32) (user : Identifier)
    (moment : Instant) (descriptions : List String) :
    (PendencyLog.newItems fresh cycle user moment descriptions).map Pendency.description =
      descriptions := by
  apply List.ext_getElem
  · simp [PendencyLog.newItems]
  · intro place _ _
    simp [PendencyLog.newItems]

theorem isOpen_of_mem_newItems {fresh : Nat → Identifier} {cycle : UInt32} {user : Identifier}
    {moment : Instant} {descriptions : List String} {item : Pendency}
    (member : item ∈ PendencyLog.newItems fresh cycle user moment descriptions) :
    item.cycle = cycle ∧ item.isOpen = true := by
  obtain ⟨place, below, rfl⟩ := List.mem_mapIdx.mp member
  exact ⟨rfl, rfl⟩

/-! ### One turn -/

theorem announced_append_singleton (turns : List Turn) (last : Turn) :
    announced (turns ++ [last]) = announced turns ++ last.outcome.events := by
  simp [announced]

namespace Turn

variable {turn : Turn}

/-- What a turn announces: nothing when it is refused, and otherwise what its
operation announces. -/
theorem events_outcome_of_admits
    (admitted : turn.before.AdmitsAttempt turn.attempt) :
    turn.outcome.events = turn.before.eventsOf turn.attempt.operation turn.attempt.call
      turn.attempt.office turn.attempt.fresh := by
  rw [outcome, Request.outcomeOf_of_admits admitted]
  rfl

theorem events_outcome_of_not_admits
    (refused : ¬ turn.before.AdmitsAttempt turn.attempt) : turn.outcome.events = [] := by
  obtain ⟨reason, equal⟩ := Request.apply_of_not_admits turn.attempt.call turn.attempt.office
    turn.attempt.fresh refused
  rw [outcome, Request.outcomeOf, equal]
  rfl

theorem length_events_outcome (turn : Turn) : turn.outcome.events.length ≤ 1 := by
  by_cases admitted : turn.before.AdmitsAttempt turn.attempt
  · rw [events_outcome_of_admits admitted]
    exact Request.length_eventsOf
  · simp [events_outcome_of_not_admits admitted]

theorem tells_of_mem {event : Event} (member : event ∈ turn.outcome.events) :
    turn.Tells event.payload := by
  by_cases admitted : turn.before.AdmitsAttempt turn.attempt
  · have reached : turn.outcome.request = turn.before.carriedOutBy turn.attempt := by
      rw [outcome, Request.outcomeOf_of_admits admitted]
    rw [events_outcome_of_admits admitted, Request.eventsOf] at member
    obtain ⟨before, operation, call, office, fresh⟩ := turn
    split at member
    · cases member
    · rename_i payload told
      rw [List.mem_singleton.mp member]
      constructor
      · rintro reason source rfl
        exact (Request.operation_of_announcement told).2
      · rintro justification summaries cycle rfl
        obtain ⟨descriptions, rfl, rfl, rfl⟩ := Request.operation_of_announcement told
        refine ⟨descriptions, _, rfl, ?_, map_description_newItems fresh _ _ _ descriptions,
          fun item raised => isOpen_of_mem_newItems raised, rfl⟩
        rw [reached, Request.carriedOutBy, Request.pendencies_carriedOut]
        rfl
  · rw [events_outcome_of_not_admits admitted] at member
    cases member

end Turn

/-! ### All turns -/

section Steps

variable {id : Identifier} {events : List Event} {request : Request}

/-- An operation numbers its event behind all others. -/
theorem Numbered.append_eventsOf (numbered : Numbered id events request.eventSequence)
    (sameId : request.id = id) (operation : Operation) (call : Call) (office : Office)
    (fresh : Nat → Identifier) :
    Numbered id (events ++ request.eventsOf operation call office fresh)
      (request.carriedOut operation call office fresh).eventSequence := by
  rw [Request.eventSequence_carriedOut, Request.eventsOf]
  cases request.announcement? operation call office fresh with
  | none =>
      rw [List.append_nil]
      exact numbered
  | some payload =>
      have next : request.eventSequence + 1 = UInt64.ofNat (events.length + 1) := by
        rw [numbered.counted, UInt64.ofNat_add]
        rfl
      refine ⟨?_, ?_, ?_⟩
      · intro event member
        rcases List.mem_append.mp member with earlier | now
        · exact numbered.sameRequest event earlier
        · rw [List.mem_singleton.mp now]
          exact sameId
      · rw [List.map_append, numbered.inTurn, List.length_append, List.length_singleton,
          List.range'_1_concat, List.map_append, Nat.add_comm 1 events.length]
        simp only [List.map_singleton, next]
      · rw [List.length_append, List.length_singleton]
        exact next

/-- As long as they fit into words, the numbers are 1, 2 and so on. -/
theorem Numbered.map_toNat {last : UInt64} (numbered : Numbered id events last)
    (few : events.length < UInt64.size) :
    events.map (fun event => event.sequence.toNat) = List.range' 1 events.length := by
  have read : (List.range' 1 events.length).map (fun number => (UInt64.ofNat number).toNat) =
      (List.range' 1 events.length).map fun number => number := by
    apply List.map_congr_left
    intro number member
    have bound := (List.mem_range'_1.mp member).2
    exact UInt64.toNat_ofNat_of_lt (by omega)
  have same := congrArg (List.map UInt64.toNat) numbered.inTurn
  rw [List.map_map, List.map_map] at same
  exact same.trans (read.trans (List.map_id' _))

theorem CyclesClosed.append_singleton (closed : CyclesClosed events) {last : Event}
    (fits : ∀ cycle, last.payload = .resubmitted cycle →
      (raisedCycles events).getLast? = some cycle) : CyclesClosed (events ++ [last]) := by
  intro front event back cycle split resubmitted
  cases back using List.reverseRecOn with
  | nil =>
      obtain ⟨sameFront, sameEvent⟩ := List.append_inj' split rfl
      cases sameEvent
      rw [← sameFront]
      exact fits cycle resubmitted
  | append_singleton back final =>
      rw [← List.cons_append, ← List.append_assoc] at split
      exact closed front event back cycle (List.append_inj' split rfl).1 resubmitted

theorem raisedCycles_append_singleton (events : List Event) (last : Event) :
    raisedCycles (events ++ [last]) = raisedCycles events ++ last.payload.cycleRaised?.toList := by
  rw [raisedCycles, List.filterMap_append]
  rfl

theorem CyclesCounted.append_next {cycles : List UInt32} {last next : UInt32}
    (counted : CyclesCounted cycles last) (follows : next = last + 1) :
    CyclesCounted (cycles ++ [next]) next := by
  have number : next = UInt32.ofNat (cycles.length + 1) := by
    rw [follows, counted.counted, UInt32.ofNat_add]
    rfl
  refine ⟨?_, ?_⟩
  · rw [List.length_append, List.length_singleton, List.range'_1_concat, List.map_append,
      ← counted.inTurn, Nat.add_comm 1 cycles.length, number]
    rfl
  · rw [List.length_append, List.length_singleton]
    exact number

/-- As long as they fit into words, the cycles are 1, 2 and so on. -/
theorem CyclesCounted.map_toNat {cycles : List UInt32} {last : UInt32}
    (counted : CyclesCounted cycles last) (few : cycles.length < UInt32.size) :
    cycles.map UInt32.toNat = List.range' 1 cycles.length := by
  have read : (List.range' 1 cycles.length).map (fun number => (UInt32.ofNat number).toNat) =
      (List.range' 1 cycles.length).map fun number => number := by
    apply List.map_congr_left
    intro number member
    have bound := (List.mem_range'_1.mp member).2
    exact UInt32.toNat_ofNat_of_lt (by omega)
  have same := congrArg (List.map UInt32.toNat) counted.inTurn
  rw [List.map_map] at same
  exact same.trans (read.trans (List.map_id' _))

theorem CyclesCounted.getLast?_eq {cycles : List UInt32} {last : UInt32}
    (counted : CyclesCounted cycles last) (some : cycles ≠ []) : cycles.getLast? = .some last := by
  obtain ⟨before, longer⟩ := Nat.exists_eq_add_one.mpr (List.length_pos_iff.mpr some)
  rw [counted.inTurn, counted.counted, longer, List.range'_1_concat, List.map_append,
    List.map_singleton, List.getLast?_concat, Nat.add_comm]

theorem sentToAnalysisSince_append_of_announced {turns : List Turn} {last : Turn}
    (announced : last.outcome.events ≠ []) : sentToAnalysisSince (turns ++ [last]) = false := by
  simp [sentToAnalysisSince, sinceAnnounced, announced]

theorem sentToAnalysisSince_append_of_silent {turns : List Turn} {last : Turn}
    (silent : last.outcome.events = []) :
    sentToAnalysisSince (turns ++ [last]) =
      (sentToAnalysisSince turns || last.acceptedAs .sendToAnalysis) := by
  simp [sentToAnalysisSince, sinceAnnounced, silent]

/-- Only a submission leaves a request open, and nothing but the way into
analysis is left then. -/
theorem EventPayload.statusTold_of_opened {payload : EventPayload} {sent : Bool}
    (opened : payload.statusTold sent = .opened) : payload.statusTold true = .inAnalysis := by
  cases payload with
  | submitted status =>
      by_cases isOpened : status = .opened
      · simp [statusTold, isOpened]
      · simp [statusTold, isOpened] at opened
  | _ => cases opened

end Steps

/-- The events of a request tell its status, its number and its cycle. -/
structure Reported (id : Identifier) (request : Request) (turns : List Turn)
    (events : List Event) : Prop where
  sameId : request.id = id
  numbered : Numbered id events request.eventSequence
  status : ∃ last, events.getLast? = some last ∧
    request.status = last.payload.statusTold (sentToAnalysisSince turns)
  cycles : CyclesCounted (raisedCycles events) request.pendencies.cycle
  pending : request.status = .pending → raisedCycles events ≠ []
  closed : CyclesClosed events

namespace Reported

variable {id : Identifier} {reached : Request} {turns : List Turn} {events : List Event}
  {attempt : Attempt}

/-- A turn that announces nothing. -/
theorem append_silent (reported : Reported id reached turns events) {next : Request} {turn : Turn}
    (silent : turn.outcome.events = []) (sameId : next.id = reached.id)
    (sequence : next.eventSequence = reached.eventSequence)
    (cycle : next.pendencies.cycle = reached.pendencies.cycle)
    (status : if turn.acceptedAs .sendToAnalysis = true then
        reached.status = .opened ∧ next.status = .inAnalysis
      else next.status = reached.status) :
    Reported id next (turns ++ [turn]) events := by
  obtain ⟨last, isLast, told⟩ := reported.status
  refine ⟨sameId.trans reported.sameId, by rw [sequence]; exact reported.numbered,
    ⟨last, isLast, ?_⟩, by rw [cycle]; exact reported.cycles, ?_, reported.closed⟩
  · rw [sentToAnalysisSince_append_of_silent silent]
    by_cases sent : turn.acceptedAs .sendToAnalysis = true
    · rw [if_pos sent] at status
      rw [status.1] at told
      rw [status.2, sent, Bool.or_true]
      exact (EventPayload.statusTold_of_opened told.symm).symm
    · rw [if_neg sent] at status
      rw [status, told, Bool.eq_false_iff.mpr sent, Bool.or_false]
  · intro pending
    by_cases sent : turn.acceptedAs .sendToAnalysis = true
    · rw [if_pos sent, pending] at status
      cases status.2
    · rw [if_neg sent] at status
      exact reported.pending (status ▸ pending)

/-- An accepted turn that announces something. -/
theorem append_announced (reported : Reported id reached turns events)
    (admitted : reached.AdmitsAttempt attempt) {payload : EventPayload}
    (told : reached.announcement? attempt.operation attempt.call attempt.office attempt.fresh =
      some payload) :
    Reported id (reached.carriedOutBy attempt) (turns ++ [⟨reached, attempt⟩])
      (events ++ reached.eventsOf attempt.operation attempt.call attempt.office attempt.fresh) := by
  have numbered := reported.numbered.append_eventsOf reported.sameId attempt.operation
    attempt.call attempt.office attempt.fresh
  have status : (reached.carriedOutBy attempt).status = payload.statusTold false :=
    Request.status_of_announcement told
  have cycle := Request.cycle_carriedOut reached attempt.operation attempt.call attempt.office
    attempt.fresh
  have speaks : (Turn.outcome ⟨reached, attempt⟩).events ≠ [] := by
    rw [Turn.events_outcome_of_admits admitted]
    simp [Request.eventsOf, told]
  have events_eq : reached.eventsOf attempt.operation attempt.call attempt.office attempt.fresh =
      [⟨attempt.fresh attempt.operation.itemsRaised, reached.id, reached.eventSequence + 1,
        attempt.call.caller.correlation, attempt.call.moment, payload⟩] := by
    simp only [Request.eventsOf, told]
  rw [told, Option.bind_some] at cycle
  rw [events_eq] at numbered ⊢
  refine ⟨(Request.id_carriedOut ..).trans reported.sameId, numbered,
    ⟨_, List.getLast?_concat, ?_⟩, ?_, ?_, ?_⟩
  · rw [sentToAnalysisSince_append_of_announced speaks]
    exact status
  · rw [raisedCycles_append_singleton]
    cases raised : payload.cycleRaised? with
    | none =>
        simp only [raised] at cycle
        rw [Request.carriedOutBy, cycle, Option.toList_none, List.append_nil]
        exact reported.cycles
    | some next =>
        simp only [raised] at cycle
        rw [Request.carriedOutBy, cycle.2]
        exact reported.cycles.append_next cycle.1
  · intro pending
    rw [status] at pending
    rw [raisedCycles_append_singleton]
    have inverted := Request.operation_of_announcement told
    cases payload with
    | pended justification summaries cycle => simp [EventPayload.cycleRaised?]
    | submitted handedIn =>
        rw [inverted.2] at pending
        by_cases triage : reached.route.hasTriage = true <;>
          simp [triage, EventPayload.statusTold] at pending
    | _ => cases pending
  · apply reported.closed.append_singleton
    rintro cycle rfl
    rw [(Request.operation_of_announcement told).2]
    exact reported.cycles.getLast?_eq
      (reported.pending (Request.pending_of_resubmitted admitted told))

theorem append_accepted (reported : Reported id reached turns events)
    (admitted : reached.AdmitsAttempt attempt) :
    Reported id (reached.carriedOutBy attempt) (turns ++ [⟨reached, attempt⟩])
      (events ++ (Turn.outcome ⟨reached, attempt⟩).events) := by
  rw [Turn.events_outcome_of_admits admitted]
  cases told : reached.announcement? attempt.operation attempt.call attempt.office
      attempt.fresh with
  | some payload => exact reported.append_announced admitted told
  | none =>
      have silent : reached.eventsOf attempt.operation attempt.call attempt.office
          attempt.fresh = [] := by simp only [Request.eventsOf, told]
      have cycle := Request.cycle_carriedOut reached attempt.operation attempt.call
        attempt.office attempt.fresh
      have sequence := Request.eventSequence_carriedOut reached attempt.operation attempt.call
        attempt.office attempt.fresh
      rw [told] at cycle sequence
      rw [silent, List.append_nil]
      apply reported.append_silent
      · rw [Turn.events_outcome_of_admits admitted, silent]
      · exact Request.id_carriedOut ..
      · exact sequence
      · exact cycle
      · have status := Request.status_of_silence admitted told
        by_cases sent : attempt.operation.name = .sendToAnalysis
        · rw [if_pos sent] at status
          rwa [if_pos (acceptedAs_iff.mpr ⟨admitted, sent⟩)]
        · rw [if_neg sent] at status
          rwa [if_neg fun accepted => sent (acceptedAs_iff.mp accepted).2]

theorem append_refused (reported : Reported id reached turns events)
    (refused : ¬ reached.AdmitsAttempt attempt) :
    Reported id reached (turns ++ [⟨reached, attempt⟩])
      (events ++ (Turn.outcome ⟨reached, attempt⟩).events) := by
  have silent : (Turn.outcome ⟨reached, attempt⟩).events = [] :=
    Turn.events_outcome_of_not_admits refused
  rw [silent, List.append_nil]
  apply reported.append_silent silent rfl rfl rfl
  rw [if_neg fun accepted => refused (acceptedAs_iff.mp accepted).1]

end Reported

/-- What `begin` opens is a draft that has announced its opening. -/
theorem reported_begin {routes : RouteTable} {id eventId : Identifier} {new : NewRequest}
    {call : Call} {request : Request} {opening : List Event}
    (opened : Request.begin id new routes call eventId = .ok (request, opening)) :
    Reported id request [] opening := by
  obtain ⟨route, -, rfl, rfl⟩ := Request.exists_of_begin opened
  refine ⟨rfl, ⟨?_, rfl, rfl⟩, ⟨_, rfl, rfl⟩, ⟨rfl, rfl⟩, ?_, ?_⟩
  · intro event member
    rw [List.mem_singleton.mp member]
  · intro pending
    cases pending
  · have nothing : CyclesClosed [] := fun front event back cycle split =>
      absurd split (by simp)
    exact nothing.append_singleton fun cycle same => by cases same

theorem reported_run {routes : RouteTable} {id eventId : Identifier} {new : NewRequest}
    {call : Call} {request : Request} {opening : List Event}
    (opened : Request.begin id new routes call eventId = .ok (request, opening))
    (attempts : List Attempt) :
    Reported id (request.after attempts) (request.turns attempts)
      (opening ++ announced (request.turns attempts)) := by
  refine @Request.run_induction
    (fun reached turns => Reported id reached turns (opening ++ announced turns))
    _ ?_ ?_ ?_ attempts
  · simpa [announced] using reported_begin opened
  · intro reached turns attempt reported admitted
    rw [announced_append_singleton, ← List.append_assoc]
    exact reported.append_accepted admitted
  · intro reached turns attempt reported refused
    rw [announced_append_singleton, ← List.append_assoc]
    exact reported.append_refused refused

/-- However a request is worked on, its events are numbered from one on and all
carry its identifier; an attempt announces at most one, a refused one none; the
last one tells the status; and what they say of statuses, items and cycles is
what happened. -/
theorem announcements_tell_the_request {routes : RouteTable} {id eventId : Identifier}
    {new : NewRequest} {call : Call} {request : Request} {opening : List Event}
    (opened : Request.begin id new routes call eventId = .ok (request, opening))
    (attempts : List Attempt)
    (fewEvents : (opening ++ announced (request.turns attempts)).length < UInt64.size)
    (fewCycles : (raisedCycles (opening ++ announced (request.turns attempts))).length <
      UInt32.size) :
    let reached := request.after attempts
    let turns := request.turns attempts
    let events := opening ++ announced turns
    events.map (fun event => event.sequence.toNat) = List.range' 1 events.length ∧
      reached.eventSequence.toNat = events.length ∧
      (∀ event ∈ events, event.request = id) ∧
      (∀ turn ∈ turns, turn.outcome.events.length ≤ 1 ∧
        (turn.outcome.accepted = false → turn.outcome.events = []) ∧
        ∀ event ∈ turn.outcome.events, turn.Tells event.payload) ∧
      (∃ last, events.getLast? = some last ∧
        reached.status = last.payload.statusTold (sentToAnalysisSince turns)) ∧
      (raisedCycles events).map UInt32.toNat = List.range' 1 (raisedCycles events).length ∧
      CyclesClosed events := by
  intro reached turns events
  have reported : Reported id reached turns events := reported_run opened attempts
  refine ⟨reported.numbered.map_toNat fewEvents, ?_, reported.numbered.sameRequest, ?_,
    reported.status, reported.cycles.map_toNat fewCycles, reported.closed⟩
  · rw [reported.numbered.counted]
    exact UInt64.toNat_ofNat_of_lt fewEvents
  · intro turn _
    refine ⟨turn.length_events_outcome, fun refused => ?_,
      fun event member => Turn.tells_of_mem member⟩
    apply Turn.events_outcome_of_not_admits
    intro admitted
    rw [Turn.outcome, Request.accepted_outcomeOf_iff.mpr admitted] at refused
    cases refused

/-- A review that was started over is told in four events, and the one about the
new cycle names it. -/
theorem second_round_is_told :
    Request.begin (.numbered 5) Sample.newRequest (.configured Sample.changes) Sample.call
        (.numbered 6) = .ok (Sample.opened, [Sample.opening]) ∧
      let events := [Sample.opening] ++ announced (Sample.opened.turns Sample.secondRound)
      events.length < UInt64.size ∧ (raisedCycles events).length < UInt32.size ∧
        events.map (fun event => event.sequence.toNat) = [1, 2, 3, 4] ∧
        (raisedCycles events).map UInt32.toNat = [1] ∧
        events.getLast?.map Event.payload = some (.resubmitted 1) ∧
        (Sample.opened.after Sample.secondRound).status = .inAnalysis := by
  have opened : Request.begin (.numbered 5) Sample.newRequest (.configured Sample.changes)
      Sample.call (.numbered 6) = .ok (Sample.opened, [Sample.opening]) := rfl
  have four : ([Sample.opening] ++ announced (Sample.opened.turns Sample.secondRound)).length =
      4 := by decide +kernel
  have one : (raisedCycles ([Sample.opening] ++
      announced (Sample.opened.turns Sample.secondRound))).length = 1 := by decide +kernel
  have isLast : ([Sample.opening] ++
      announced (Sample.opened.turns Sample.secondRound)).getLast?.map Event.payload =
        some (.resubmitted 1) := by decide +kernel
  have fewEvents : 4 < UInt64.size := by decide
  have fewCycles : 1 < UInt32.size := by decide
  obtain ⟨numbers, -, -, -, ⟨last, found, told⟩, cycles, -⟩ :=
    announcements_tell_the_request opened Sample.secondRound (four ▸ fewEvents) (one ▸ fewCycles)
  rw [found, Option.map_some, Option.some.injEq] at isLast
  rw [four] at numbers
  rw [one] at cycles
  rw [isLast] at told
  exact ⟨opened, four ▸ fewEvents, one ▸ fewCycles, numbers, cycles,
    by rw [found, Option.map_some, isLast], told⟩

end BenefitCasework
