import BenefitCasework.Proofs.Service.Journey

/-!
Contract: people are told of the events of a request in their order, each once.

Owns:
- what the facts that a journey keeps come to for one request;
- `Journey.Quiet` and `Journey.Arrived`, nothing waits and nothing is under way;
- `notices_follow_the_events`.

Does not own: when people are told.
-/

namespace BenefitCasework

namespace Journey

variable {journey : Journey} {trace : Trace}

/-- What the relay has published of a request is a beginning of what was
announced, and what is left waits in the relay. -/
theorem Kept.announced_eq_append (kept : journey.Kept trace)
    (fits : ∀ event ∈ journey.announced, event.payload.Fits) (request : Identifier) :
    ∃ waiting, ofRequest request journey.announced =
        ofRequest request trace.published ++ waiting ∧
      waiting.map Event.envelope =
        journey.world.relay.holdings.ofStream (requestStream request) := by
  have ordered := kept.ledger.ordered (requestStream request)
  simp only [onStream_envelopes] at ordered
  obtain ⟨front, waiting, announced, same, left⟩ := List.map_eq_append_iff.mp ordered.symm
  have ofAnnounced (event : Event) (member : event ∈ ofRequest request journey.announced) :
      event.payload.Fits := fits event (mem_ofRequest.mp member).1
  have published : front = ofRequest request trace.published := by
    refine Event.eq_of_map_envelope (fun event member => ofAnnounced event ?_)
      (fun event member => fits event (kept.genuine event (mem_ofRequest.mp member).1)) same
    rw [ofRequest, announced]
    exact List.mem_append_left _ member
  exact ⟨waiting, published ▸ announced, left⟩

/-- All that was published of a request is accepted, as far as words go. -/
theorem Kept.acceptedEvents_eq_take (kept : journey.Kept trace)
    (fits : ∀ event ∈ journey.announced, event.payload.Fits) (request : Identifier) :
    ofRequest request (acceptedEvents trace.sent) =
      (ofRequest request trace.published).take (UInt64.size - 1) := by
  obtain ⟨waiting, announced, -⟩ := kept.announced_eq_append fits request
  obtain ⟨last, numbered⟩ := kept.counts.numbered request
  rw [announced] at numbered
  rw [kept.retold.accepted, ofRequest_acceptedEvents, numbered.left.acceptedEvents_eq_take]

/-- What was received is a beginning of what is to be accepted. -/
theorem Kept.acceptedEvents_isPrefix (kept : journey.Kept trace) :
    acceptedEvents trace.received <+: acceptedEvents trace.sent := by
  have front := BenefitCasework.acceptedEvents_isPrefix (trace.sent.take trace.seen)
    (trace.sent.drop trace.seen)
  rwa [List.take_append_drop, ← kept.heard.accepted] at front

end Journey

/-- The notices about one request. -/
def noticesOf (request : Identifier) (notices : List Notice) : List Notice :=
  notices.filter fun notice => decide (notice.request = request)

theorem noticesOf_map (request : Identifier) (events : List Event) :
    noticesOf request (events.map Event.notice) = (ofRequest request events).map Event.notice := by
  rw [noticesOf, List.filter_map]
  rfl

namespace Journey

/-- Nothing waits in the outbox, among the parked letters, behind them, or in the table
of requests in flight. -/
structure Quiet (journey : Journey) : Prop where
  outbox : journey.world.relay.outbox = []
  letters : journey.world.relay.letters.letters = []
  held : journey.world.relay.heldCount = 0
  inFlight : journey.world.notices.state.inFlight = []

/-- The relay has no pass under way, and the projector has received all that the bus
carries. -/
structure Arrived (journey : Journey) : Prop where
  resting : journey.world.relay.pass = none
  received : ∀ envelope ∈ journey.world.bus.sent journey.world.relay.topic,
    envelope ∈ journey.received

variable {journey : Journey} {trace : Trace}

/-- With nothing left in the relay, all that was announced was published. -/
theorem Kept.published_of_quiet (kept : journey.Kept trace)
    (fits : ∀ event ∈ journey.announced, event.payload.Fits) (quiet : journey.Quiet)
    (resting : journey.world.relay.pass = none) (request : Identifier) :
    ofRequest request trace.published = ofRequest request journey.announced := by
  have holdings : journey.world.relay.holdings = ⟨[], journey.world.relay.held, []⟩ := by
    simp only [Relay.holdings, resting, quiet.letters, Relay.untried, quiet.outbox, payloads,
      List.map_nil]
  have sound := kept.ledger.sound
  simp only [holdings] at sound
  have free : journey.world.relay.held.get? (requestStream request) = none := by
    have blocked := sound.blocked (requestStream request)
    simpa [Option.isSome_iff_ne_none] using blocked
  obtain ⟨waiting, announced, left⟩ := kept.announced_eq_append fits request
  have nothing : waiting = [] := by
    apply List.map_eq_nil_iff.mp
    rw [left, holdings]
    simp [Holdings.ofStream, free]
  rw [announced, nothing, List.append_nil]

/-- When the projector has received all that was sent, it has accepted it. -/
theorem Kept.accepted_of_received (kept : journey.Kept trace)
    (fits : ∀ event ∈ journey.announced, event.payload.Fits)
    (all : ∀ envelope ∈ journey.world.bus.sent journey.world.relay.topic,
      envelope ∈ journey.received) :
    acceptedEvents trace.received = acceptedEvents trace.sent := by
  have seen : ∀ event ∈ trace.sent, event ∈ trace.sent.take trace.seen := by
    intro event member
    have known := all event.envelope (kept.sent ▸ List.mem_map_of_mem member)
    obtain ⟨other, present, same⟩ := kept.exists_received known
    have read := kept.readable fits (kept.mem_sent present)
    rw [same, kept.readable fits member] at read
    cases read
    exact (kept.heard.members event).mp present
  have further := acceptedEvents_append_of_subset (trace.sent.take trace.seen)
    (trace.sent.drop trace.seen) fun event member => seen event (List.mem_of_mem_drop member)
  rw [List.take_append_drop] at further
  rw [kept.heard.accepted, further]

end Journey

/-- Whatever happens on the way, and in whatever order: the notices about a
request tell its events from the first one on, one for each, in their order; and
they tell all of them when nothing waits anywhere and all that was published has
arrived. Numbers are machine words, so that this holds up to the size of a word. -/
theorem notices_follow_the_events {journey : Journey} (traveled : Traveled journey)
    (fits : ∀ event ∈ journey.announced, event.payload.Fits) (request : Identifier) :
    let events := ofRequest request journey.announced
    noticesOf request journey.handed <+: events.map Event.notice ∧
      (journey.Quiet → journey.Arrived → events.length < UInt64.size →
        noticesOf request journey.handed = events.map Event.notice) := by
  intro events
  obtain ⟨trace, kept⟩ := Journey.kept_traveled traveled fits
  obtain ⟨waiting, announced, -⟩ := kept.announced_eq_append fits request
  have accepted := kept.acceptedEvents_eq_take fits request
  rw [kept.handed, noticesOf_map]
  constructor
  · have begun : ofRequest request trace.begun <+: ofRequest request (acceptedEvents trace.sent) :=
      (kept.hands.isPrefix request).trans (kept.acceptedEvents_isPrefix.filter _)
    have sent : ofRequest request (acceptedEvents trace.sent) <+:
        ofRequest request trace.published :=
      accepted ▸ List.take_prefix _ _
    have published : ofRequest request trace.published <+: events := ⟨waiting, announced.symm⟩
    exact ((begun.trans sent).trans published).map Event.notice
  · intro quiet arrived few
    have published := kept.published_of_quiet fits quiet arrived.resting request
    have all : ofRequest request trace.begun = events := calc
      ofRequest request trace.begun
        = ofRequest request (acceptedEvents trace.received) :=
          kept.hands.of_idle quiet.inFlight request
      _ = (ofRequest request trace.published).take (UInt64.size - 1) := by
          rw [kept.accepted_of_received fits arrived.received, accepted]
      _ = events := by
          rw [published]
          exact List.take_of_length_le (Nat.le_sub_one_of_lt few)
    rw [all]

namespace Sample

/-- Nothing has happened yet, and nothing will be tried twice. -/
def setOut : Journey :=
  ⟨.start .newYear2025 desk (.start "requests" onceOnly 1) (.start []) .silent, [], [], []⟩

/-- The projector has subscribed. -/
def listening : Journey :=
  let subscribed := { setOut.world with
    projector := .reading, subscription := some ⟨[⟨"requests", 0⟩], []⟩ }
  { setOut with world := subscribed.wake (.worker .projector) }

/-- A request was opened. -/
def filed : Journey := listening.served call (.create newRequest) (.fresh 4)

/-- A pass has the announcement in hand. -/
def inHand : Journey := { filed with world := (filed.world.beginPass .drain).1 }

/-- The bus carries the announcement. -/
def onTheBus : Journey := { inHand with world := inHand.world.tryPublish.1 }

/-- The projector reads what the bus carries next. -/
def readOnce (journey : Journey) : Journey :=
  { journey with
    world := journey.world.moveProjector.1
    received := journey.received ++ journey.world.arrivals }

/-- What was read comes again. -/
def comeAgain : Journey :=
  let once := readOnce onTheBus
  { once with world := (once.world.publish once.world.relay.topic opening.envelope).1 }

/-- Read twice, the announcement is given to the courier. -/
def told : Journey :=
  let readTwice := readOnce comeAgain
  { readTwice with
    world := (readTwice.world.moveDelivery 0).1
    handed := readTwice.handed ++ readTwice.world.beganBy 0 }

theorem traveled_inHand : Traveled inHand := by
  have started : setOut.world.startProjector = .ok listening.world := rfl
  have begun : Traveled setOut := .start _ _ _ _ _ _ _ rfl rfl
  have subscribed : Traveled listening := begun.subscribe rfl started
  exact (subscribed.serve call (.create newRequest) (.fresh 4)).pass .drain

theorem traveled_readOnce {journey : Journey} (before : Traveled journey) {envelope : Envelope}
    (arrives : journey.world.arrivals = [envelope]) : Traveled (readOnce journey) := by
  refine before.read fun reason lagged => ?_
  rw [World.arrivals, lagged] at arrives
  cases arrives

theorem traveled_told : Traveled told := by
  have first : onTheBus.world.arrivals = [opening.envelope] := by decide +kernel
  have once : Traveled (readOnce onTheBus) := traveled_readOnce traveled_inHand.publish first
  have known : opening.envelope ∈ (readOnce onTheBus).received := by decide +kernel
  have again : Traveled comeAgain := once.publishAgain known
  have second : comeAgain.world.arrivals = [opening.envelope] := by decide +kernel
  exact (traveled_readOnce again second).deliver 0

theorem announced_told : told.announced = [opening] := by decide +kernel

end Sample

/-- Though nothing waits and nothing is in flight, the announcement is in the hands
of a pass, or the bus carries it, and nobody was told. -/
theorem quiet_before_anybody_was_told :
    (Traveled Sample.inHand ∧ Sample.inHand.Quiet ∧
        noticesOf (.numbered 5) Sample.inHand.handed = [] ∧
        (ofRequest (.numbered 5) Sample.inHand.announced).map Event.notice =
          [Sample.opening.notice]) ∧
      Traveled Sample.onTheBus ∧ Sample.onTheBus.Quiet ∧
        noticesOf (.numbered 5) Sample.onTheBus.handed = [] ∧
        (ofRequest (.numbered 5) Sample.onTheBus.announced).map Event.notice =
          [Sample.opening.notice] := by
  have inHand : Sample.inHand.Quiet :=
    ⟨by decide +kernel, by decide +kernel, by decide +kernel, by decide +kernel⟩
  have onTheBus : Sample.onTheBus.Quiet :=
    ⟨by decide +kernel, by decide +kernel, by decide +kernel, by decide +kernel⟩
  exact ⟨⟨Sample.traveled_inHand, inHand, by decide +kernel, by decide +kernel⟩,
    Sample.traveled_inHand.publish, onTheBus, by decide +kernel, by decide +kernel⟩

/-- What came twice is told once. -/
theorem told_once_of_what_came_twice :
    Traveled Sample.told ∧ (∀ event ∈ Sample.told.announced, event.payload.Fits) ∧
      Sample.told.Quiet ∧ Sample.told.Arrived ∧
      (ofRequest (.numbered 5) Sample.told.announced).length < UInt64.size ∧
      Sample.told.received = [Sample.opening.envelope, Sample.opening.envelope] ∧
      noticesOf (.numbered 5) Sample.told.handed = [Sample.opening.notice] := by
  have fits : ∀ event ∈ Sample.told.announced, event.payload.Fits := by
    rw [Sample.announced_told]
    intro event member
    rw [List.mem_singleton.mp member]
    exact ⟨by decide +kernel, by decide +kernel⟩
  have quiet : Sample.told.Quiet :=
    ⟨by decide +kernel, by decide +kernel, by decide +kernel, by decide +kernel⟩
  have arrived : Sample.told.Arrived := ⟨by decide +kernel, by decide +kernel⟩
  have few : (ofRequest (.numbered 5) Sample.told.announced).length < UInt64.size := by
    rw [Sample.announced_told]
    decide
  have follow := notices_follow_the_events Sample.traveled_told fits (.numbered 5)
  have all := follow.2 quiet arrived few
  refine ⟨Sample.traveled_told, fits, quiet, arrived, few, by decide +kernel, ?_⟩
  rw [all, Sample.announced_told]
  decide +kernel

end BenefitCasework
