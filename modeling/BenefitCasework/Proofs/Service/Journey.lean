import BenefitCasework.Proofs.Delivery.Reading
import BenefitCasework.Proofs.Delivery.RelayOrder
import BenefitCasework.Proofs.Desk.Announcing
import BenefitCasework.Proofs.Envelope.RoundTrip
import BenefitCasework.Proofs.Notice.Handing
import BenefitCasework.Proofs.Notice.Retelling
import BenefitCasework.Proofs.Service.Rearranging

/-!
Contract: the way of the events, from the desk to the courier.

Owns:
- `Journey`, a world with the events its calls announced, the envelopes its
  projector received and the notices its courier was given;
- `Traveled`, all that may happen on the way;
- `Journey.Kept`, what every journey keeps, with the events behind the envelopes
  as a `Trace`: one lemma for each kind of step, and `Journey.kept_traveled`.

The steps of the workers may come in any order, the bus and the courier may
refuse whatever they want, and what was received may come again. Does not own:
projectors that start late or fall too far behind, and closed stores.
-/

namespace BenefitCasework

/-- A world with what can be seen of its way so far. -/
structure Journey where
  world : World
  announced : List Event
  received : List Envelope
  handed : List Notice

namespace Journey

/-- A call at the desk. Only a call that succeeds announces anything. -/
def served (journey : Journey) (call : Call) (demand : Demand) (fresh : Nat → Identifier) :
    Journey :=
  let (world, answer) := journey.world.call fun desk _ => desk.serve call demand fresh
  { journey with
    world := world
    announced := journey.announced ++ announcedBy answer }

end Journey

/-- The journeys of a service whose projector subscribes before anything is
published, never falls too far behind, and whose notices are not closed. -/
inductive Traveled : Journey → Prop where
  | start (moment : Instant) (desk : Desk) (topic : String) (policy : RetryPolicy) (capacity : Nat)
      (bus : Bus) (courier : Courier) (nothingFiled : desk.register = [])
      (nothingSent : bus.sent topic = []) :
      Traveled ⟨.start moment desk (.start topic policy capacity) bus courier, [], [], []⟩
  | rearrange {journey : Journey} {world : World} (before : Traveled journey)
      (rearranged : journey.world.Rearranged world) : Traveled { journey with world := world }
  | subscribe {journey : Journey} {world : World} (before : Traveled journey)
      (nothingSent : journey.world.bus.sent journey.world.relay.topic = [])
      (started : journey.world.startProjector = .ok world) :
      Traveled { journey with world := world }
  | serve {journey : Journey} (before : Traveled journey) (call : Call) (demand : Demand)
      (fresh : Nat → Identifier) : Traveled (journey.served call demand fresh)
  | pass {journey : Journey} (before : Traveled journey) (kind : PassKind) :
      Traveled { journey with world := (journey.world.beginPass kind).1 }
  | publish {journey : Journey} (before : Traveled journey) :
      Traveled { journey with world := journey.world.tryPublish.1 }
  | read {journey : Journey} (before : Traveled journey)
      (inTime : ∀ reason, journey.world.arrival? ≠ some (.error reason)) :
      Traveled { journey with
        world := journey.world.moveProjector.1
        received := journey.received ++ journey.world.arrivals }
  | publishAgain {journey : Journey} {envelope : Envelope} (before : Traveled journey)
      (known : envelope ∈ journey.received) :
      Traveled { journey with
        world := (journey.world.publish journey.world.relay.topic envelope).1 }
  | receiveAgain {journey : Journey} {envelope : Envelope} {world : World} {handle : Nat}
      (before : Traveled journey) (known : envelope ∈ journey.received)
      (accepted : journey.world.receive envelope = .ok (world, handle)) :
      Traveled { journey with world := world, received := journey.received ++ [envelope] }
  | deliver {journey : Journey} (before : Traveled journey) (task : Nat) :
      Traveled { journey with
        world := (journey.world.moveDelivery task).1
        handed := journey.handed ++ journey.world.beganBy task }

/-- The events behind the envelopes of a journey: those the relay has published,
those on the bus and how many of them lie behind the projector, those received,
and those the courier was given. -/
structure Trace where
  published : List Event
  sent : List Event
  seen : Nat
  received : List Event
  begun : List Event

/-- What a relay has published is an event from its outbox. -/
theorem Ledger.exists_enqueued {relay : Relay} {enqueued : List Event} {accepted : List Envelope}
    {envelope : Envelope} (kept : Ledger.Kept ⟨relay, enqueued, accepted ++ [envelope]⟩) :
    ∃ event ∈ enqueued, event.envelope = envelope := by
  have member : envelope ∈ onStream envelope.stream (enqueued.map Event.envelope) := by
    rw [← kept.ordered envelope.stream, onStream_append, onStream_cons_of_eq rfl]
    simp
  exact List.mem_map.mp (List.mem_of_mem_filter member)

namespace Journey

/-- What every journey keeps, from the desk to the courier. -/
structure Kept (journey : Journey) (trace : Trace) : Prop where
  counts : journey.world.desk.register.Counts journey.announced
  ledger : Ledger.Kept
    ⟨journey.world.relay, journey.announced, trace.published.map Event.envelope⟩
  genuine : ∀ event ∈ trace.published, event ∈ journey.announced
  sent : journey.world.bus.sent journey.world.relay.topic = trace.sent.map Event.envelope
  retold : Retells trace.published trace.sent
  follows : ∀ subscription ∈ journey.world.subscription,
    subscription.Follows journey.world.relay.topic trace.seen
  seen : trace.seen ≤ trace.sent.length
  received : journey.received = trace.received.map Event.envelope
  heard : Retells (trace.sent.take trace.seen) trace.received
  hands : HandsOver trace.received journey.world.notices trace.begun
  handed : journey.handed = trace.begun.map Event.notice

variable {journey : Journey} {trace : Trace} {world : World}

theorem kept_start (moment : Instant) (desk : Desk) (topic : String) (policy : RetryPolicy)
    (capacity : Nat) (bus : Bus) (courier : Courier) (nothingFiled : desk.register = [])
    (nothingSent : bus.sent topic = []) :
    Kept ⟨.start moment desk (.start topic policy capacity) bus courier, [], [], []⟩
      ⟨[], [], 0, [], []⟩ where
  counts := by
    simp only [World.start, nothingFiled]
    exact Register.counts_empty
  ledger := Ledger.kept_start topic policy capacity
  genuine := fun event member => member
  sent := nothingSent
  retold := .refl []
  follows := fun subscription member => nomatch member
  seen := Nat.le_refl 0
  received := rfl
  heard := .refl []
  hands := handsOver_start courier
  handed := rfl

theorem Kept.rearranged (kept : journey.Kept trace) (rearranged : journey.world.Rearranged world) :
    Kept { journey with world := world } trace where
  counts := by
    simp only [rearranged.register]
    exact kept.counts
  ledger := by
    simp only [rearranged.relay]
    exact kept.ledger
  genuine := kept.genuine
  sent := by
    simp only [rearranged.relay, rearranged.sent]
    exact kept.sent
  retold := kept.retold
  follows := by
    simp only [rearranged.relay, rearranged.subscription]
    exact kept.follows
  seen := kept.seen
  received := kept.received
  heard := kept.heard
  hands := by
    rw [rearranged.notices]
    exact ⟨kept.hands.going, ⟨kept.hands.orderly.distinct, kept.hands.orderly.below⟩,
      kept.hands.kept⟩
  handed := kept.handed

/-- The projector may stop, and it may start as long as nothing lies behind it. -/
theorem Kept.subscribed (kept : journey.Kept trace) (subscription : Option Subscription)
    (follows : ∀ present ∈ subscription,
      present.Follows journey.world.relay.topic trace.seen) :
    Kept { journey with world := { journey.world with subscription := subscription } } trace :=
  { kept with follows := follows }

theorem kept_subscribe (kept : journey.Kept trace)
    (nothingSent : journey.world.bus.sent journey.world.relay.topic = [])
    (started : journey.world.startProjector = .ok world) :
    Kept { journey with world := world } trace := by
  have noneSeen : trace.seen = 0 := by
    have nothing := kept.sent
    rw [nothingSent] at nothing
    have bound := kept.seen
    rw [List.map_eq_nil_iff.mp nothing.symm] at bound
    exact Nat.le_zero.mp bound
  unfold World.startProjector at started
  cases subscribed : Subscription.start journey.world.bus [journey.world.relay.topic] with
  | error reason =>
      rw [subscribed] at started
      cases started
  | ok subscription =>
      rw [subscribed] at started
      cases started
      have follows := Subscription.follows_start subscribed
      rw [nothingSent, List.length_nil, ← noneSeen] at follows
      have subscribed := kept.subscribed (some subscription) fun present same =>
        Option.some.inj same ▸ follows
      exact subscribed.rearranged ⟨rfl, rfl, rfl, rfl, rfl⟩

/-! ### Calls and the relay -/

/-- A relay with some more of its moves behind it. -/
theorem Kept.ledgerMoved (kept : journey.Kept trace) {relay : Relay}
    (sameTopic : relay.topic = journey.world.relay.topic)
    (ledger : Ledger.Kept ⟨relay, journey.announced, trace.published.map Event.envelope⟩) :
    Kept { journey with world := { journey.world with relay := relay } } trace :=
  { kept with
    ledger := ledger
    sent := by simpa only [sameTopic] using kept.sent
    follows := by simpa only [sameTopic] using kept.follows }

theorem kept_serve (kept : journey.Kept trace) (call : Call) (demand : Demand)
    (fresh : Nat → Identifier) : (journey.served call demand fresh).Kept trace := by
  let desk := { journey.world.desk with outbox := journey.world.relay.outbox }
  let reply := desk.serve call demand fresh
  have counted : desk.register.Counts journey.announced := kept.counts
  obtain ⟨counts, outbox⟩ := Desk.counts_serve counted call demand fresh
  have rearranged := journey.world.rearranged_call fun desk _ => desk.serve call demand fresh
  suffices filed : Kept { journey with
      world := { journey.world with
        desk := reply.desk, relay := { journey.world.relay with outbox := reply.desk.outbox } }
      announced := journey.announced ++ announcedBy reply.result } trace from
    filed.rearranged rearranged
  rw [outbox]
  exact { kept with
    counts := counts
    ledger := Ledger.kept_move kept.ledger (.enqueue (announcedBy reply.result))
    genuine := fun event member => List.mem_append_left _ (kept.genuine event member) }

theorem kept_pass (kept : journey.Kept trace) (kind : PassKind) :
    Kept { journey with world := (journey.world.beginPass kind).1 } trace := by
  cases kind with
  | drain =>
      exact kept.ledgerMoved journey.world.relay.topic_beginDrain
        (Ledger.kept_move kept.ledger .drain)
  | replay =>
      exact kept.ledgerMoved journey.world.relay.topic_beginReplay
        (Ledger.kept_move kept.ledger .replay)

/-- The relay has published an event. -/
theorem Kept.published (kept : journey.Kept trace) {event : Event} {relay : Relay} {bus : Bus}
    (sameTopic : relay.topic = journey.world.relay.topic) (genuine : event ∈ journey.announced)
    (ledger : Ledger.Kept
      ⟨relay, journey.announced, (trace.published ++ [event]).map Event.envelope⟩)
    (sent : bus.sent journey.world.relay.topic =
      journey.world.bus.sent journey.world.relay.topic ++ [event.envelope]) :
    Kept { journey with world := { journey.world with bus := bus, relay := relay } }
      { trace with published := trace.published ++ [event], sent := trace.sent ++ [event] } :=
  { kept with
    ledger := ledger
    genuine := fun other member => by
      rcases List.mem_append.mp member with earlier | now
      · exact kept.genuine other earlier
      · exact List.mem_singleton.mp now ▸ genuine
    sent := by
      simp only [sameTopic, sent, kept.sent, List.map_append, List.map_cons, List.map_nil]
    retold := kept.retold.append event
    follows := by simpa only [sameTopic] using kept.follows
    seen := by
      rw [List.length_append]
      exact Nat.le_add_right_of_le kept.seen
    heard := by
      rw [List.take_append_of_le_length kept.seen]
      exact kept.heard }

/-- The bus carries an event again. -/
theorem Kept.sentAgain (kept : journey.Kept trace) {event : Event} {bus : Bus}
    (known : event ∈ trace.sent)
    (sent : bus.sent journey.world.relay.topic =
      journey.world.bus.sent journey.world.relay.topic ++ [event.envelope]) :
    Kept { journey with world := { journey.world with bus := bus } }
      { trace with sent := trace.sent ++ [event] } :=
  { kept with
    sent := by simp only [sent, kept.sent, List.map_append, List.map_cons, List.map_nil]
    retold := kept.retold.again known
    seen := by
      rw [List.length_append]
      exact Nat.le_add_right_of_le kept.seen
    heard := by
      rw [List.take_append_of_le_length kept.seen]
      exact kept.heard }

theorem kept_publish (kept : journey.Kept trace) :
    ∃ trace, Kept { journey with world := journey.world.tryPublish.1 } trace := by
  cases asks : journey.world.relay.asking with
  | none =>
      rw [World.tryPublish_of_unasked _ asks]
      exact ⟨trace, kept⟩
  | some pass =>
      have rearranged := journey.world.rearranged_tryPublish asks
      have sent := journey.world.bus.sent_publish journey.world.relay.topic
        journey.world.relay.topic pass.source.envelope
      have moved := fun answer => Ledger.kept_move kept.ledger (.answer answer)
      have topic := journey.world.relay.topic_attempt
      cases answered : journey.world.bus.publish journey.world.relay.topic
          pass.source.envelope with
      | mk bus answer =>
          simp only [answered] at rearranged sent
          cases answer with
          | error reason =>
              rw [Bus.taken, List.append_nil] at sent
              have ledger := moved (.error (.full reason))
              simp only [Ledger.move, Relay.sentBy, asks, List.append_nil] at ledger
              have refused := kept.ledgerMoved (topic (.error (.full reason))) ledger
              refine ⟨trace, refused.rearranged (.trans ?_ rearranged)⟩
              refine ⟨rfl, rfl, ?_, rfl, rfl⟩
              simp only [topic]
              exact sent
          | ok accepted =>
              have ledger := moved (.ok accepted)
              simp only [Ledger.move, Relay.sentBy, asks] at ledger
              obtain ⟨event, genuine, same⟩ := Ledger.exists_enqueued ledger
              rw [Bus.taken, if_pos rfl, ← same] at sent
              rw [← same, show [event.envelope] = [event].map Event.envelope from rfl,
                ← List.map_append] at ledger
              have published := kept.published (topic (.ok accepted)) genuine ledger sent
              exact ⟨_, published.rearranged rearranged⟩

/-! ### The projector and the courier -/

/-- What the bus carries can be read. -/
theorem Kept.readable (kept : journey.Kept trace)
    (fits : ∀ event ∈ journey.announced, event.payload.Fits) {event : Event}
    (member : event ∈ trace.sent) : event.envelope.event? = .ok event :=
  Event.event?_envelope (fits event (kept.genuine event ((kept.retold.members event).mp member)))

theorem Kept.mem_sent (kept : journey.Kept trace) {event : Event}
    (member : event ∈ trace.received) : event ∈ trace.sent :=
  List.mem_of_mem_take ((kept.heard.members event).mp member)

/-- What comes again was received, and so was an event behind it. -/
theorem Kept.exists_received (kept : journey.Kept trace) {envelope : Envelope}
    (known : envelope ∈ journey.received) :
    ∃ event ∈ trace.received, event.envelope = envelope := by
  rw [kept.received] at known
  exact List.mem_map.mp known

/-- The notices receive an event. -/
theorem Kept.hear (kept : journey.Kept trace) {event : Event} {seen : Nat}
    {subscription : Option Subscription}
    (follows : ∀ present ∈ subscription, present.Follows journey.world.relay.topic seen)
    (bound : seen ≤ trace.sent.length)
    (heard : Retells (trace.sent.take seen) (trace.received ++ [event])) :
    Kept { journey with
        world := { journey.world with
          subscription := subscription
          notices := (EffectStore.accept noticeWorkshop journey.world.notices
            (.received event)).1 }
        received := journey.received ++ [event.envelope] }
      { trace with seen := seen, received := trace.received ++ [event] } :=
  { kept with
    follows := follows
    seen := bound
    received := by simp only [kept.received, List.map_append, List.map_cons, List.map_nil]
    heard := heard
    hands := kept.hands.receive event }

/-- A projector reads the event behind those it has seen. -/
theorem Kept.next (kept : journey.Kept trace) {subscription rest : Subscription}
    {envelope : Envelope} (subscribed : journey.world.subscription = some subscription)
    (received : subscription.receive journey.world.bus = (some (.ok envelope), rest)) :
    ∃ event, trace.sent[trace.seen]? = some event ∧ event.envelope = envelope ∧
      rest.Follows journey.world.relay.topic (trace.seen + 1) := by
  have next := Subscription.receives journey.world.bus (kept.follows subscription subscribed)
  rw [received] at next
  cases next with
  | next here follows =>
      rw [kept.sent, List.getElem?_map] at here
      obtain ⟨event, place, same⟩ := Option.map_eq_some_iff.mp here
      exact ⟨event, place, same, follows⟩

theorem kept_read (kept : journey.Kept trace)
    (fits : ∀ event ∈ journey.announced, event.payload.Fits)
    (inTime : ∀ reason, journey.world.arrival? ≠ some (.error reason)) :
    ∃ trace, Kept { journey with
      world := journey.world.moveProjector.1
      received := journey.received ++ journey.world.arrivals } trace := by
  have asBefore (nothing : journey.world.arrival? = none) :
      journey.received ++ journey.world.arrivals = journey.received := by
    simp [World.arrivals, nothing]
  have moved := journey.world.projectorMove
  generalize journey.world.moveProjector.1 = after at moved ⊢
  cases moved with
  | still nothing =>
      rw [asBefore nothing]
      exact ⟨trace, kept⟩
  | stopped nothing rearranged =>
      rw [asBefore nothing]
      have stopped := kept.subscribed none fun present absent => nomatch absent
      exact ⟨trace, stopped.rearranged rearranged⟩
  | listened subscription emptied nothing subscribed received rearranged =>
      rw [asBefore nothing]
      have found := Subscription.receives journey.world.bus (kept.follows subscription subscribed)
      rw [received] at found
      cases found with
      | nothing all follows =>
          have listening := kept.subscribed (some emptied) fun present same =>
            Option.some.inj same ▸ follows
          exact ⟨trace, listening.rearranged rearranged⟩
  | lagged found => exact absurd found (inTime _)
  | read subscription rest found subscribed received handled =>
      obtain ⟨event, place, rfl, follows⟩ := kept.next subscribed received
      have readable := kept.readable fits (List.mem_of_getElem? place)
      obtain ⟨reached, handle, accepted, rearranged⟩ := World.receive_of_event
        { journey.world with projector := .reading, subscription := some rest } readable
        kept.hands.going
      have arrived : journey.world.arrivals = [event.envelope] := by
        simp only [World.arrivals, found]
      have heard : Retells (trace.sent.take (trace.seen + 1)) (trace.received ++ [event]) := by
        rw [List.take_add_one, place]
        exact kept.heard.append event
      have present := (List.getElem?_eq_some_iff.mp place).1
      have heardKept := kept.hear (fun subscribed same => Option.some.inj same ▸ follows) present
        heard
      rw [handled reached handle accepted, arrived]
      refine ⟨_, heardKept.rearranged (.trans ?_ rearranged)⟩
      exact ⟨rfl, rfl, rfl, rfl, rfl⟩

theorem kept_publishAgain (kept : journey.Kept trace) {envelope : Envelope}
    (known : envelope ∈ journey.received) :
    ∃ trace, Kept { journey with
      world := (journey.world.publish journey.world.relay.topic envelope).1 } trace := by
  obtain ⟨event, member, rfl⟩ := kept.exists_received known
  have sent := journey.world.bus.sent_publish journey.world.relay.topic
    journey.world.relay.topic event.envelope
  have rearranged :=
    (journey.world.rearranged_publish journey.world.relay.topic event.envelope).1
  cases answered : (journey.world.bus.publish journey.world.relay.topic event.envelope).2 with
  | error reason =>
      rw [answered, Bus.taken, List.append_nil] at sent
      refine ⟨trace, kept.rearranged (.trans ?_ rearranged)⟩
      exact ⟨rfl, rfl, sent, rfl, rfl⟩
  | ok accepted =>
      rw [answered, Bus.taken, if_pos rfl] at sent
      exact ⟨_, (kept.sentAgain (kept.mem_sent member) sent).rearranged rearranged⟩

theorem kept_receiveAgain (kept : journey.Kept trace)
    (fits : ∀ event ∈ journey.announced, event.payload.Fits) {envelope : Envelope} {handle : Nat}
    (known : envelope ∈ journey.received)
    (accepted : journey.world.receive envelope = .ok (world, handle)) :
    ∃ trace, Kept { journey with
      world := world, received := journey.received ++ [envelope] } trace := by
  obtain ⟨event, member, rfl⟩ := kept.exists_received known
  have readable := kept.readable fits (kept.mem_sent member)
  obtain ⟨reached, _, answer, rearranged⟩ := World.receive_of_event journey.world readable
    kept.hands.going
  rw [accepted] at answer
  cases answer
  exact ⟨_, (kept.hear kept.follows kept.seen (kept.heard.again member)).rearranged rearranged⟩

theorem kept_deliver (kept : journey.Kept trace) (task : Nat) :
    ∃ trace, Kept { journey with
      world := (journey.world.moveDelivery task).1
      handed := journey.handed ++ journey.world.beganBy task } trace := by
  have hands := kept.hands.turn task journey.world.schedule.now
  have moved : Kept { journey with
      world := { journey.world with
        notices := (journey.world.notices.turn noticeWorkshop task
          journey.world.schedule.now).1 }
      handed := journey.handed ++ journey.world.beganBy task }
      { trace with begun := trace.begun ++ journey.world.notices.begunBy task } :=
    { kept with
      hands := hands
      handed := by rw [kept.handed, World.beganBy, List.map_append] }
  exact ⟨_, moved.rearranged (journey.world.rearranged_moveDelivery task)⟩

/-- Every journey keeps what is to be kept, if all that was announced can be
written. -/
theorem kept_traveled (traveled : Traveled journey)
    (fits : ∀ event ∈ journey.announced, event.payload.Fits) : ∃ trace, journey.Kept trace := by
  induction traveled with
  | start moment desk topic policy capacity bus courier nothingFiled nothingSent =>
      exact ⟨_, kept_start moment desk topic policy capacity bus courier nothingFiled nothingSent⟩
  | rearrange before rearranged inductionHypothesis =>
      obtain ⟨trace, kept⟩ := inductionHypothesis fits
      exact ⟨trace, kept.rearranged rearranged⟩
  | subscribe before nothingSent started inductionHypothesis =>
      obtain ⟨trace, kept⟩ := inductionHypothesis fits
      exact ⟨trace, kept_subscribe kept nothingSent started⟩
  | serve before call demand fresh inductionHypothesis =>
      obtain ⟨trace, kept⟩ := inductionHypothesis fun event member =>
        fits event (List.mem_append_left _ member)
      exact ⟨trace, kept_serve kept call demand fresh⟩
  | pass before kind inductionHypothesis =>
      obtain ⟨trace, kept⟩ := inductionHypothesis fits
      exact ⟨trace, kept_pass kept kind⟩
  | publish before inductionHypothesis =>
      obtain ⟨trace, kept⟩ := inductionHypothesis fits
      exact kept_publish kept
  | read before inTime inductionHypothesis =>
      obtain ⟨trace, kept⟩ := inductionHypothesis fits
      exact kept_read kept fits inTime
  | publishAgain before known inductionHypothesis =>
      obtain ⟨trace, kept⟩ := inductionHypothesis fits
      exact kept_publishAgain kept known
  | receiveAgain before known accepted inductionHypothesis =>
      obtain ⟨trace, kept⟩ := inductionHypothesis fits
      exact kept_receiveAgain kept fits known accepted
  | deliver before task inductionHypothesis =>
      obtain ⟨trace, kept⟩ := inductionHypothesis fits
      exact kept_deliver kept task

end Journey

end BenefitCasework
