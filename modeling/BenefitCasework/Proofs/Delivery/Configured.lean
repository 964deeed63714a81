import BenefitCasework.Proofs.Delivery.Accounts
import BenefitCasework.Service.Turns
import BenefitCasework.Settings

/-!
Contract: a relay that is set up from the settings delivers everything, exactly when
the topic has a name.

Owns:
- `Outlet`, a relay and the bus that it publishes on, and `Outlet.drainAfter`, a pass
  over the outbox with so many offers to the bus;
- `Outlet.drainAfter_eq`, that the relay moves as it does by the answers that the bus
  gives, and that the bus carries what it accepted;
- `Ledger.passAfter_of_taken`, a pass in which everything is taken at once;
- `delivery_needs_a_named_topic`, for all settings.

The bus refuses an empty topic each time, and the check of the settings does not look at
the topic. Does not own: a bus that is told to refuse.
-/

namespace BenefitCasework

/-! ### The bus -/

namespace Bus

/-- The bus is not told to refuse anything. -/
structure Unhindered (bus : Bus) : Prop where
  failures : bus.failures = 0
  refusedCalls : bus.refusedCalls = []

variable {bus : Bus}

/-- An envelope is on the bus exactly when it was accepted. -/
theorem accepted_publish (bus : Bus) (topic : String) (envelope : Envelope) :
    (bus.publish topic envelope).1.accepted = bus.accepted ++
      match (bus.publish topic envelope).2 with
      | .ok () => [(topic, envelope)]
      | .error _ => [] := by
  unfold publish
  split
  · simp
  · split
    · simp
    · split
      · simp
      · rfl

theorem Unhindered.publish (unhindered : bus.Unhindered) (topic : String) (envelope : Envelope) :
    (bus.publish topic envelope).1.Unhindered := by
  obtain ⟨failures, refusedCalls⟩ := unhindered
  unfold Bus.publish
  simp only [refusedCalls, failures, List.contains_nil, Bool.false_eq_true, if_false]
  split
  · exact ⟨rfl, rfl⟩
  · exact ⟨rfl, rfl⟩

/-- Whatever has a topic is taken. -/
theorem Unhindered.takes (unhindered : bus.Unhindered) {topic : String} (named : topic ≠ "")
    (envelope : Envelope) : (bus.publish topic envelope).2 = .ok () := by
  obtain ⟨failures, refusedCalls⟩ := unhindered
  have notEmpty : ¬ topic.isEmpty = true := fun empty => named (String.isEmpty_iff.mp empty)
  simp [Bus.publish, failures, refusedCalls, notEmpty]

/-- Every bus refuses what has none. -/
theorem exists_refusal_of_unnamed (bus : Bus) (envelope : Envelope) :
    ∃ reason, (bus.publish "" envelope).2 = .error reason := by
  unfold Bus.publish
  split
  · exact ⟨_, rfl⟩
  · exact ⟨_, rfl⟩

end Bus

/-! ### A relay on a bus -/

/-- A relay and the bus that it publishes on. -/
structure Outlet where
  relay : Relay
  bus : Bus

namespace Outlet

/-- The answer of the bus to what is being published. -/
def answer (outlet : Outlet) : Except Setback Unit :=
  match outlet.relay.asking with
  | none => .ok ()
  | some pass =>
      (outlet.bus.publish outlet.relay.topic pass.source.envelope).2.mapError .full

/-- Offers what is being published to the bus once. -/
def offer (outlet : Outlet) : Outlet × Progress :=
  match outlet.relay.asking with
  | none => (outlet, outlet.relay.unasked)
  | some pass =>
      let (bus, answer) := outlet.bus.publish outlet.relay.topic pass.source.envelope
      let (relay, progress) := outlet.relay.attempt (answer.mapError .full)
      (⟨relay, bus⟩, progress)

/-- A pass over the outbox behind so many offers. -/
def drainAfter (outlet : Outlet) : Nat → Outlet × Progress
  | 0 =>
      let (relay, progress) := outlet.relay.beginDrain
      ({ outlet with relay := relay }, progress)
  | offers + 1 => (outlet.drainAfter offers).1.offer

/-- An office that offers an envelope changes its bus, and wakes those who listen. -/
theorem publish_of_world (world : World) (topic : String) (envelope : Envelope) :
    let offered := world.publish topic envelope
    offered.1.relay = world.relay ∧ offered.1.bus = (world.bus.publish topic envelope).1 ∧
      offered.2 = (world.bus.publish topic envelope).2 := by
  unfold World.publish
  cases world.bus.publish topic envelope with
  | mk bus answer =>
      cases answer with
      | error reason => exact ⟨rfl, rfl, rfl⟩
      | ok accepted =>
          dsimp only
          split
          · exact ⟨rfl, rfl, rfl⟩
          · exact ⟨rfl, rfl, rfl⟩

/-- An office tries to publish in this way. -/
theorem offer_of_world (world : World) :
    (Outlet.mk world.relay world.bus).offer =
      (⟨world.tryPublish.1.relay, world.tryPublish.1.bus⟩, world.tryPublish.2) := by
  cases asks : world.relay.asking with
  | none => simp only [offer, World.tryPublish, asks]
  | some pass =>
      obtain ⟨relay, bus, answer⟩ :=
        publish_of_world world world.relay.topic pass.source.envelope
      simp only [offer, World.tryPublish, asks, relay, bus, answer]

/-! ### The relay moves by the answers of the bus -/

/-- The relay alone, with nothing accepted yet. -/
def ledger (outlet : Outlet) : Ledger := ⟨outlet.relay, [], []⟩

/-- The answers that the bus gives in a pass. -/
def answers (outlet : Outlet) (place : Nat) : Except Setback Unit :=
  (outlet.drainAfter place).1.answer

/-- The full wait is drawn behind each refusal. -/
theorem drawn_of_answers (outlet : Outlet) (place : Nat) (setback : Setback)
    (refused : outlet.answers place = .error setback) : Drawn setback.factor := by
  rw [answers, answer] at refused
  split at refused
  · nomatch refused
  · cases told : (Bus.publish _ _ _).2 with
    | ok accepted =>
        rw [told] at refused
        nomatch refused
    | error reason =>
        rw [told] at refused
        cases refused
        exact drawn_one

/-- The topic is the same throughout a pass. -/
theorem topic_passAfter (outlet : Outlet) (outcomes : Nat → Except Setback Unit) (asked : Nat) :
    (outlet.ledger.passAfter .drain outcomes asked).1.relay.topic = outlet.relay.topic := by
  rw [Ledger.fst_passAfter]
  exact (congrArg Relay.Standing.topic (Ledger.standing_run outlet.ledger _)).trans rfl

/-- A pass with a bus is a pass with the answers of the bus, and what is accepted is on
the bus. -/
theorem drainAfter_eq (outlet : Outlet) (offers : Nat) :
    let reached := outlet.drainAfter offers
    let told := outlet.ledger.passAfter .drain outlet.answers offers
    reached.1.relay = told.1.relay ∧ reached.2 = told.2 ∧
      reached.1.bus.accepted = outlet.bus.accepted ++
        told.1.accepted.map fun envelope => (outlet.relay.topic, envelope) := by
  induction offers with
  | zero => exact ⟨rfl, rfl, (List.append_nil _).symm⟩
  | succ offers inductionHypothesis =>
      obtain ⟨relay, -, accepted⟩ := inductionHypothesis
      have topic := outlet.topic_passAfter outlet.answers offers
      have answers : outlet.answers offers = (outlet.drainAfter offers).1.answer := rfl
      simp only [drainAfter, Ledger.passAfter, Ledger.proceed, Ledger.move, Ledger.progress]
      rw [← relay] at topic ⊢
      cases asks : (outlet.drainAfter offers).1.relay.asking with
      | none =>
          simp only [offer, Relay.attempt, Relay.sentBy, asks, List.append_nil]
          exact ⟨trivial, trivial, accepted⟩
      | some pass =>
          simp only [answer, asks, topic] at answers
          have carried := (outlet.drainAfter offers).1.bus.accepted_publish outlet.relay.topic
            pass.source.envelope
          simp only [offer, asks, answers, topic]
          refine ⟨trivial, trivial, ?_⟩
          rw [carried, accepted, List.map_append, List.append_assoc]
          cases (Bus.publish _ _ _).2 with
          | ok taken => simp [Relay.sentBy, asks, Except.mapError]
          | error reason => simp [Relay.sentBy, asks, Except.mapError]

theorem topic_drainAfter (outlet : Outlet) (offers : Nat) :
    (outlet.drainAfter offers).1.relay.topic = outlet.relay.topic := by
  rw [(outlet.drainAfter_eq offers).1]
  exact outlet.topic_passAfter outlet.answers offers

/-- Without a topic nothing comes onto the bus. -/
theorem accepted_drainAfter_of_unnamed (outlet : Outlet) (unnamed : outlet.relay.topic = "")
    (offers : Nat) : (outlet.drainAfter offers).1.bus.accepted = outlet.bus.accepted := by
  induction offers with
  | zero => rfl
  | succ offers inductionHypothesis =>
      have topic := (outlet.topic_drainAfter offers).trans unnamed
      rw [drainAfter, offer]
      split
      · exact inductionHypothesis
      · rename_i pass under
        obtain ⟨reason, refused⟩ :=
          (outlet.drainAfter offers).1.bus.exists_refusal_of_unnamed pass.source.envelope
        have carried := (outlet.drainAfter offers).1.bus.accepted_publish "" pass.source.envelope
        rw [refused, List.append_nil] at carried
        rw [topic]
        exact carried.trans inductionHypothesis

theorem unhindered_drainAfter {outlet : Outlet} (unhindered : outlet.bus.Unhindered)
    (offers : Nat) : (outlet.drainAfter offers).1.bus.Unhindered := by
  induction offers with
  | zero => exact unhindered
  | succ offers inductionHypothesis =>
      rw [drainAfter, offer]
      split
      · exact inductionHypothesis
      · exact inductionHypothesis.publish _ _

/-- With a topic everything is taken at once. -/
theorem answers_of_named {outlet : Outlet} (unhindered : outlet.bus.Unhindered)
    (named : outlet.relay.topic ≠ "") (place : Nat) : outlet.answers place = .ok () := by
  rw [answers, answer]
  split
  · rfl
  · rw [topic_drainAfter, (unhindered_drainAfter unhindered place).takes named]
    rfl

end Outlet

/-! ### A pass in which everything is taken -/

namespace Ledger

variable {ledger : Ledger} {outcomes : Nat → Except Setback Unit}

/-- While nothing is held, each event that is taken makes way for the next one. -/
theorem passAfter_of_taken (resting : ledger.relay.pass = none)
    (live : ledger.relay.unwound = false) (free : ledger.relay.held = [])
    (taken : ∀ place, outcomes place = .ok ()) (asked : Nat)
    (within : asked ≤ ledger.relay.outbox.length) :
    ∃ relay : Relay, relay.unwound = false ∧ relay.held = [] ∧
      relay.letters = ledger.relay.letters ∧
      let reached := ledger.passAfter .drain outcomes asked
      (reached.1.relay, reached.2) =
        relay.drainFrom ⟨asked, 0, 0, 0, false⟩ (ledger.relay.outbox.drop asked) ∧
      reached.1.accepted = ledger.accepted ++
        (ledger.relay.outbox.take asked).map Event.envelope := by
  induction asked with
  | zero =>
      refine ⟨ledger.relay, live, free, rfl, ?_, (List.append_nil _).symm⟩
      simp only [passAfter, proceed, move, progress, Relay.beginDrain, resting]
      rfl
  | succ asked inductionHypothesis =>
      obtain ⟨relay, stillLive, held, letters, reached, accepted⟩ := inductionHypothesis (by omega)
      obtain ⟨event, rest, behind⟩ :=
        List.exists_cons_of_ne_nil (List.drop_eq_nil_iff.not.mpr (Nat.not_le_of_lt within))
      have later : ledger.relay.outbox.drop (asked + 1) = rest := by
        rw [← List.drop_drop, behind]
        rfl
      have upTo : ledger.relay.outbox.take (asked + 1) =
          ledger.relay.outbox.take asked ++ [event] := by
        rw [List.take_add, behind]
        rfl
      let inHand : Relay :=
        { relay with
          outbox := rest
          held := []
          pass := some ⟨.outbox event ⟨asked, 0, 0, 0, false⟩, 0⟩
          taken := relay.taken + 1 }
      have offered : relay.drainFrom ⟨asked, 0, 0, 0, false⟩ (event :: rest) =
          (inHand, .publishing) := by
        simp only [Relay.drainFrom_cons, held, Table.get?_nil]
        rfl
      rw [behind, offered] at reached
      have publishing : (ledger.passAfter .drain outcomes asked).1.relay = inHand :=
        (Prod.mk.inj reached).1
      have liveInHand : inHand.unwound = false := stillLive
      have under : inHand.pass = some ⟨.outbox event ⟨asked, 0, 0, 0, false⟩, 0⟩ := rfl
      have goesOut : inHand.attempt (.ok ()) =
          (inHand.countPublished event.envelope (0 + 1)).published
            (.outbox event ⟨asked, 0, 0, 0, false⟩) :=
        Relay.attempt_of_accepted under liveInHand
      have sent : inHand.sentBy (.ok ()) = [event.envelope] := by
        simp only [Relay.sentBy, Relay.asking_of_live liveInHand]
        rfl
      refine ⟨inHand.countPublished event.envelope (0 + 1), liveInHand, rfl, letters, ?_, ?_⟩
      · simp only [passAfter, proceed, move, progress, taken, publishing, later, goesOut]
        rfl
      · simp only [passAfter, proceed, move, taken, publishing, accepted, upTo, sent,
          List.map_append, List.append_assoc]
        rfl

/-- Behind the last event the pass is over. -/
theorem exists_delivered (resting : ledger.relay.pass = none)
    (live : ledger.relay.unwound = false) (free : ledger.relay.held = [])
    (taken : ∀ place, outcomes place = .ok ()) :
    ∃ after : Ledger,
      ledger.passAfter .drain outcomes ledger.relay.outbox.length =
        (after, .finished (.drained ⟨ledger.relay.outbox.length, 0, 0, 0, false⟩)) ∧
      after.relay.pass = none ∧ after.relay.outbox = [] ∧ after.relay.held = [] ∧
      after.relay.letters = ledger.relay.letters ∧
      after.accepted = ledger.accepted ++ ledger.relay.outbox.map Event.envelope := by
  obtain ⟨relay, -, held, letters, reached, accepted⟩ :=
    passAfter_of_taken resting live free taken ledger.relay.outbox.length (Nat.le_refl _)
  rw [List.drop_length] at reached
  rw [List.take_length] at accepted
  obtain ⟨ended, told⟩ := Prod.mk.inj reached
  exact ⟨_, Prod.ext rfl told, congrArg Relay.pass ended, congrArg Relay.outbox ended,
    (congrArg Relay.held ended).trans held, (congrArg Relay.letters ended).trans letters,
    accepted⟩

end Ledger

/-! ### The settings -/

namespace Settings

/-- The relay that the settings set up. -/
def relay (settings : Settings) : Relay :=
  .start settings.delivery.topic settings.retryPolicy settings.delivery.letterCapacity.toNat

def withTopic (settings : Settings) (topic : String) : Settings :=
  { settings with delivery := { settings.delivery with topic := topic } }

/-- The check does not look at the topic. -/
theorem check_withTopic (settings : Settings) (topic : String) :
    (settings.withTopic topic).check = settings.check := rfl

theorem topic_ofVariables_eq_empty_iff (valueOf? : String → Option String) :
    (ofVariables valueOf?).delivery.topic = "" ↔ valueOf? "EVENT_TOPIC" = some "" := by
  have topic : (ofVariables valueOf?).delivery.topic =
      (valueOf? "EVENT_TOPIC").getD "benefit-request-events" := rfl
  rw [topic]
  cases valueOf? "EVENT_TOPIC" with
  | none => simp
  | some named => simp

/-- The longest wait of the settings is a machine word of milliseconds. -/
theorem seconds_maxDelay_lt (settings : Settings) :
    settings.retryPolicy.maxDelay.seconds < 2 ^ 59 := by
  have small := settings.delivery.maxDelay.toNat_lt
  have told : settings.retryPolicy.maxDelay.seconds =
      settings.delivery.maxDelay.toNat * 1000000 / 1000000000 := rfl
  omega

/-- The relay on a bus, with some events to be published. -/
def outlet (settings : Settings) (events : List Event) (bus : Bus) : Outlet :=
  ⟨settings.relay.enqueue events, bus⟩

end Settings

/-- Whatever the variables are, whether or not the check lets the settings pass, and
whatever is in the outbox: with a named topic one pass puts all of it on a bus that is
not told to refuse anything. With an empty topic, which the check does not look at, the
pass ends with nothing on the bus, and all is parked, held or left. -/
theorem delivery_needs_a_named_topic (valueOf? : String → Option String) (events : List Event)
    {bus : Bus} (unhindered : bus.Unhindered) :
    let settings := Settings.ofVariables valueOf?
    let outlet := settings.outlet events bus
    (∀ topic, (settings.withTopic topic).check = settings.check) ∧
    (valueOf? "EVENT_TOPIC" ≠ some "" →
      ∃ after : Outlet,
        outlet.drainAfter events.length =
          (after, .finished (.drained ⟨events.length, 0, 0, 0, false⟩)) ∧
        after.bus.accepted = bus.accepted ++
          events.map (fun event => (settings.delivery.topic, event.envelope)) ∧
        after.relay.Cleared) ∧
    (valueOf? "EVENT_TOPIC" = some "" →
      ∃ offers report after,
        outlet.drainAfter offers = (after, .finished (.drained report)) ∧
        after.bus.accepted = bus.accepted ∧ report.published = 0 ∧
        report.parked + report.held + after.relay.outbox.length = events.length) := by
  intro settings outlet
  have resting : outlet.ledger.relay.pass = none := rfl
  have live : outlet.ledger.relay.unwound = false := rfl
  have free : outlet.ledger.relay.held = [] := rfl
  have all : outlet.ledger.relay.outbox = events := rfl
  refine ⟨settings.check_withTopic, fun named => ?_, fun unnamed => ?_⟩
  · have named : outlet.relay.topic ≠ "" := fun empty =>
      named ((Settings.topic_ofVariables_eq_empty_iff valueOf?).mp empty)
    obtain ⟨told, reached, ended, outbox, held, letters, accepted⟩ :=
      Ledger.exists_delivered resting live free (Outlet.answers_of_named unhindered named)
    obtain ⟨relay, progress, carried⟩ := outlet.drainAfter_eq events.length
    rw [all] at reached accepted
    rw [reached] at relay progress carried
    refine ⟨(outlet.drainAfter events.length).1, Prod.ext rfl progress, ?_, ?_⟩
    · rw [carried, accepted, Outlet.ledger, List.nil_append, List.map_map]
      rfl
    · rw [relay]
      exact ⟨ended, outbox, congrArg DeadLetters.letters letters, held⟩
  · have noAnswer : ∀ reply, RelayMove.drain ≠ .answer reply := fun reply => nofun
    have goesOn : ¬ outlet.ledger.Unwinds .drain outlet.answers :=
      Ledger.not_unwinds live settings.seconds_maxDelay_lt noAnswer outlet.drawn_of_answers
    have unnamed : outlet.relay.topic = "" :=
      (Settings.topic_ofVariables_eq_empty_iff valueOf?).mpr unnamed
    obtain ⟨offers, report, told, reached, counted, grown, -⟩ :=
      Ledger.exists_drained resting goesOn
    obtain ⟨relay, progress, carried⟩ := outlet.drainAfter_eq offers
    have nothing := outlet.accepted_drainAfter_of_unnamed unnamed offers
    rw [reached] at relay progress carried
    have unsent : told.accepted = [] := by
      rw [nothing, List.self_eq_append_right, List.map_eq_nil_iff] at carried
      exact carried
    have unpublished : report.published = 0 := by
      rw [unsent, Outlet.ledger] at grown
      simpa using grown.symm
    have total := counted.total
    rw [unpublished, Nat.zero_add, all] at total
    refine ⟨offers, report, _, Prod.ext rfl progress, nothing, unpublished, ?_⟩
    rw [relay]
    exact total

namespace Sample

/-- Only the topic is set, and it is empty. -/
def unnamedTopic (name : String) : Option String := if name = "EVENT_TOPIC" then some "" else none

end Sample

/-- The check lets settings pass with which the relay puts nothing on the bus. -/
theorem unnamed_topic_passes_the_check :
    (Settings.ofVariables Sample.unnamedTopic).check = .ok () ∧
      let outlet :=
        (Settings.ofVariables Sample.unnamedTopic).outlet [Sample.opening] (.start [])
      let drained := outlet.drainAfter 6
      drained.2 = .finished (.drained ⟨0, 1, 0, 0, false⟩) ∧ drained.1.bus.accepted = [] ∧
        payloads drained.1.relay.letters.letters = [Sample.opening.envelope] := by
  decide +kernel

/-- With the standard settings three announcements go out, and with an empty topic none. -/
theorem standard_settings_deliver_three :
    let events := [Sample.opening, Sample.foreign, Sample.numbered Sample.opening 2]
    (∃ after : Outlet,
      (Settings.standard.outlet events (.start [])).drainAfter 3 =
          (after, .finished (.drained ⟨3, 0, 0, 0, false⟩)) ∧
        after.relay.Cleared) ∧
      ∃ offers report after,
        ((Settings.ofVariables Sample.unnamedTopic).outlet events (.start [])).drainAfter offers =
            (after, .finished (.drained report)) ∧
          report.published = 0 := by
  intro events
  have unhindered : (Bus.start []).Unhindered := ⟨rfl, rfl⟩
  obtain ⟨-, delivered, -⟩ := delivery_needs_a_named_topic (fun _ => none) events unhindered
  obtain ⟨-, -, undelivered⟩ := delivery_needs_a_named_topic Sample.unnamedTopic events unhindered
  obtain ⟨after, reached, -, cleared⟩ := delivered nofun
  obtain ⟨offers, report, later, reachedToo, -, unpublished, -⟩ := undelivered rfl
  exact ⟨⟨after, reached, cleared⟩, offers, report, later, reachedToo, unpublished⟩

end BenefitCasework
