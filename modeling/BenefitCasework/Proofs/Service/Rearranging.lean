import BenefitCasework.Proofs.Delivery.RelayMoves
import BenefitCasework.Proofs.Effect.Running
import BenefitCasework.Service.Turns

/-!
Contract: what the functions of the service leave as it is.

Owns:
- `World.Rearranged`, two worlds that differ only in who waits for what, in the
  clocks, and in what fails next;
- for calls, offers to the bus and passes, the part of the world that they
  change, everything else being rearranged;
- `World.arrival?`, what the projector finds with its next move, and
  `World.ProjectorMove`, what the move leads to;
- `World.beganBy`, what the next move of a delivery gives to the courier.

Does not own: what the changed parts come to.
-/

namespace BenefitCasework

namespace World

/-- The requests on file, the relay, what the bus carries on its topic, the notices and
the place of the projector are the same. All else may differ: the rest of the desk, what
the bus and the courier refuse next and how long the courier takes, the clocks, and who
waits for what. -/
structure Rearranged (before after : World) : Prop where
  register : after.desk.register = before.desk.register
  relay : after.relay = before.relay
  sent : after.bus.sent before.relay.topic = before.bus.sent before.relay.topic
  notices : after.notices = { before.notices with surroundings := after.notices.surroundings }
  subscription : after.subscription = before.subscription

namespace Rearranged

variable {before middle after : World}

theorem refl (world : World) : world.Rearranged world := ⟨rfl, rfl, rfl, rfl, rfl⟩

theorem trans (first : before.Rearranged middle) (second : middle.Rearranged after) :
    before.Rearranged after := by
  refine ⟨second.register.trans first.register, second.relay.trans first.relay, ?_, ?_,
    second.subscription.trans first.subscription⟩
  · have sent := second.sent
    rw [first.relay] at sent
    exact sent.trans first.sent
  · rw [second.notices, first.notices]

end Rearranged

theorem rearranged_wake (world : World) (who : Who Worker) : world.Rearranged (world.wake who) :=
  ⟨rfl, rfl, rfl, rfl, rfl⟩

theorem rearranged_ring (world : World) : world.Rearranged world.ring := by
  unfold ring
  split <;> exact ⟨rfl, rfl, rfl, rfl, rfl⟩

/-- A call changes the desk, and the relay's outbox. -/
theorem rearranged_call (world : World) (serve : Desk → (Nat → Identifier) → Reply) :
    let reply :=
      serve { world.desk with outbox := world.relay.outbox } (Identifier.fresh world.taken)
    Rearranged
      { world with desk := reply.desk, relay := { world.relay with outbox := reply.desk.outbox } }
      (world.call serve).1 := by
  intro reply
  unfold call
  dsimp only
  split
  · refine .trans ?_ (rearranged_ring _)
    exact ⟨rfl, rfl, rfl, rfl, rfl⟩
  · exact ⟨rfl, rfl, rfl, rfl, rfl⟩

/-- An offer to the bus changes the bus, which gives the answer. -/
theorem rearranged_publish (world : World) (topic : String) (envelope : Envelope) :
    Rearranged { world with bus := (world.bus.publish topic envelope).1 }
        (world.publish topic envelope).1 ∧
      (world.publish topic envelope).2 = (world.bus.publish topic envelope).2 := by
  unfold publish
  cases answered : world.bus.publish topic envelope with
  | mk bus answer =>
      cases answer with
      | error reason => exact ⟨.refl _, rfl⟩
      | ok accepted =>
          dsimp only
          split
          · exact ⟨rearranged_wake _ _, rfl⟩
          · exact ⟨.refl _, rfl⟩

/-- A try of the pass under way changes the bus, and its answer the relay. -/
theorem rearranged_tryPublish (world : World) {pass : Pass} (asks : world.relay.asking = some pass) :
    let offered := world.bus.publish world.relay.topic pass.source.envelope
    Rearranged
      { world with
        bus := offered.1
        relay := (world.relay.attempt (offered.2.mapError .full)).1 }
      world.tryPublish.1 := by
  intro offered
  have published := world.rearranged_publish world.relay.topic pass.source.envelope
  have sent := published.1.sent
  have topic := world.relay.topic_attempt (offered.2.mapError .full)
  unfold tryPublish
  simp only [asks, published.1.relay, published.2]
  refine ⟨published.1.register, rfl, ?_, published.1.notices, published.1.subscription⟩
  rw [topic]
  exact sent

theorem tryPublish_of_unasked (world : World) (unasked : world.relay.asking = none) :
    world.tryPublish.1 = world := by
  simp only [tryPublish, unasked]

/-! ### The projector -/

/-- What the projector finds with its next move. -/
def arrival? (world : World) : Option (Except BusError Envelope) :=
  match world.projector, world.subscription with
  | .absent, _ => none
  | .ended, _ => none
  | _, none => none
  | _, some subscription =>
      if world.projectorStopped then none else (subscription.receive world.bus).1

/-- The envelope that the projector reads with its next move. -/
def arrivals (world : World) : List Envelope :=
  match world.arrival? with
  | some (.ok envelope) => [envelope]
  | _ => []

/-- What a move of the projector leads to: it cannot move, it is stopped, it finds
nothing, too much has gone by, or it reads an envelope. -/
inductive ProjectorMove (world : World) : World → Prop where
  | still (nothing : world.arrival? = none) : ProjectorMove world world
  | stopped {after : World} (nothing : world.arrival? = none)
      (rearranged : Rearranged { world with subscription := none } after) :
      ProjectorMove world after
  | listened {after : World} (subscription emptied : Subscription)
      (nothing : world.arrival? = none) (subscribed : world.subscription = some subscription)
      (received : subscription.receive world.bus = (none, emptied))
      (rearranged : Rearranged { world with subscription := some emptied } after) :
      ProjectorMove world after
  | lagged {after : World} {reason : BusError} (found : world.arrival? = some (.error reason)) :
      ProjectorMove world after
  | read {after : World} {envelope : Envelope} (subscription rest : Subscription)
      (found : world.arrival? = some (.ok envelope))
      (subscribed : world.subscription = some subscription)
      (received : subscription.receive world.bus = (some (.ok envelope), rest))
      (handled : ∀ next handle,
        receive { world with projector := .reading, subscription := some rest } envelope =
          .ok (next, handle) → after = next) : ProjectorMove world after

theorem projectorMove_readOn (world : World) {subscription : Subscription}
    (subscribed : world.subscription = some subscription)
    (looks : world.arrival? =
      if world.projectorStopped then none else (subscription.receive world.bus).1) :
    world.ProjectorMove (world.readOn subscription).1 := by
  unfold readOn
  by_cases stopped : world.projectorStopped = true
  · rw [if_pos stopped] at looks ⊢
    refine .stopped looks ?_
    unfold wakeCallerFor
    split <;> exact ⟨rfl, rfl, rfl, rfl, rfl⟩
  · rw [if_neg stopped] at looks ⊢
    cases received : subscription.receive world.bus with
    | mk answer rest =>
        rw [received] at looks
        cases answer with
        | none => exact .listened subscription rest looks subscribed received ⟨rfl, rfl, rfl, rfl, rfl⟩
        | some found =>
            cases found with
            | error reason => exact .lagged looks
            | ok envelope =>
                refine .read subscription rest looks subscribed received fun next handle accepted => ?_
                simp only [accepted]

theorem projectorMove (world : World) : world.ProjectorMove world.moveProjector.1 := by
  cases phase : world.projector with
  | absent =>
      simp only [moveProjector, phase]
      exact .still (by simp only [arrival?, phase])
  | ended =>
      simp only [moveProjector, phase]
      exact .still (by simp only [arrival?, phase])
  | reading =>
      cases subscribed : world.subscription with
      | none =>
          simp only [moveProjector, phase, subscribed]
          exact .still (by simp only [arrival?, phase, subscribed])
      | some subscription =>
          simp only [moveProjector, phase, subscribed]
          exact world.projectorMove_readOn subscribed (by simp only [arrival?, phase, subscribed])
  | listening =>
      cases subscribed : world.subscription with
      | none =>
          simp only [moveProjector, phase, subscribed]
          exact .still (by simp only [arrival?, phase, subscribed])
      | some subscription =>
          simp only [moveProjector, phase, subscribed]
          exact world.projectorMove_readOn subscribed (by simp only [arrival?, phase, subscribed])

/-! ### The notices -/

/-- An envelope that can be read reaches the notices as long as they are open. -/
theorem receive_of_event (world : World) {envelope : Envelope} {event : Event}
    (readable : envelope.event? = .ok event) (going : world.notices.closing = false) :
    ∃ next handle, world.receive envelope = .ok (next, handle) ∧
      Rearranged
        { world with
          notices := (EffectStore.accept noticeWorkshop world.notices (.received event)).1 }
        next := by
  simp only [receive, readable, send, EffectStore.send_of_going going]
  exact ⟨_, _, rfl, ⟨rfl, rfl, rfl, rfl, rfl⟩⟩

/-- What the next move of a delivery gives to the courier. -/
def beganBy (world : World) (task : Nat) : List Notice :=
  (world.notices.begunBy task).map Event.notice

theorem rearranged_moveDelivery (world : World) (task : Nat) :
    Rearranged
      { world with notices := (world.notices.turn noticeWorkshop task world.schedule.now).1 }
      (world.moveDelivery task).1 := by
  unfold moveDelivery EffectStore.takeTurn
  cases world.notices.turn noticeWorkshop task world.schedule.now with
  | mk notices answer =>
      cases answer with
      | absent => exact ⟨rfl, rfl, rfl, rfl, rfl⟩
      | asleep wakeAt => exact ⟨rfl, rfl, rfl, rfl, rfl⟩
      | ended handle started =>
          dsimp only
          unfold wakeCallerFor
          split <;> exact ⟨rfl, rfl, rfl, rfl, rfl⟩

end World

end BenefitCasework
