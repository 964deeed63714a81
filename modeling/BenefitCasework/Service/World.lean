import BenefitCasework.Delivery.Relay
import BenefitCasework.Desk
import BenefitCasework.Effect.Turns
import BenefitCasework.Notice.Courier
import BenefitCasework.Timeline.Lock

/-!
Contract: the whole service as one value.

Owns:
- `World`, the desk, the relay, the bus and the notices, with the workers that
  carry events from one to the next;
- the calls of the desk, whose events go into the relay's outbox and ring the
  bell of the runner;
- `World.publish`, which wakes the projector when it listens to the topic;
- `World.receive`, which hands an envelope to the notices;
- `World.tally`, everything that was counted.

The desk borrows the outbox of the relay for the time of a call. Does not own:
the turns of the workers, and what the caller waits for.
-/

namespace BenefitCasework

/-- Those who work beside the caller: the runner drains the outbox, the
projector reads the bus, and each delivery hands over one notice. -/
inductive Worker where
  | runner
  | projector
  | delivery (task : Nat)
deriving DecidableEq, Repr

/-- What the runner does. The last pass is the one behind its stop. A pass
makes its next try at a time; a rest ends at a time only behind a pass that
stalled. -/
inductive RunnerPhase where
  | absent
  | asking (last : Bool)
  | queued (last : Bool)
  | passing (last : Bool) (tryAt : Nat)
  | resting (wakeAt : Option Nat) (belled : Bool)
  | ended
deriving DecidableEq, Repr

/-- What the projector does. -/
inductive ProjectorPhase where
  | absent
  | reading
  | listening
  | ended
deriving DecidableEq, Repr

/-- The two kinds of passes of the relay. -/
inductive PassKind where
  | drain
  | replay
deriving DecidableEq, Repr

/-- What the caller waits for: something of the notices' store, a pass of its
own, or the end of a worker that it stops. -/
inductive Errand where
  | store (errand : StoreErrand)
  | asking (kind : PassKind)
  | queued (kind : PassKind)
  | passing (tryAt : Nat)
  | stoppingRunner (stopAt : Nat)
  | joiningRunner
  | stoppingProjector (stopAt : Nat)
  | joiningProjector
deriving DecidableEq, Repr

/-- The whole service. -/
structure World where
  moment : Instant
  drawn : Nat
  desk : Desk
  relay : Relay
  bus : Bus
  notices : NoticeStore
  subscription : Option Subscription
  schedule : Schedule Worker
  lock : Lock Worker
  bell : Bool
  runner : RunnerPhase
  runnerStopped : Bool
  projector : ProjectorPhase
  projectorStopped : Bool
  errand : Option Errand
  report : Option PassReport
  outcome : Except StoreError Unit

namespace World

def start (moment : Instant) (desk : Desk) (relay : Relay) (bus : Bus) (courier : Courier) : World :=
  { moment := moment
    drawn := 0
    desk := desk
    relay := relay
    bus := bus
    notices := .start .empty courier
    subscription := none
    schedule := .start
    lock := .free
    bell := false
    runner := .absent
    runnerStopped := false
    projector := .absent
    projectorStopped := false
    errand := none
    report := none
    outcome := .ok () }

def taken (world : World) : Nat := world.drawn + world.relay.taken

def discard (world : World) : World := { world with drawn := world.drawn + 1 }

def withFullAudit (world : World) (isFull : Bool) : World :=
  { world with desk :=
      { world.desk with recorder := { world.desk.recorder with isFull := isFull } } }

def withChannels (world : World) (channels : ChannelTable) : World :=
  { world with desk :=
      { world.desk with office := { world.desk.office with channels := channels } } }

/-- Sets the gates for a type of benefit. The answer is their revision. -/
def configure (world : World) (benefitType : String) (gates : List Gate) :
    Except RouteError (UInt32 × World) :=
  match world.desk.routes.configure benefitType gates with
  | .ok (revision, routes) => .ok (revision, { world with desk := { world.desk with routes := routes } })
  | .error reason => .error reason

def withFailures (world : World) (failures : Nat) : World :=
  { world with bus := { world.bus with failures := failures } }

def wake (world : World) (who : Who Worker) : World :=
  { world with schedule := world.schedule.wake who }

def arm (world : World) (who : Who Worker) (time : Nat) : World :=
  { world with schedule := world.schedule.arm who time }

/-- Rings the bell of the outbox. A runner at rest wakes; otherwise the next
rest ends at once. -/
def ring (world : World) : World :=
  match world.runner with
  | .resting wakeAt false =>
      { world with runner := .resting wakeAt true }.wake (.worker .runner)
  | _ => { world with bell := true }

def enqueue (world : World) (events : List Event) : World :=
  let filled := { world with relay := world.relay.enqueue events }
  if events.isEmpty then filled else filled.ring

def pop (world : World) : Option Event × World :=
  match world.relay.outbox with
  | [] => (none, world)
  | event :: rest => (some event, { world with relay := { world.relay with outbox := rest } })

/-- A call at the desk, which has the outbox for the time of the call. -/
def call (world : World) (serve : Desk → (Nat → Identifier) → Reply) :
    World × Except RequestError (Request × List Event) :=
  let reply := serve { world.desk with outbox := world.relay.outbox } (Identifier.fresh world.taken)
  let served := { world with
    desk := { reply.desk with outbox := [] }
    relay := { world.relay with outbox := reply.desk.outbox }
    drawn := world.drawn + reply.taken }
  let rung := if world.relay.outbox.length < reply.desk.outbox.length then served.ring else served
  (rung, reply.result)

def create (world : World) (caller : Caller) (new : NewRequest) :
    World × Except RequestError (Request × List Event) :=
  world.call fun desk fresh => desk.create ⟨caller, world.moment⟩ new fresh

def perform (world : World) (caller : Caller) (id : Identifier) (expected : UInt64)
    (operation : Operation) : World × Except RequestError (Request × List Event) :=
  world.call fun desk fresh => desk.perform ⟨caller, world.moment⟩ id expected operation fresh

/-- Offers an envelope to the bus. A projector that listens to the topic wakes
when it is accepted. -/
def publish (world : World) (topic : String) (envelope : Envelope) :
    World × Except BusError Unit :=
  match world.bus.publish topic envelope with
  | (bus, .error reason) => ({ world with bus := bus }, .error reason)
  | (bus, .ok ()) =>
      let carried := { world with bus := bus }
      if world.projector = .listening ∧ topic = world.relay.topic then
        (carried.wake (.worker .projector), .ok ())
      else (carried, .ok ())

/-- Offers an envelope to the bus a number of times. The answer is the last
one of the bus. -/
def publishTimes (world : World) (topic : String) (envelope : Envelope) :
    Nat → Except BusError Unit → World × Except BusError Unit
  | 0, answer => (world, answer)
  | times + 1, _ =>
      let (offered, answer) := world.publish topic envelope
      offered.publishTimes topic envelope times answer

/-- Sends an action to the notices. The answer is the handle of its tasks. -/
def send (world : World) (action : NoticeAction) : Except StoreError (World × Nat) :=
  match world.notices.send noticeWorkshop action with
  | .error reason => .error reason
  | .ok (notices, handle, started) =>
      .ok ({ world with
        notices := notices
        schedule := EffectStore.wakeTasks Worker.delivery world.schedule started }, handle)

/-- Hands an envelope to the notices. -/
def receive (world : World) (envelope : Envelope) : Except NoticeError (World × Nat) :=
  match envelope.event? with
  | .error reason => .error (.unreadable reason.message)
  | .ok event =>
      match world.send (.received event) with
      | .error reason => .error (.store reason)
      | .ok reached => .ok reached

def tally (world : World) : Tally :=
  let projection := world.notices.state
  (world.desk.tally ++ world.desk.recorder.tally ++ world.relay.tally ++ world.notices.tally ++
    [(.noticesDelivered, projection.delivered), (.noticesSkipped, projection.skipped),
      (.lettersWaiting, world.relay.letters.size)] : Tally).entries

/-- The projector in one line, while it has not started. -/
def projectorText (world : World) : Option String :=
  match world.projector with
  | .absent => some ("NotificationProjector \x7b topic: " ++ Text.quoted world.relay.topic ++
      ", .. \x7d")
  | _ => none

end World

end BenefitCasework
