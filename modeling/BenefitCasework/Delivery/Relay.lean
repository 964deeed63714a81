import BenefitCasework.Delivery.Bus
import BenefitCasework.Delivery.DeadLetters
import BenefitCasework.Delivery.Retry
import BenefitCasework.Metric

/-!
Contract: the relay that carries events from the outbox to the bus.

Owns:
- `Relay`, the outbox, the letters that could not be delivered, the envelopes
  held behind them, and the pass under way;
- `Relay.beginDrain` and `Relay.beginReplay`, which begin a pass;
- `Setback`, a refused try, and `Relay.attempt`, what one answer of the bus does
  to the pass under way;
- `Relay.drainFrom_cons`, that every event can be written.

A pass is a row of small moves, so that events may enter the outbox between
any two of them. An event whose request has a parked event is held; a parked
event frees its successors only when it has gone out. When there is no room
for another letter, the event goes back to the front of the outbox and the
pass stops. A wait that cannot be told unwinds the pass, which is a panic; what
is done with the relay behind it is not described. Does not own: the bus itself,
and the time between two tries.
-/

namespace BenefitCasework

/-- The counts of a pass over the outbox. -/
structure DrainReport where
  published : Nat
  parked : Nat
  held : Nat
  unwritable : Nat
  stalled : Bool
deriving DecidableEq, Repr

def DrainReport.start : DrainReport := ⟨0, 0, 0, 0, false⟩

/-- The counts of a pass over the parked letters. -/
structure ReplayReport where
  replayed : Nat
  released : Nat
  stillParked : Nat
deriving DecidableEq, Repr

def ReplayReport.start : ReplayReport := ⟨0, 0, 0⟩

/-- What a finished pass reports. -/
inductive PassReport where
  | drained (report : DrainReport)
  | replayed (report : ReplayReport)
deriving DecidableEq, Repr

/-- An envelope that could not be delivered. -/
abbrev Letter := DeadLetter Envelope

/-- What a pass over the parked letters has still to do, and has done. -/
structure ReplayWork where
  rest : List Letter
  failing : List Letter
  report : ReplayReport
deriving DecidableEq

/-- Where the envelope that is being published comes from. -/
inductive Source where
  | outbox (event : Event) (report : DrainReport)
  | parked (letter : Letter) (work : ReplayWork)
  | held (envelope : Envelope) (work : ReplayWork)
deriving DecidableEq

def Source.envelope : Source → Envelope
  | .outbox event _ => event.envelope
  | .parked letter _ => letter.payload
  | .held envelope _ => envelope

/-- A pass under way: what is being published, and how many tries have failed. -/
structure Pass where
  source : Source
  attempt : UInt32
deriving DecidableEq

/-- A refused try: why, and the factor that jitter draws for the wait behind it. -/
structure Setback where
  reason : BusError
  factor : Float
deriving DecidableEq, Repr

/-- The full wait is drawn. -/
def Setback.full (reason : BusError) : Setback := ⟨reason, 1.0⟩

/-- The relay with everything that waits in it. When a pass was unwound, it is
still the one under way, with all that it had in its hands. -/
structure Relay where
  topic : String
  policy : RetryPolicy
  outbox : List Event
  held : Table String (List Envelope)
  letters : DeadLetters Envelope
  pass : Option Pass
  tally : Tally
  taken : Nat
  unwound : Bool

/-- What a move of the relay leads to. -/
inductive Progress where
  | idle
  | publishing
  | waiting (wait : Duration)
  | unwound
  | finished (report : PassReport)
deriving DecidableEq, Repr

namespace Relay

def start (topic : String) (policy : RetryPolicy) (capacity : Nat) : Relay :=
  ⟨topic, policy, [], [], .ofCapacity capacity, none, [], 0, false⟩

def enqueue (relay : Relay) (events : List Event) : Relay :=
  { relay with outbox := relay.outbox ++ events }

def heldCount (relay : Relay) : Nat := relay.held.foldl (fun count entry => count + entry.2.length) 0

def finish (relay : Relay) (report : PassReport) : Relay × Progress :=
  ({ relay with pass := none }, .finished report)

def publish (relay : Relay) (source : Source) : Relay × Progress :=
  ({ relay with pass := some ⟨source, 0⟩ }, .publishing)

/-- The pass under way is unwound. -/
def unwind (relay : Relay) : Relay × Progress := ({ relay with unwound := true }, .unwound)

/-- The pass that asks for the next answer of the bus. -/
def asking (relay : Relay) : Option Pass := if relay.unwound then none else relay.pass

/-- Where a relay stands that asks for no answer. -/
def unasked (relay : Relay) : Progress := if relay.unwound then .unwound else .idle

/-- Holds an envelope behind the others of its stream. -/
def hold (relay : Relay) (envelope : Envelope) (waiting : List Envelope) : Relay :=
  { relay with
    held := relay.held.set envelope.stream (waiting ++ [envelope])
    tally := relay.tally.bump .held }

/-- Takes events out of the outbox until one is to be published. An event that
cannot be written is dropped. -/
def drainFrom (relay : Relay) (report : DrainReport) : List Event → Relay × Progress
  | [] => { relay with outbox := [] }.finish (.drained report)
  | event :: rest =>
      let taken := { relay with taken := relay.taken + 1 }
      match event.serialize with
      | .error _ =>
          { taken with tally := taken.tally.bump .publishFailures }.drainFrom
            { report with unwritable := report.unwritable + 1 } rest
      | .ok envelope =>
          match relay.held.get? envelope.stream with
          | some waiting =>
              (taken.hold envelope waiting).drainFrom { report with held := report.held + 1 } rest
          | none => { taken with outbox := rest }.publish (.outbox event report)

/-- No event is dropped: each one is held or published. -/
theorem drainFrom_cons (relay : Relay) (report : DrainReport) (event : Event)
    (rest : List Event) :
    relay.drainFrom report (event :: rest) =
      match relay.held.get? event.envelope.stream with
      | some waiting =>
          ({ relay with taken := relay.taken + 1 }.hold event.envelope waiting).drainFrom
            { report with held := report.held + 1 } rest
      | none =>
          { relay with taken := relay.taken + 1, outbox := rest }.publish
            (.outbox event report) := rfl

def drainOn (relay : Relay) (report : DrainReport) : Relay × Progress :=
  relay.drainFrom report relay.outbox

/-- Begins a pass over the outbox, unless a pass is under way. -/
def beginDrain (relay : Relay) : Relay × Progress :=
  if relay.pass.isSome then (relay, .idle) else relay.drainOn .start

/-- Goes on with the next parked letter, or puts back those that failed again. -/
def replayOn (relay : Relay) (work : ReplayWork) : Relay × Progress :=
  match work.rest with
  | letter :: rest => relay.publish (.parked letter { work with rest := rest })
  | [] =>
      { relay with letters := relay.letters.restore work.failing }.finish
        (.replayed { work.report with stillParked := work.failing.length })

/-- Goes on with what is held behind a letter that has gone out. -/
def releaseOn (relay : Relay) (stream : String) (work : ReplayWork) : Relay × Progress :=
  match relay.held.get? stream with
  | some (envelope :: waiting) =>
      { relay with held := relay.held.set stream waiting }.publish (.held envelope work)
  | _ => { relay with held := relay.held.erase stream }.replayOn work

/-- Begins a pass over the parked letters, unless a pass is under way. -/
def beginReplay (relay : Relay) : Relay × Progress :=
  if relay.pass.isSome then (relay, .idle)
  else { relay with letters := relay.letters.emptied }.replayOn
    ⟨relay.letters.letters, [], .start⟩

def countPublished (relay : Relay) (envelope : Envelope) (attempts : UInt32) : Relay :=
  let counted := relay.tally.bump (.published envelope.kind)
  { relay with tally :=
      if 1 < attempts then counted.add .publishRetries (attempts.toNat - 1) else counted }

def countGivenUp (relay : Relay) (attempts : UInt32) : Relay :=
  { relay with tally :=
      (relay.tally.bump .publishFailures).add .publishRetries (attempts.toNat - 1) }

/-- Goes on after an envelope went out. -/
def published (relay : Relay) : Source → Relay × Progress
  | .outbox _ report => relay.drainOn { report with published := report.published + 1 }
  | .parked letter work =>
      let report := { work.report with replayed := work.report.replayed + 1 }
      { relay with tally := relay.tally.bump .replayed }.releaseOn letter.payload.stream
        { work with report := report }
  | .held envelope work =>
      let report := { work.report with released := work.report.released + 1 }
      relay.releaseOn envelope.stream { work with report := report }

/-- The sum of two counts of tries, at most the largest count. -/
def addAttempts (left right : UInt32) : UInt32 :=
  UInt32.ofNat (min (left.toNat + right.toNat) (UInt32.size - 1))

/-- Marks a stream as blocked by a parked letter. -/
def block (relay : Relay) (stream : String) : Relay :=
  match relay.held.get? stream with
  | some _ => relay
  | none => { relay with held := relay.held.set stream [] }

/-- Goes on after an envelope was given up. -/
def givenUp (relay : Relay) (source : Source) (attempts : UInt32) (reason : String) :
    Relay × Progress :=
  match source with
  | .outbox event report =>
      match relay.letters.push ⟨event.envelope, attempts, reason⟩ with
      | some letters =>
          ({ relay with letters := letters }.block event.envelope.stream).drainOn
            { report with parked := report.parked + 1 }
      | none =>
          { relay with
            outbox := event :: relay.outbox
            tally := relay.tally.bump .lettersRefused }.finish
              (.drained { report with stalled := true })
  | .parked letter work =>
      relay.replayOn { work with
        failing := work.failing ++ [⟨letter.payload, addAttempts letter.attempts attempts, reason⟩] }
  | .held envelope work =>
      relay.replayOn { work with failing := work.failing ++ [⟨envelope, attempts, reason⟩] }

/-- What one answer of the bus does to the pass under way. -/
def attempt (relay : Relay) (answer : Except Setback Unit) : Relay × Progress :=
  match relay.asking with
  | none => (relay, relay.unasked)
  | some pass =>
      match answer with
      | .ok () => (relay.countPublished pass.source.envelope (pass.attempt + 1)).published pass.source
      | .error setback =>
          match relay.policy.verdict setback.factor pass.attempt with
          | .again wait =>
              ({ relay with
                  pass := some { pass with attempt := pass.attempt + 1 }
                  tally := relay.tally.bump (.retryAttempts "publish_event") }, .waiting wait)
          | .giveUp attempts =>
              (relay.countGivenUp attempts).givenUp pass.source attempts setback.reason.message
          | .unwind => relay.unwind

def text (relay : Relay) : String :=
  "EventRelay \x7b topic: " ++ Text.quoted relay.topic ++ ", policy: " ++ relay.policy.text ++
    ", pending: " ++ Text.natural relay.outbox.length ++ ", held: " ++
    Text.natural relay.heldCount ++ ", .. \x7d"

end Relay

end BenefitCasework
