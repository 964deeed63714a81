import BenefitCasework.Envelope
import BenefitCasework.Text.Quoted

/-!
Contract: the bus that carries envelopes to those who subscribe to a topic.

Owns:
- `Bus.publish`, which accepts an envelope or says why not;
- `Subscription` and `Subscription.receive`, the envelopes of some topics from
  the moment of subscribing on. A topic keeps the last 1024 envelopes; who
  falls behind further learns how many were missed;
- `BusError`, the refusals.

A bus may be told to refuse calls, by their number or the next so many. Does
not own: trying again.
-/

namespace BenefitCasework

/-- Why the bus refuses. -/
inductive BusError where
  | publishFailed (topic reason : String)
  | subscriptionFailed (topics : List String) (reason : String)
  | lagged (skipped : Nat)
  | invalidTopic (topic : String)
  | closed
deriving DecidableEq, Repr

def BusError.message : BusError → String
  | .publishFailed topic reason => "Publish failed for topic '" ++ topic ++ "': " ++ reason
  | .subscriptionFailed topics reason =>
      "Subscription failed for topics " ++ Text.quotedList topics ++ ": " ++ reason
  | .lagged skipped => "Subscriber lagged, " ++ toString skipped ++ " events skipped"
  | .invalidTopic topic => "Invalid topic: " ++ topic
  | .closed => "Event bus closed"

/-- What the bus has accepted, oldest first, and what it is told to refuse. -/
structure Bus where
  accepted : List (String × Envelope)
  failures : Nat
  calls : Nat
  refusedCalls : List Nat

namespace Bus

def start (refusedCalls : List Nat) : Bus := ⟨[], 0, 0, refusedCalls⟩

/-- How many envelopes a topic keeps for those who subscribe to it. -/
def topicBuffer : Nat := 1024

def sent (bus : Bus) (topic : String) : List Envelope :=
  (bus.accepted.filter fun entry => entry.1 == topic).map Prod.snd

def publish (bus : Bus) (topic : String) (envelope : Envelope) : Bus × Except BusError Unit :=
  let called := { bus with calls := bus.calls + 1 }
  if bus.refusedCalls.contains bus.calls then
    (called, .error (.publishFailed topic ("call " ++ toString bus.calls ++ " refused")))
  else if topic.isEmpty then (called, .error (.invalidTopic topic))
  else match bus.failures with
    | failures + 1 =>
        ({ called with failures := failures }, .error (.publishFailed topic "injected failure"))
    | 0 => ({ called with accepted := bus.accepted ++ [(topic, envelope)] }, .ok ())

/-- Offers an envelope a number of times, its sequence growing by one each
time. The answer is the last refusal, if there was one. -/
def publishRow (topic : String) (envelope : Envelope) :
    Nat → Bus × Except BusError Unit → Bus × Except BusError Unit
  | 0, reached => reached
  | times + 1, (bus, answer) =>
      let next := { envelope with sequence := envelope.sequence + 1 }
      match bus.publish topic envelope with
      | (published, .ok ()) => publishRow topic next times (published, answer)
      | (refused, .error reason) => publishRow topic next times (refused, .error reason)

end Bus

/-- The place of a reader in a topic: how many envelopes lie behind it. -/
structure Feed where
  topic : String
  seen : Nat
deriving DecidableEq, Repr

namespace Feed

/-- What a feed reads: nothing yet, an envelope, or how many were missed. -/
def read (feed : Feed) (bus : Bus) : Option (Except BusError Envelope × Feed) :=
  let sent := bus.sent feed.topic
  let oldest := sent.length - Bus.topicBuffer
  if feed.seen < oldest then
    some (.error (.lagged (oldest - feed.seen)), { feed with seen := oldest })
  else match sent[feed.seen]? with
    | some envelope => some (.ok envelope, { feed with seen := feed.seen + 1 })
    | none => none

/-- The places on the bus of the envelopes of a topic. -/
def places (topic : String) : Nat → List (String × Envelope) → List Nat
  | _, [] => []
  | place, (other, _) :: rest =>
      if other == topic then place :: places topic (place + 1) rest
      else places topic (place + 1) rest

/-- The place on the bus of the first envelope that the feed has not read. -/
def firstUnread? (feed : Feed) (bus : Bus) : Option Nat :=
  (places feed.topic 0 bus.accepted)[feed.seen]?

end Feed

/-- The feeds of one subscriber: those that may have something, in the order
in which they are asked, and those that had nothing when they were asked. -/
structure Subscription where
  ready : List Feed
  waiting : List Feed
deriving DecidableEq, Repr

namespace Subscription

def start (bus : Bus) (topics : List String) : Except BusError Subscription :=
  if topics.isEmpty || topics.any String.isEmpty then
    .error (.subscriptionFailed topics "topic list must be non-empty")
  else .ok ⟨topics.map fun topic => ⟨topic, (bus.sent topic).length⟩, []⟩

/-- Puts a feed among others by the place of its first unread envelope. -/
def insertByPlace (place : Nat) (feed : Feed) : List (Nat × Feed) → List (Nat × Feed)
  | [] => [(place, feed)]
  | (other, present) :: rest =>
      if other ≤ place then (other, present) :: insertByPlace place feed rest
      else (place, feed) :: (other, present) :: rest

/-- The waiting feeds that have something to read by now, by its place. -/
def awakened (bus : Bus) : List Feed → List (Nat × Feed)
  | [] => []
  | feed :: rest =>
      match feed.firstUnread? bus with
      | some place => insertByPlace place feed (awakened bus rest)
      | none => awakened bus rest

/-- Moves the feeds that have something to read behind those that are ready. -/
def wake (subscription : Subscription) (bus : Bus) : Subscription :=
  ⟨subscription.ready ++ (awakened bus subscription.waiting.reverse).map Prod.snd,
    subscription.waiting.filter fun feed => (feed.firstUnread? bus).isNone⟩

/-- Asks the ready feeds in turn. One that has something goes to the back. -/
def ask (bus : Bus) : List Feed → List Feed → Option (Except BusError Envelope) × Subscription
  | waiting, [] => (none, ⟨[], waiting⟩)
  | waiting, feed :: rest =>
      match feed.read bus with
      | some (found, moved) => (some found, ⟨rest ++ [moved], waiting⟩)
      | none => ask bus (waiting ++ [feed]) rest

/-- What the subscriber receives next, if anything is there. -/
def receive (subscription : Subscription) (bus : Bus) :
    Option (Except BusError Envelope) × Subscription :=
  let awake := subscription.wake bus
  ask bus awake.waiting awake.ready

/-- What the subscriber receives in a row, at most so many times. -/
def receiveRow (bus : Bus) : Nat → Subscription → List (Except BusError Envelope) × Subscription
  | 0, subscription => ([], subscription)
  | times + 1, subscription =>
      match subscription.receive bus with
      | (none, rest) => ([], rest)
      | (some found, rest) =>
          let (others, last) := receiveRow bus times rest
          (found :: others, last)

end Subscription

end BenefitCasework
