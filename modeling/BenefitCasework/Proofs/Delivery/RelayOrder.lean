import BenefitCasework.Proofs.Delivery.RelayMoves
import BenefitCasework.Proofs.Delivery.Waits
import BenefitCasework.Proofs.Request.Run
import BenefitCasework.Proofs.Stream

/-!
Contract: the relay loses, doubles and reorders nothing within a request.

Owns:
- `RelayMove`, all that may happen to a relay: new events, the begin of a pass,
  and an answer of the bus;
- `Ledger`, a relay with all that was put into its outbox and all that the bus
  has accepted;
- `Ledger.Kept`, what every run keeps, and `relay_keeps_order`;
- `Ledger.live_run`, that no pass is unwound when the longest wait is not
  enormous, and `Ledger.live_of_resting`, that a pass which was is never over.

New events may come between any two moves of a pass, and the bus may answer
anything. A run comes to nothing more behind a panic: the pass that was unwound
stays under way with what it has in its hands. Does not own: how a pass ends.
-/

namespace BenefitCasework

/-- What may happen to a relay. -/
inductive RelayMove where
  | enqueue (events : List Event)
  | drain
  | replay
  | answer (reply : Except Setback Unit)

/-- A relay, all that was put into its outbox, and all that the bus accepted. -/
structure Ledger where
  relay : Relay
  enqueued : List Event
  accepted : List Envelope

namespace Ledger

def start (topic : String) (policy : RetryPolicy) (capacity : Nat) : Ledger :=
  ⟨.start topic policy capacity, [], []⟩

def move (ledger : Ledger) : RelayMove → Ledger
  | .enqueue events =>
      { ledger with
        relay := ledger.relay.enqueue events
        enqueued := ledger.enqueued ++ events }
  | .drain => { ledger with relay := ledger.relay.beginDrain.1 }
  | .replay => { ledger with relay := ledger.relay.beginReplay.1 }
  | .answer reply =>
      { ledger with
        relay := (ledger.relay.attempt reply).1
        accepted := ledger.accepted ++ ledger.relay.sentBy reply }

/-- What a row of moves does. -/
def run (ledger : Ledger) (moves : List RelayMove) : Ledger := moves.foldl move ledger

/-- On every stream, what was accepted and then what waits is what was put into
the outbox. -/
structure Kept (ledger : Ledger) : Prop where
  sound : ledger.relay.holdings.Sound
  free : ledger.relay.PublishesFree
  ordered : ∀ stream, onStream stream ledger.accepted ++ ledger.relay.holdings.ofStream stream =
    onStream stream (ledger.enqueued.map Event.envelope)

theorem kept_start (topic : String) (policy : RetryPolicy) (capacity : Nat) :
    (start topic policy capacity).Kept := by
  have nothing : (start topic policy capacity).relay.holdings = ⟨[], [], []⟩ := rfl
  have sound : Holdings.Sound ⟨[], [], []⟩ :=
    ⟨List.nodup_nil, fun stream => by simp, fun stream waiting stored => by simp at stored⟩
  exact ⟨nothing ▸ sound, trivial, fun stream => rfl⟩

/-- What is sent moves from what waits to what was accepted. -/
theorem Kept.send {ledger : Ledger} (kept : ledger.Kept) {sent : List Envelope} {relay : Relay}
    (reached : Relay.Reached ledger.relay.holdings sent relay) :
    Kept { ledger with relay := relay, accepted := ledger.accepted ++ sent } := by
  refine ⟨reached.1.1, reached.2, fun stream => ?_⟩
  rw [onStream_append, List.append_assoc, reached.1.2, kept.ordered]

theorem kept_move {ledger : Ledger} (kept : ledger.Kept) (step : RelayMove) :
    (ledger.move step).Kept := by
  cases step with
  | enqueue events =>
      refine ⟨?_, Relay.publishesFree_enqueue kept.free events, fun stream => ?_⟩
      · rw [move, Relay.holdings_enqueue]
        exact kept.sound.withUntried _
      · rw [move, Relay.holdings_enqueue, Holdings.ofStream_append_untried, ← List.append_assoc,
          kept.ordered, List.map_append, onStream_append]
  | drain =>
      have sent := kept.send (Relay.reached_beginDrain ledger.relay kept.sound kept.free)
      rwa [List.append_nil] at sent
  | replay =>
      have sent := kept.send (Relay.reached_beginReplay ledger.relay kept.sound kept.free)
      rwa [List.append_nil] at sent
  | answer reply =>
      exact kept.send (Relay.reached_attempt ledger.relay reply kept.sound kept.free)

theorem kept_run {ledger : Ledger} (kept : ledger.Kept) (moves : List RelayMove) :
    (ledger.run moves).Kept := by
  induction moves generalizing ledger with
  | nil => exact kept
  | cons step rest inductionHypothesis => exact inductionHypothesis (kept_move kept step)

/-- A move changes nothing of the setting but that the pass may be unwound. -/
theorem standing_move (ledger : Ledger) (step : RelayMove) :
    (ledger.move step).relay.standing =
      { ledger.relay.standing with unwound := (ledger.move step).relay.unwound } := by
  cases step with
  | enqueue events => rfl
  | drain => rw [← Relay.standing_beginDrain ledger.relay]; rfl
  | replay => rw [← Relay.standing_beginReplay ledger.relay]; rfl
  | answer reply => exact Relay.standing_attempt ledger.relay reply

theorem standing_run (ledger : Ledger) (moves : List RelayMove) :
    (ledger.run moves).relay.standing =
      { ledger.relay.standing with unwound := (ledger.run moves).relay.unwound } := by
  induction moves generalizing ledger with
  | nil => rfl
  | cons step rest inductionHypothesis =>
      have later := inductionHypothesis (ledger.move step)
      rw [standing_move] at later
      exact later

theorem policy_run (ledger : Ledger) (moves : List RelayMove) :
    (ledger.run moves).relay.policy = ledger.relay.policy :=
  congrArg Relay.Standing.policy (standing_run ledger moves)

/-! ### Panics -/

/-- Only a refused try with retries left and a wait that cannot be told unwinds a pass. -/
theorem live_move {ledger : Ledger} (live : ledger.relay.unwound = false) {step : RelayMove}
    (told : ∀ reply tried, step = .answer reply → ¬ ledger.relay.Stuck tried reply) :
    (ledger.move step).relay.unwound = false := by
  cases step with
  | enqueue events => exact live
  | drain => exact (Relay.unwound_beginDrain ledger.relay).trans live
  | replay => exact (Relay.unwound_beginReplay ledger.relay).trans live
  | answer reply =>
      simp only [move]
      cases under : ledger.relay.pass with
      | none => rw [Relay.attempt_of_resting under, live]
      | some pass =>
          rcases Relay.attempt_cases under reply with ⟨tally, -, -, moved⟩ |
            ⟨tally, wait, -, -, -, moved⟩ | ⟨tally, attempts, text, -, -, moved⟩ |
            ⟨unwound | stuck, -, -⟩
          · rw [moved]
            exact (Relay.unwound_published (ledger.relay.midway _ tally) _).trans live
          · rw [moved]
            exact live
          · rw [moved]
            exact (Relay.unwound_givenUp (ledger.relay.midway _ tally) _ _ _).trans live
          · rw [live] at unwound
            nomatch unwound
          · exact absurd stuck (told reply pass.attempt rfl)

/-- With a longest wait that is not enormous, no pass is ever unwound. -/
theorem live_run {ledger : Ledger} (live : ledger.relay.unwound = false)
    (short : ledger.relay.policy.maxDelay.seconds < 2 ^ 59) {moves : List RelayMove}
    (drawn : ∀ setback, .answer (.error setback) ∈ moves → Drawn setback.factor) :
    (ledger.run moves).relay.unwound = false := by
  induction moves generalizing ledger with
  | nil => exact live
  | cons step rest inductionHypothesis =>
      have liveNext : (ledger.move step).relay.unwound = false := by
        refine live_move live fun reply tried same stuck => ?_
        obtain ⟨-, setback, rfl, untold⟩ := stuck
        have some := RetryPolicy.isSome_delay? short
          (drawn setback (same ▸ List.mem_cons_self)) tried
        rw [untold] at some
        nomatch some
      refine inductionHypothesis liveNext ?_
        fun setback member => drawn setback (List.mem_cons_of_mem _ member)
      rw [show (ledger.move step).relay.policy = _ from policy_run ledger [step]]
      exact short

/-- A pass that was unwound is still under way. -/
def Steady (ledger : Ledger) : Prop := ledger.relay.unwound = true → ledger.relay.pass ≠ none

theorem steady_move {ledger : Ledger} (steady : ledger.Steady) (step : RelayMove) :
    (ledger.move step).Steady := by
  intro unwound
  cases under : ledger.relay.pass with
  | none =>
      -- At rest nothing was unwound, and no pass is unwound as it begins.
      have live : ledger.relay.unwound = false :=
        Bool.eq_false_iff.mpr fun before => steady before under
      have liveNext : (ledger.move step).relay.unwound = false := by
        cases step with
        | enqueue events => exact live
        | drain => exact (Relay.unwound_beginDrain ledger.relay).trans live
        | replay => exact (Relay.unwound_beginReplay ledger.relay).trans live
        | answer reply => simp only [move, Relay.attempt_of_resting under, live]
      rw [liveNext] at unwound
      nomatch unwound
  | some pass =>
      cases step with
      | enqueue events => simp [move, Relay.enqueue, under]
      | drain => simp [move, Relay.beginDrain, under]
      | replay => simp [move, Relay.beginReplay, under]
      | answer reply =>
          simp only [move] at unwound ⊢
          rcases Relay.attempt_cases under reply with ⟨tally, live, -, moved⟩ |
            ⟨tally, wait, -, -, -, moved⟩ | ⟨tally, attempts, text, live, -, moved⟩ | ⟨-, -, moved⟩
          · rw [moved, Relay.unwound_published] at unwound
            exact absurd (live.symm.trans unwound) Bool.false_ne_true
          · simp [moved, Relay.midway]
          · rw [moved, Relay.unwound_givenUp] at unwound
            exact absurd (live.symm.trans unwound) Bool.false_ne_true
          · simp [moved, Relay.unwind, under]

theorem steady_run {ledger : Ledger} (steady : ledger.Steady) (moves : List RelayMove) :
    (ledger.run moves).Steady := by
  induction moves generalizing ledger with
  | nil => exact steady
  | cons step rest inductionHypothesis => exact inductionHypothesis (steady_move steady step)

theorem Steady.live {ledger : Ledger} (steady : ledger.Steady)
    (resting : ledger.relay.pass = none) : ledger.relay.unwound = false :=
  Bool.eq_false_iff.mpr fun unwound => steady unwound resting

theorem steady_start (topic : String) (policy : RetryPolicy) (capacity : Nat) :
    (start topic policy capacity).Steady := fun unwound => absurd unwound Bool.false_ne_true

/-- Between two passes none has been unwound. -/
theorem live_of_resting {topic : String} {policy : RetryPolicy} {capacity : Nat}
    {moves : List RelayMove}
    (resting : ((start topic policy capacity).run moves).relay.pass = none) :
    ((start topic policy capacity).run moves).relay.unwound = false :=
  (steady_run (steady_start topic policy capacity) moves).live resting

end Ledger

theorem onStream_envelopes (request : Identifier) (events : List Event) :
    onStream (requestStream request) (events.map Event.envelope) =
      (events.filter fun event => decide (event.request = request)).map Event.envelope := by
  rw [onStream, List.filter_map]
  congr 1
  apply List.filter_congr
  intro event _
  have same : event.envelope.stream = requestStream request ↔ event.request = request :=
    requestStream_injective.eq_iff
  simp [same]

namespace Sample

/-- No second tries. -/
def onceOnly : RetryPolicy := ⟨0, .zero, .zero, ⟨0⟩, false⟩

/-- The bus is closed. -/
def shut : Setback := .full .closed

def refused : Except Setback Unit := .error shut

/-- An announcement with its number. -/
def numbered (event : Event) (sequence : UInt64) : Event := { event with sequence := sequence }

/-- An announcement for another request. -/
def foreign : Event := { opening with request := .numbered 7 }

/-- With room for one letter, the first of three announcements of a request is
parked, and the pass stops at the one of another request. Then the first goes
out, and the second takes its place. -/
def troubles : List RelayMove :=
  [.enqueue [opening, numbered opening 2, foreign], .drain, .answer refused,
    .enqueue [numbered opening 3], .answer refused, .replay, .answer (.ok ()), .answer refused]

end Sample

/-- Behind the second refusal no wait of a boundless policy can be told. The pass is
unwound, and the announcement that it had in its hands is in none of the queues. -/
example :
    let ledger := (Ledger.start "requests" Sample.boundless 1).run
      [.enqueue [Sample.opening], .drain, .answer Sample.refused, .answer Sample.refused]
    ledger.relay.unwound = true ∧ ledger.accepted = [] ∧ ledger.relay.outbox = [] ∧
      ledger.relay.held = [] ∧ payloads ledger.relay.letters.letters = [] := by decide +kernel

end BenefitCasework
