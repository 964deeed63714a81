import BenefitCasework.Delivery.Relay
import BenefitCasework.Proofs.Delivery.Holdings

/-!
Contract: what each move of the relay does to the envelopes that wait in it.

Owns:
- `Relay.holdings`, where everything is that waits in a relay, also in the
  middle of a pass;
- `Relay.Reached`, some of what waited was sent, and a relay is left with the
  rest;
- `Relay.attempt_cases`, what one answer of the bus can lead to: the envelope has
  gone out, it is tried again, it is given up, or the pass is unwound;
- one statement for each part of a pass, and from them for an answer of the bus and
  the begin of a pass;
- `Relay.standing`, what a relay is set up with, and that no move changes it but
  for a pass that is unwound.

What the bus answers is left open throughout. Does not own: runs of many moves,
and how many envelopes a pass moves.
-/

namespace BenefitCasework

def payloads (letters : List Letter) : List Envelope := letters.map DeadLetter.payload

@[simp]
theorem payloads_append (front back : List Letter) :
    payloads (front ++ back) = payloads front ++ payloads back := List.map_append

@[simp]
theorem length_payloads (letters : List Letter) : (payloads letters).length = letters.length :=
  List.length_map ..

namespace Relay

def untried (relay : Relay) : List Envelope := relay.outbox.map Event.envelope

/-- What waits while a pass over the letters has some of them in hand. -/
def replaying (relay : Relay) (work : ReplayWork) (inHand : List Envelope) : Holdings :=
  ⟨payloads work.failing ++ (inHand ++ (payloads work.rest ++ payloads relay.letters.letters)),
    relay.held, relay.untried⟩

/-- What waits in a relay. The envelope of the pass under way is untried when
it comes from the outbox, and blocks its stream otherwise. -/
def holdings (relay : Relay) : Holdings :=
  match relay.pass with
  | none => ⟨payloads relay.letters.letters, relay.held, relay.untried⟩
  | some ⟨.outbox event _, _⟩ =>
      ⟨payloads relay.letters.letters, relay.held, event.envelope :: relay.untried⟩
  | some ⟨.parked letter work, _⟩ => relay.replaying work [letter.payload]
  | some ⟨.held envelope work, _⟩ => relay.replaying work [envelope]

/-- What is published from the outbox is not to be held. -/
def PublishesFree (relay : Relay) : Prop :=
  match relay.pass with
  | some ⟨.outbox event _, _⟩ => relay.held.get? event.envelope.stream = none
  | _ => True

/-- From some holdings envelopes are sent, and the rest stays with a relay. -/
def Reached (before : Holdings) (sent : List Envelope) (relay : Relay) : Prop :=
  before.Sends sent relay.holdings ∧ relay.PublishesFree

/-! ### The parts of a pass -/

theorem reached_drainFrom (events : List Event) (relay : Relay) (report : DrainReport)
    (sound : Holdings.Sound
      ⟨payloads relay.letters.letters, relay.held, events.map Event.envelope⟩) :
    Reached ⟨payloads relay.letters.letters, relay.held, events.map Event.envelope⟩ []
      (relay.drainFrom report events).1 := by
  -- The events that are held make up a prefix; the first other one is published.
  induction events generalizing relay report with
  | nil => exact ⟨.refl sound, trivial⟩
  | cons event rest inductionHypothesis =>
      rw [drainFrom_cons]
      cases found : relay.held.get? event.envelope.stream with
      | none => exact ⟨.refl sound, found⟩
      | some waiting =>
          have held := Holdings.sends_hold sound found
          have later := inductionHypothesis
            ({ relay with taken := relay.taken + 1 }.hold event.envelope waiting)
            { report with held := report.held + 1 } held.1
          exact ⟨held.trans later.1, later.2⟩

theorem reached_replayOn (relay : Relay) (work : ReplayWork)
    (sound : (relay.replaying work []).Sound) :
    Reached (relay.replaying work []) [] (relay.replayOn work).1 := by
  obtain ⟨rest, failing, report⟩ := work
  cases rest with
  | nil =>
      have ended : (relay.replayOn ⟨[], failing, report⟩).1.holdings =
          relay.replaying ⟨[], failing, report⟩ [] := by
        simp [replayOn, finish, holdings, replaying, DeadLetters.restore, payloads, untried]
      refine ⟨?_, trivial⟩
      rw [ended]
      exact .refl sound
  | cons letter rest => exact ⟨.refl sound, trivial⟩

/-- Behind an envelope that went out, what is held next goes out, or its stream
is free. -/
theorem reached_releaseOn (relay : Relay) (work : ReplayWork) (envelope : Envelope)
    (sound : (relay.replaying work [envelope]).Sound) :
    Reached (relay.replaying work [envelope]) [envelope]
      (relay.releaseOn envelope.stream work).1 := by
  -- The envelope was blocking its stream, so there is a place to look for the next one.
  have blocked : (relay.held.get? envelope.stream).isSome = true := by
    apply (sound.blocked envelope.stream).mpr
    simp [replaying]
  obtain ⟨waiting, found⟩ := Option.isSome_iff_exists.mp blocked
  unfold releaseOn
  rw [found]
  cases waiting with
  | cons next waiting => exact ⟨Holdings.sends_release sound found, trivial⟩
  | nil =>
      have freed := Holdings.sends_unblock sound found
      have later := reached_replayOn
        { relay with held := relay.held.erase envelope.stream } work freed.1
      exact ⟨freed.trans later.1, later.2⟩

theorem reached_published (relay : Relay) {source : Source} {attempt : UInt32}
    (under : relay.pass = some ⟨source, attempt⟩) (sound : relay.holdings.Sound)
    (free : relay.PublishesFree) :
    Reached relay.holdings [source.envelope] (relay.published source).1 := by
  cases source with
  | outbox event report =>
      simp only [holdings, under] at sound ⊢
      simp only [PublishesFree, under] at free
      have sent := Holdings.sends_untried sound free
      have later := reached_drainFrom relay.outbox relay
        { report with published := report.published + 1 } sent.1
      exact ⟨sent.trans later.1, later.2⟩
  | parked letter work =>
      simp only [holdings, under] at sound ⊢
      exact reached_releaseOn { relay with tally := relay.tally.bump .replayed }
        { work with report := _ } letter.payload sound
  | held envelope work =>
      simp only [holdings, under] at sound ⊢
      exact reached_releaseOn relay { work with report := _ } envelope sound

theorem replaying_append_failing (relay : Relay) (work : ReplayWork) (letter : Letter) :
    relay.replaying { work with failing := work.failing ++ [letter] } [] =
      relay.replaying work [letter.payload] := by
  simp [replaying, payloads]

theorem reached_park (relay : Relay) (event : Event) (report : DrainReport) {letter : Letter}
    (same : letter.payload = event.envelope)
    (sound : Holdings.Sound
      ⟨payloads relay.letters.letters, relay.held, event.envelope :: relay.untried⟩)
    (free : relay.held.get? event.envelope.stream = none) :
    Reached ⟨payloads relay.letters.letters, relay.held, event.envelope :: relay.untried⟩ []
      (({ relay with
          letters := { relay.letters with letters := relay.letters.letters ++ [letter] } }.block
        event.envelope.stream).drainOn report).1 := by
  have parked := Holdings.sends_park sound free
  have stays : payloads (relay.letters.letters ++ [letter]) =
      payloads relay.letters.letters ++ [event.envelope] := by
    rw [payloads_append, ← same]
    rfl
  rw [← stays] at parked
  simp only [block, free]
  have later := reached_drainFrom relay.outbox
    { relay with
      letters := { relay.letters with letters := relay.letters.letters ++ [letter] }
      held := relay.held.set event.envelope.stream [] } report parked.1
  exact ⟨parked.trans later.1, later.2⟩

theorem reached_givenUp (relay : Relay) {source : Source} {attempt : UInt32}
    (under : relay.pass = some ⟨source, attempt⟩) (sound : relay.holdings.Sound)
    (free : relay.PublishesFree) (attempts : UInt32) (reason : String) :
    Reached relay.holdings [] (relay.givenUp source attempts reason).1 := by
  cases source with
  | outbox event report =>
      simp only [holdings, under] at sound ⊢
      simp only [PublishesFree, under] at free
      by_cases full : relay.letters.isFull = true
      · -- Back at the front of the outbox, the event waits where it was counted already.
        simp only [givenUp, DeadLetters.push, full, if_true]
        exact ⟨.refl sound, trivial⟩
      · simp only [givenUp, DeadLetters.push, full]
        exact reached_park relay event { report with parked := report.parked + 1 } rfl sound free
  | parked letter work =>
      simp only [holdings, under] at sound ⊢
      rw [← replaying_append_failing relay work
        ⟨letter.payload, addAttempts letter.attempts attempts, reason⟩] at sound ⊢
      exact reached_replayOn relay _ sound
  | held envelope work =>
      simp only [holdings, under] at sound ⊢
      rw [← replaying_append_failing relay work ⟨envelope, attempts, reason⟩] at sound ⊢
      exact reached_replayOn relay _ sound

/-! ### One answer of the bus -/

/-- Only what a pass has in hand, and the counts, are not as they were. -/
def midway (relay : Relay) (pass : Option Pass) (tally : Tally) : Relay :=
  { relay with pass := pass, tally := tally }

/-- What goes out with an answer of the bus: what was being published, if it is
accepted. -/
def sentBy (relay : Relay) (answer : Except Setback Unit) : List Envelope :=
  match relay.asking, answer with
  | some pass, .ok () => [pass.source.envelope]
  | _, _ => []

section Answer

variable {relay : Relay} {source : Source} {tried : UInt32}

theorem asking_of_resting (resting : relay.pass = none) : relay.asking = none := by
  rw [asking, resting, ite_self]

theorem asking_of_live (live : relay.unwound = false) : relay.asking = relay.pass := by
  rw [asking, live]
  rfl

theorem asking_of_unwound (unwound : relay.unwound = true) : relay.asking = none := if_pos unwound

/-- Nobody asks for the answers that a relay at rest gets. -/
theorem attempt_of_resting (resting : relay.pass = none) (answer : Except Setback Unit) :
    (relay.attempt answer).1 = relay := by
  simp only [attempt, asking_of_resting resting]

theorem sentBy_of_resting (resting : relay.pass = none) (answer : Except Setback Unit) :
    relay.sentBy answer = [] := by
  simp only [sentBy, asking_of_resting resting]

/-- Behind a panic nothing is done any more. -/
theorem attempt_of_unwound (unwound : relay.unwound = true) (answer : Except Setback Unit) :
    relay.attempt answer = relay.unwind := by
  have same : { relay with unwound := true } = relay := by rw [← unwound]
  simp only [attempt, asking_of_unwound unwound, unasked, unwound, if_true, unwind, same]

theorem attempt_of_accepted (under : relay.pass = some ⟨source, tried⟩)
    (live : relay.unwound = false) :
    relay.attempt (.ok ()) = (relay.countPublished source.envelope (tried + 1)).published source := by
  simp only [attempt, asking_of_live live, under]

theorem attempt_of_taken (under : relay.pass = some ⟨source, tried⟩)
    (live : relay.unwound = false) :
    ∃ tally, relay.attempt (.ok ()) = (relay.midway relay.pass tally).published source :=
  ⟨(relay.countPublished source.envelope (tried + 1)).tally, attempt_of_accepted under live⟩

/-- A refused try is followed by another one while retries are left, if the wait can
be told. -/
theorem attempt_of_retry (under : relay.pass = some ⟨source, tried⟩)
    (live : relay.unwound = false) (left : tried < relay.policy.maxRetries) (setback : Setback)
    {wait : Duration} (told : relay.policy.delay? setback.factor tried = some wait) :
    ∃ tally, relay.attempt (.error setback) =
      (relay.midway (some ⟨source, tried + 1⟩) tally, .waiting wait) := by
  have again := RetryPolicy.verdict_of_told left told
  simp only [attempt, asking_of_live live, under, again]
  exact ⟨_, rfl⟩

theorem attempt_of_untold (under : relay.pass = some ⟨source, tried⟩)
    (live : relay.unwound = false) (left : tried < relay.policy.maxRetries) {setback : Setback}
    (untold : relay.policy.delay? setback.factor tried = none) :
    relay.attempt (.error setback) = relay.unwind := by
  have unwinds := RetryPolicy.verdict_of_untold left untold
  simp only [attempt, asking_of_live live, under, unwinds]

theorem attempt_of_last (under : relay.pass = some ⟨source, tried⟩)
    (live : relay.unwound = false) (spent : relay.policy.maxRetries ≤ tried) (setback : Setback) :
    relay.attempt (.error setback) =
      (relay.countGivenUp (tried + 1)).givenUp source (tried + 1) setback.reason.message := by
  have last := RetryPolicy.verdict_of_spent spent setback.factor
  simp only [attempt, asking_of_live live, under, last]

theorem attempt_of_spent (under : relay.pass = some ⟨source, tried⟩)
    (live : relay.unwound = false) (spent : relay.policy.maxRetries ≤ tried) (setback : Setback) :
    ∃ tally attempts text, relay.attempt (.error setback) =
      (relay.midway relay.pass tally).givenUp source attempts text :=
  ⟨(relay.countGivenUp (tried + 1)).tally, tried + 1, setback.reason.message,
    attempt_of_last under live spent setback⟩

/-- A try was refused, retries are left, and the wait behind it cannot be told. -/
def Stuck (relay : Relay) (tried : UInt32) (answer : Except Setback Unit) : Prop :=
  tried < relay.policy.maxRetries ∧
    ∃ setback, answer = .error setback ∧ relay.policy.delay? setback.factor tried = none

/-- What was being published has gone out, is tried again, or is given up; or the pass is
unwound, or was so before. -/
theorem attempt_cases (under : relay.pass = some ⟨source, tried⟩)
    (answer : Except Setback Unit) :
    (∃ tally, relay.unwound = false ∧ relay.sentBy answer = [source.envelope] ∧
      relay.attempt answer = (relay.midway relay.pass tally).published source) ∨
    (∃ tally wait, relay.unwound = false ∧ relay.sentBy answer = [] ∧
      tried < relay.policy.maxRetries ∧
      relay.attempt answer = (relay.midway (some ⟨source, tried + 1⟩) tally, .waiting wait)) ∨
    (∃ tally attempts text, relay.unwound = false ∧ relay.sentBy answer = [] ∧
      relay.attempt answer = (relay.midway relay.pass tally).givenUp source attempts text) ∨
    (relay.unwound = true ∨ relay.Stuck tried answer) ∧ relay.sentBy answer = [] ∧
      relay.attempt answer = relay.unwind := by
  cases unwound : relay.unwound with
  | true =>
      refine .inr (.inr (.inr ⟨.inl rfl, ?_, attempt_of_unwound unwound answer⟩))
      simp only [sentBy, asking_of_unwound unwound]
  | false =>
      have asks := (asking_of_live unwound).trans under
      cases answer with
      | ok accepted =>
          obtain ⟨tally, moved⟩ := attempt_of_taken under unwound
          exact .inl ⟨tally, rfl, by simp only [sentBy, asks], moved⟩
      | error setback =>
          have unsent : relay.sentBy (.error setback) = [] := by simp only [sentBy, asks]
          by_cases left : tried < relay.policy.maxRetries
          · cases told : relay.policy.delay? setback.factor tried with
            | some wait =>
                obtain ⟨tally, moved⟩ := attempt_of_retry under unwound left setback told
                exact .inr (.inl ⟨tally, wait, rfl, unsent, left, moved⟩)
            | none =>
                exact .inr (.inr (.inr ⟨.inr ⟨left, setback, rfl, told⟩, unsent,
                  attempt_of_untold under unwound left told⟩))
          · obtain ⟨tally, attempts, text, moved⟩ :=
              attempt_of_spent under unwound (UInt32.not_lt.mp left) setback
            exact .inr (.inr (.inl ⟨tally, attempts, text, rfl, unsent, moved⟩))

/-- The number of tries does not matter to what waits. -/
theorem holdings_midway (under : relay.pass = some ⟨source, tried⟩) (later : UInt32)
    (tally : Tally) : (relay.midway (some ⟨source, later⟩) tally).holdings = relay.holdings := by
  rw [holdings, holdings, under]
  cases source with
  | outbox event report => rfl
  | parked letter work => rfl
  | held envelope work => rfl

theorem publishesFree_midway (under : relay.pass = some ⟨source, tried⟩) (later : UInt32)
    (tally : Tally) (free : relay.PublishesFree) :
    (relay.midway (some ⟨source, later⟩) tally).PublishesFree := by
  rw [PublishesFree, under] at free
  cases source with
  | outbox event report => exact free
  | parked letter work => trivial
  | held envelope work => trivial

end Answer

/-! ### Whole moves -/

theorem reached_attempt (relay : Relay) (answer : Except Setback Unit)
    (sound : relay.holdings.Sound) (free : relay.PublishesFree) :
    Reached relay.holdings (relay.sentBy answer) (relay.attempt answer).1 := by
  cases under : relay.pass with
  | none =>
      rw [attempt_of_resting under, sentBy_of_resting under]
      exact ⟨.refl sound, free⟩
  | some pass =>
      obtain ⟨source, tried⟩ := pass
      rcases attempt_cases under answer with ⟨tally, -, sent, moved⟩ |
        ⟨tally, wait, -, unsent, -, moved⟩ | ⟨tally, attempts, text, -, unsent, moved⟩ |
        ⟨-, unsent, moved⟩
      · rw [sent, moved]
        exact reached_published (relay.midway relay.pass tally) under sound free
      · rw [unsent, moved]
        refine ⟨?_, publishesFree_midway under (tried + 1) tally free⟩
        rw [holdings_midway under]
        exact .refl sound
      · rw [unsent, moved]
        exact reached_givenUp (relay.midway relay.pass tally) under sound free attempts text
      · -- What the pass had in its hands is still counted as being there.
        rw [unsent, moved]
        exact ⟨.refl sound, free⟩

theorem reached_beginDrain (relay : Relay) (sound : relay.holdings.Sound)
    (free : relay.PublishesFree) : Reached relay.holdings [] relay.beginDrain.1 := by
  unfold beginDrain
  cases under : relay.pass with
  | some pass => exact ⟨.refl sound, free⟩
  | none =>
      simp only [holdings, under] at sound ⊢
      exact reached_drainFrom relay.outbox relay .start sound

theorem reached_beginReplay (relay : Relay) (sound : relay.holdings.Sound)
    (free : relay.PublishesFree) : Reached relay.holdings [] relay.beginReplay.1 := by
  unfold beginReplay
  cases under : relay.pass with
  | some pass => exact ⟨.refl sound, free⟩
  | none =>
      have same : { relay with letters := relay.letters.emptied }.replaying
          ⟨relay.letters.letters, [], .start⟩ [] = relay.holdings := by
        simp [holdings, under, replaying, payloads, DeadLetters.emptied, untried]
      rw [← same] at sound ⊢
      exact reached_replayOn { relay with letters := relay.letters.emptied } _ sound

theorem holdings_enqueue (relay : Relay) (events : List Event) :
    (relay.enqueue events).holdings =
      { relay.holdings with untried := relay.holdings.untried ++ events.map Event.envelope } := by
  unfold holdings
  rw [show (relay.enqueue events).pass = relay.pass from rfl]
  split <;> simp [enqueue, untried, replaying]

theorem publishesFree_enqueue {relay : Relay} (free : relay.PublishesFree) (events : List Event) :
    (relay.enqueue events).PublishesFree := free

/-! ### What stays -/

/-- What a relay is set up with, and whether a pass was unwound. -/
structure Standing where
  topic : String
  policy : RetryPolicy
  capacity : Nat
  unwound : Bool

def standing (relay : Relay) : Standing :=
  ⟨relay.topic, relay.policy, relay.letters.capacity, relay.unwound⟩

theorem standing_drainFrom (events : List Event) (relay : Relay) (report : DrainReport) :
    (relay.drainFrom report events).1.standing = relay.standing := by
  induction events generalizing relay report with
  | nil => rfl
  | cons event rest inductionHypothesis =>
      rw [drainFrom_cons]
      split
      · exact inductionHypothesis _ _
      · rfl

theorem standing_replayOn (relay : Relay) (work : ReplayWork) :
    (relay.replayOn work).1.standing = relay.standing := by
  unfold replayOn
  split <;> rfl

theorem standing_releaseOn (relay : Relay) (stream : String) (work : ReplayWork) :
    (relay.releaseOn stream work).1.standing = relay.standing := by
  unfold releaseOn
  split
  · rfl
  · exact standing_replayOn _ work

theorem standing_published (relay : Relay) (source : Source) :
    (relay.published source).1.standing = relay.standing := by
  cases source with
  | outbox event report => exact standing_drainFrom _ relay _
  | parked letter work => exact standing_releaseOn { relay with tally := _ } _ _
  | held envelope work => exact standing_releaseOn relay _ _

theorem standing_block (relay : Relay) (stream : String) :
    (relay.block stream).standing = relay.standing := by
  unfold block
  split <;> rfl

theorem standing_givenUp (relay : Relay) (source : Source) (attempts : UInt32) (reason : String) :
    (relay.givenUp source attempts reason).1.standing = relay.standing := by
  cases source with
  | outbox event report =>
      simp only [givenUp, DeadLetters.push]
      by_cases full : relay.letters.isFull = true
      · simp only [full, if_true]
        rfl
      · simp only [full]
        exact (standing_drainFrom _ _ _).trans (standing_block _ _)
  | parked letter work => exact standing_replayOn relay _
  | held envelope work => exact standing_replayOn relay _

/-- An answer changes nothing else than that the pass may be unwound. -/
theorem standing_attempt (relay : Relay) (answer : Except Setback Unit) :
    (relay.attempt answer).1.standing =
      { relay.standing with unwound := (relay.attempt answer).1.unwound } := by
  cases under : relay.pass with
  | none => rw [attempt_of_resting under]; rfl
  | some pass =>
      rcases attempt_cases under answer with ⟨tally, -, -, moved⟩ | ⟨tally, wait, -, -, -, moved⟩ |
        ⟨tally, attempts, text, -, -, moved⟩ | ⟨-, -, moved⟩
      · have same := standing_published (relay.midway relay.pass tally) pass.source
        rw [moved, show relay.standing = (relay.midway relay.pass tally).standing from rfl, ← same]
        rfl
      · rw [moved]
        rfl
      · have same := standing_givenUp (relay.midway relay.pass tally) pass.source attempts text
        rw [moved, show relay.standing = (relay.midway relay.pass tally).standing from rfl, ← same]
        rfl
      · rw [moved]
        rfl

theorem standing_beginDrain (relay : Relay) : relay.beginDrain.1.standing = relay.standing := by
  unfold beginDrain
  split
  · rfl
  · exact standing_drainFrom _ relay _

theorem standing_beginReplay (relay : Relay) : relay.beginReplay.1.standing = relay.standing := by
  unfold beginReplay
  split
  · rfl
  · exact standing_replayOn { relay with letters := _ } _

theorem unwound_published (relay : Relay) (source : Source) :
    (relay.published source).1.unwound = relay.unwound :=
  congrArg Standing.unwound (relay.standing_published source)

theorem unwound_givenUp (relay : Relay) (source : Source) (attempts : UInt32) (reason : String) :
    (relay.givenUp source attempts reason).1.unwound = relay.unwound :=
  congrArg Standing.unwound (relay.standing_givenUp source attempts reason)

theorem unwound_beginDrain (relay : Relay) : relay.beginDrain.1.unwound = relay.unwound :=
  congrArg Standing.unwound relay.standing_beginDrain

theorem unwound_beginReplay (relay : Relay) : relay.beginReplay.1.unwound = relay.unwound :=
  congrArg Standing.unwound relay.standing_beginReplay

theorem topic_attempt (relay : Relay) (answer : Except Setback Unit) :
    (relay.attempt answer).1.topic = relay.topic :=
  congrArg Standing.topic (relay.standing_attempt answer)

theorem topic_beginDrain (relay : Relay) : relay.beginDrain.1.topic = relay.topic :=
  congrArg Standing.topic relay.standing_beginDrain

theorem topic_beginReplay (relay : Relay) : relay.beginReplay.1.topic = relay.topic :=
  congrArg Standing.topic relay.standing_beginReplay

end Relay

end BenefitCasework
