import BenefitCasework.Proofs.Delivery.Blocking
import BenefitCasework.Proofs.Delivery.Passes

/-!
Contract: the report of a pass accounts for everything that the pass has moved.

Owns:
- `Relay.HeldApart`, that each stream has one place in what is held, in every state
  that a relay comes to;
- `Relay.Draining`, what the counts of a pass over the outbox say at each of its
  moments, and `Relay.Replaying`, the same for a pass over the letters;
- `reports_account_for_every_event`.

The counts go up on different paths, and an envelope may go from one place to another
several times. Each moment's equation is about where everything is just then. Does not
own: which envelopes are where.
-/

namespace BenefitCasework

namespace Relay

/-! ### One place for each stream -/

/-- Each stream has one place in what is held. -/
def HeldApart (relay : Relay) : Prop := (Table.keys relay.held).Nodup

section HeldApart

variable {relay : Relay}

theorem heldApart_drainFrom (events : List Event) {relay : Relay} (apart : relay.HeldApart)
    (report : DrainReport) : (relay.drainFrom report events).1.HeldApart := by
  induction events generalizing relay report with
  | nil => exact apart
  | cons event rest inductionHypothesis =>
      rw [drainFrom_cons]
      split
      · rename_i waiting found
        refine inductionHypothesis ?_ _
        exact Table.nodup_keys_set apart event.envelope.stream (waiting ++ [event.envelope])
      · exact apart

theorem heldApart_replayOn (apart : relay.HeldApart) (work : ReplayWork) :
    (relay.replayOn work).1.HeldApart := by
  unfold replayOn
  split <;> exact apart

theorem heldApart_releaseOn (apart : relay.HeldApart) (stream : String) (work : ReplayWork) :
    (relay.releaseOn stream work).1.HeldApart := by
  unfold releaseOn
  split
  · exact Table.nodup_keys_set apart stream _
  · have freed : { relay with held := relay.held.erase stream }.HeldApart :=
      Table.nodup_keys_erase apart stream
    exact heldApart_replayOn freed work

theorem heldApart_published (apart : relay.HeldApart) (source : Source) :
    (relay.published source).1.HeldApart := by
  cases source with
  | outbox event report => exact heldApart_drainFrom relay.outbox apart _
  | parked letter work =>
      have counted : { relay with tally := relay.tally.bump .replayed }.HeldApart := apart
      exact heldApart_releaseOn counted _ _
  | held envelope work => exact heldApart_releaseOn apart _ _

theorem heldApart_block (apart : relay.HeldApart) (stream : String) :
    (relay.block stream).HeldApart := by
  unfold block
  split
  · exact apart
  · exact Table.nodup_keys_set apart stream []

theorem heldApart_givenUp (apart : relay.HeldApart) (source : Source) (attempts : UInt32)
    (reason : String) : (relay.givenUp source attempts reason).1.HeldApart := by
  cases source with
  | outbox event report =>
      simp only [givenUp]
      split
      · rename_i letters pushed
        have parked : { relay with letters := letters }.HeldApart := apart
        exact heldApart_drainFrom _ (heldApart_block parked _) _
      · exact apart
  | parked letter work => exact heldApart_replayOn apart _
  | held envelope work => exact heldApart_replayOn apart _

theorem heldApart_attempt (apart : relay.HeldApart) (reply : Except Setback Unit) :
    (relay.attempt reply).1.HeldApart := by
  cases under : relay.pass with
  | none =>
      rw [attempt_of_resting under]
      exact apart
  | some pass =>
      have between (midway : Option Pass) (tally : Tally) :
          (relay.midway midway tally).HeldApart := apart
      rcases attempt_cases under reply with ⟨tally, -, -, moved⟩ | ⟨tally, wait, -, -, -, moved⟩ |
        ⟨tally, attempts, text, -, -, moved⟩ | ⟨-, -, moved⟩
      · rw [moved]
        exact heldApart_published (between _ tally) _
      · rw [moved]
        exact between _ tally
      · rw [moved]
        exact heldApart_givenUp (between _ tally) _ _ _
      · rw [moved]
        exact apart

theorem heldApart_beginDrain (apart : relay.HeldApart) : relay.beginDrain.1.HeldApart := by
  unfold beginDrain
  split
  · exact apart
  · exact heldApart_drainFrom relay.outbox apart _

theorem heldApart_beginReplay (apart : relay.HeldApart) : relay.beginReplay.1.HeldApart := by
  unfold beginReplay
  split
  · exact apart
  · have emptied : { relay with letters := relay.letters.emptied }.HeldApart := apart
    exact heldApart_replayOn emptied _

end HeldApart

/-! ### The number of what is held -/

section HeldCount

variable {relay : Relay} {stream : String}

/-- To block a stream is not to hold anything. -/
theorem heldCount_block (relay : Relay) (stream : String) :
    (relay.block stream).heldCount = relay.heldCount := by
  unfold block
  split
  · rfl
  · rename_i free
    have same := Table.itemCount_set (congrArg (Option.getD · []) free) []
    rw [heldCount_eq, heldCount_eq]
    exact same

theorem outbox_block (relay : Relay) (stream : String) :
    (relay.block stream).outbox = relay.outbox := by
  unfold block
  split <;> rfl

/-- What is released is no longer held. -/
theorem heldCount_release {envelope : Envelope} {waiting : List Envelope}
    (found : relay.held.get? stream = some (envelope :: waiting)) :
    { relay with held := relay.held.set stream waiting }.heldCount + 1 = relay.heldCount := by
  have fewer := Table.itemCount_set (congrArg (Option.getD · []) found) waiting
  rw [Option.getD_some, List.length_cons] at fewer
  rw [heldCount_eq, heldCount_eq]
  simp only
  omega

/-- A stream behind which nothing waits is freed without a loss. -/
theorem heldCount_erase (apart : relay.HeldApart)
    (nothing : ∀ envelope waiting, relay.held.get? stream ≠ some (envelope :: waiting)) :
    { relay with held := relay.held.erase stream }.heldCount = relay.heldCount := by
  rw [heldCount_eq, heldCount_eq]
  cases found : relay.held.get? stream with
  | none =>
      have absent : stream ∉ Table.keys relay.held := by
        rw [Table.mem_keys_iff, found]
        decide
      exact congrArg Table.itemCount (Table.erase_of_not_mem_keys absent)
  | some waiting =>
      cases waiting with
      | nil => exact Table.itemCount_erase apart found
      | cons envelope waiting => exact absurd found (nothing envelope waiting)

end HeldCount

theorem publish_unfinished (relay : Relay) (source : Source) (report : PassReport) :
    (relay.publish source).2 ≠ .finished report := by
  simp [publish]

theorem waiting_unfinished (wait : Duration) (report : PassReport) :
    Progress.waiting wait ≠ .finished report := by
  simp

/-! ### A pass over the outbox -/

/-- The counts of a pass over the outbox, with so many envelopes sent and so many events
not decided about. -/
structure Counted (before relay : Relay) (report : DrainReport) (sent undecided : Nat) : Prop where
  published : report.published = sent
  parked : relay.letters.size = before.letters.size + report.parked
  held : relay.heldCount = before.heldCount + report.held
  unwritable : report.unwritable = 0
  total : report.published + report.parked + report.held + undecided = before.outbox.length

/-- A pass over the outbox, begun in a certain state, at some moment or at its end. -/
inductive Draining (before : Relay) (sent left : Nat) (relay : Relay) (progress : Progress) : Prop
  | under (event : Event) (report : DrainReport) (tried : UInt32)
      (inHand : relay.pass = some ⟨.outbox event report, tried⟩)
      (unfinished : ∀ report, progress ≠ .finished report)
      (going : report.stalled = false)
      (undecided : left = relay.outbox.length + 1)
      (counted : Counted before relay report sent left)
  | ended (report : DrainReport)
      (resting : relay.pass = none)
      (told : progress = .finished (.drained report))
      (stalled : report.stalled = true ↔ relay.outbox ≠ [])
      (full : report.stalled = true → relay.letters.isFull = true)
      (counted : Counted before relay report sent relay.outbox.length)

section Draining

variable {before : Relay} {sent : Nat}

theorem draining_drainFrom (events : List Event) {relay : Relay} {report : DrainReport}
    (counted : Counted before relay report sent events.length)
    (going : report.stalled = false) :
    let next := relay.drainFrom report events
    ∃ left ≤ events.length, Draining before sent left next.1 next.2 := by
  obtain ⟨published, parked, held, unwritable, total⟩ := counted
  induction events generalizing relay report with
  | nil =>
      refine ⟨0, Nat.le_refl 0, .ended report rfl rfl ?_ ?_
        ⟨published, parked, held, unwritable, total⟩⟩
      · simp [drainFrom, finish, going]
      · simp [going]
  | cons event rest inductionHypothesis =>
      rw [List.length_cons] at total
      simp only [drainFrom_cons]
      split
      · rename_i waiting found
        let behind := { relay with taken := relay.taken + 1 }.hold event.envelope waiting
        have one : behind.heldCount = relay.heldCount + 1 := heldCount_hold found
        obtain ⟨left, few, later⟩ := @inductionHypothesis behind
          { report with held := report.held + 1 } going published parked
          (by rw [one, held, Nat.add_assoc]) unwritable (by simp only; omega)
        exact ⟨left, Nat.le_succ_of_le few, later⟩
      · exact ⟨rest.length + 1, Nat.le_refl _, .under event report 0 rfl (publish_unfinished _ _)
          going rfl ⟨published, parked, held, unwritable, total⟩⟩

/-- An event that is given up is parked, or it goes back and the pass is over. -/
theorem draining_givenUp {relay : Relay} {report : DrainReport}
    (counted : Counted before relay report sent (relay.outbox.length + 1))
    (going : report.stalled = false) (event : Event) (attempts : UInt32) (text : String) :
    let next := relay.givenUp (.outbox event report) attempts text
    ∃ left ≤ relay.outbox.length, Draining before sent left next.1 next.2 := by
  obtain ⟨published, parked, held, unwritable, total⟩ := counted
  simp only [givenUp, DeadLetters.push]
  by_cases full : relay.letters.isFull = true
  · -- Back in the outbox, the event is among those not decided about.
    simp only [full, if_true]
    exact ⟨0, Nat.zero_le _, .ended { report with stalled := true } rfl rfl (by simp [finish])
      (fun _ => full) ⟨published, parked, held, unwritable, total⟩⟩
  · simp only [full]
    let room : DeadLetters Envelope :=
      { relay.letters with letters := relay.letters.letters ++ [⟨event.envelope, attempts, text⟩] }
    let blocked : Relay := { relay with letters := room }.block event.envelope.stream
    have sameOutbox : blocked.outbox = relay.outbox := outbox_block _ _
    have sameHeld : blocked.heldCount = relay.heldCount := heldCount_block _ _
    have oneMore : blocked.letters.size = relay.letters.size + 1 := by
      rw [show blocked.letters = room from letters_block _ _]
      exact List.length_append
    have counted : Counted before blocked { report with parked := report.parked + 1 } sent
        blocked.outbox.length :=
      ⟨published, by rw [oneMore, parked, Nat.add_assoc], by rw [sameHeld, held], unwritable,
        by rw [sameOutbox]; simp only; omega⟩
    obtain ⟨left, few, later⟩ := draining_drainFrom blocked.outbox counted going
    exact ⟨left, sameOutbox ▸ few, later⟩

/-- While something is being published, it comes from the outbox. -/
theorem Draining.of_pass {left : Nat} {relay : Relay} {progress : Progress} {source : Source}
    {tried : UInt32} (holds : Draining before sent left relay progress)
    (inHand : relay.pass = some ⟨source, tried⟩) :
    ∃ event report, source = .outbox event report ∧ report.stalled = false ∧
      left = relay.outbox.length + 1 ∧ Counted before relay report sent left := by
  cases holds with
  | ended report resting =>
      rw [resting] at inHand
      cases inHand
  | under event report tried inHandToo unfinished going undecided counted =>
      rw [inHandToo] at inHand
      cases inHand
      exact ⟨event, report, rfl, going, undecided, counted⟩

/-- Every way in which an event is decided about is counted once. -/
theorem conducts_draining : Conducts (Draining before) where
  ended_or_under holds := by
    cases holds with
    | under event report tried inHand => exact .inr ⟨_, _, inHand⟩
    | ended report resting told => exact .inl ⟨_, told⟩
  retried holds inHand later tally wait := by
    obtain ⟨event, report, rfl, going, undecided, published, parked, held, unwritable, total⟩ :=
      holds.of_pass inHand
    exact .under event report later rfl (waiting_unfinished wait) going undecided
      ⟨published, parked, held, unwritable, total⟩
  published {sent left relay progress source tried} holds inHand tally := by
    obtain ⟨event, report, rfl, going, rfl, published, parked, held, unwritable, total⟩ :=
      holds.of_pass inHand
    have counted : Counted before (relay.midway relay.pass tally)
        { report with published := report.published + 1 } (sent + 1) relay.outbox.length :=
      ⟨congrArg (· + 1) published, parked, held, unwritable, by simp only; omega⟩
    obtain ⟨fewer, few, later⟩ := draining_drainFrom relay.outbox counted going
    exact ⟨fewer, Nat.lt_succ_of_le few, later⟩
  givenUp {sent left relay progress source tried} holds inHand tally attempts text := by
    obtain ⟨event, report, rfl, going, rfl, published, parked, held, unwritable, total⟩ :=
      holds.of_pass inHand
    have counted : Counted before (relay.midway relay.pass tally) report sent
        (relay.outbox.length + 1) := ⟨published, parked, held, unwritable, total⟩
    obtain ⟨fewer, few, later⟩ := draining_givenUp counted going event attempts text
    exact ⟨fewer, Nat.lt_succ_of_le few, later⟩

end Draining

/-! ### A pass over the letters -/

/-- The counts of a pass over the letters, with so many envelopes sent and so many neither
sent nor held. -/
structure Accounted (before relay : Relay) (report : ReplayReport) (sent unsent : Nat) : Prop where
  gone : report.replayed + report.released = sent
  total : before.letters.size + before.heldCount = sent + unsent + relay.heldCount
  apart : relay.HeldApart

/-- A pass over the letters, begun in a certain state, at some moment or at its end. -/
inductive Replaying (before : Relay) (sent left : Nat) (relay : Relay) (progress : Progress) : Prop
  | under (source : Source) (work : ReplayWork) (tried : UInt32)
      (inHand : relay.pass = some ⟨source, tried⟩)
      (unfinished : ∀ report, progress ≠ .finished report)
      (worksOn : source.work? = some work)
      (emptied : relay.letters.letters = [])
      (undecided : left = work.rest.length + relay.heldCount + 1)
      (accounted : Accounted before relay work.report sent
        (work.failing.length + work.rest.length + 1))
  | ended (report : ReplayReport)
      (resting : relay.pass = none)
      (told : progress = .finished (.replayed report))
      (parked : report.stillParked = relay.letters.size)
      (accounted : Accounted before relay report sent relay.letters.size)

section Replaying

variable {before relay : Relay} {sent : Nat}

theorem replaying_replayOn (relay : Relay) (work : ReplayWork)
    (emptied : relay.letters.letters = [])
    (accounted : Accounted before relay work.report sent
      (work.failing.length + work.rest.length)) :
    let next := relay.replayOn work
    ∃ left ≤ work.rest.length + relay.heldCount, Replaying before sent left next.1 next.2 := by
  obtain ⟨rest, failing, report⟩ := work
  obtain ⟨gone, total, apart⟩ := accounted
  cases rest with
  | nil =>
      have back : (relay.letters.restore failing).size = failing.length := by
        simp [DeadLetters.restore, DeadLetters.size, emptied]
      refine ⟨0, Nat.zero_le _, .ended { report with stillParked := failing.length } rfl rfl
        back.symm ⟨gone, ?_, apart⟩⟩
      simp only [replayOn, finish, back]
      exact total
  | cons letter rest =>
      refine ⟨rest.length + relay.heldCount + 1, ?_, .under (.parked letter ⟨rest, failing, report⟩)
        ⟨rest, failing, report⟩ 0 rfl (publish_unfinished _ _) rfl emptied rfl
        ⟨gone, total, apart⟩⟩
      simp only [List.length_cons]
      omega

/-- What is held and goes out next is neither sent nor held until the bus answers. -/
theorem replaying_releaseOn (relay : Relay) (stream : String) (work : ReplayWork)
    (emptied : relay.letters.letters = [])
    (accounted : Accounted before relay work.report sent
      (work.failing.length + work.rest.length)) :
    let next := relay.releaseOn stream work
    ∃ left ≤ work.rest.length + relay.heldCount, Replaying before sent left next.1 next.2 := by
  obtain ⟨gone, total, apart⟩ := accounted
  simp only [releaseOn]
  split
  · rename_i envelope waiting found
    let released : Relay := { relay with held := relay.held.set stream waiting }
    have fewer : released.heldCount + 1 = relay.heldCount := heldCount_release found
    have totalToo : before.letters.size + before.heldCount =
        sent + (work.failing.length + work.rest.length + 1) + released.heldCount := by omega
    refine ⟨work.rest.length + relay.heldCount, Nat.le_refl _, .under (.held envelope work) work 0
      rfl (publish_unfinished _ _) rfl emptied ?_
      ⟨gone, totalToo, Table.nodup_keys_set apart stream waiting⟩⟩
    rw [← fewer]
    rfl
  · rename_i nothing
    let freed : Relay := { relay with held := relay.held.erase stream }
    have same : freed.heldCount = relay.heldCount := heldCount_erase apart nothing
    rw [← same] at total ⊢
    exact replaying_replayOn freed work emptied
      ⟨gone, total, Table.nodup_keys_erase apart stream⟩

/-- While something is being published, the pass is not over. -/
theorem Replaying.of_pass {left : Nat} {progress : Progress} {source : Source} {tried : UInt32}
    (holds : Replaying before sent left relay progress)
    (inHand : relay.pass = some ⟨source, tried⟩) :
    ∃ work, source.work? = some work ∧ relay.letters.letters = [] ∧
      left = work.rest.length + relay.heldCount + 1 ∧
      Accounted before relay work.report sent (work.failing.length + work.rest.length + 1) := by
  cases holds with
  | ended report resting =>
      rw [resting] at inHand
      cases inHand
  | under source work tried inHandToo unfinished worksOn emptied undecided accounted =>
      rw [inHandToo] at inHand
      cases inHand
      exact ⟨work, worksOn, emptied, undecided, accounted⟩

/-- What goes out is counted where it comes from. -/
theorem conducts_replaying : Conducts (Replaying before) where
  ended_or_under holds := by
    cases holds with
    | under source work tried inHand => exact .inr ⟨_, _, inHand⟩
    | ended report resting told => exact .inl ⟨_, told⟩
  retried {sent left relay progress source tried} holds inHand later tally wait := by
    obtain ⟨work, worksOn, emptied, undecided, gone, total, apart⟩ := holds.of_pass inHand
    exact .under source work later rfl (waiting_unfinished wait) worksOn emptied undecided
      ⟨gone, total, apart⟩
  published {sent left relay progress source tried} holds inHand tally := by
    obtain ⟨work, worksOn, emptied, rfl, gone, total, apart⟩ := holds.of_pass inHand
    have onward (report : ReplayReport) (goneToo : report.replayed + report.released = sent + 1)
        (tally : Tally) : Accounted before (relay.midway relay.pass tally) report (sent + 1)
          (work.failing.length + work.rest.length) :=
      ⟨goneToo, total.trans (by simp only [midway, heldCount]; omega), apart⟩
    cases source with
    | outbox event report => cases worksOn
    | parked letter work =>
        cases worksOn
        let report := { work.report with replayed := work.report.replayed + 1 }
        have accounted := onward report (by simp only [report]; omega) (tally.bump .replayed)
        obtain ⟨fewer, few, later⟩ := replaying_releaseOn
          (relay.midway relay.pass (tally.bump .replayed)) letter.payload.stream
          { work with report := report } emptied accounted
        exact ⟨fewer, Nat.lt_succ_of_le few, later⟩
    | held envelope work =>
        cases worksOn
        let report := { work.report with released := work.report.released + 1 }
        have accounted := onward report (by simp only [report]; omega) tally
        obtain ⟨fewer, few, later⟩ := replaying_releaseOn (relay.midway relay.pass tally)
          envelope.stream { work with report := report } emptied accounted
        exact ⟨fewer, Nat.lt_succ_of_le few, later⟩
  givenUp {sent left relay progress source tried} holds inHand tally attempts text := by
    obtain ⟨work, worksOn, emptied, rfl, gone, total, apart⟩ := holds.of_pass inHand
    have onward (letter : Letter) : Accounted before (relay.midway relay.pass tally) work.report
        sent ((work.failing ++ [letter]).length + work.rest.length) := by
      refine ⟨gone, total.trans ?_, apart⟩
      simp only [midway, heldCount, List.length_append, List.length_singleton]
      omega
    cases source with
    | outbox event report => cases worksOn
    | parked letter work =>
        cases worksOn
        obtain ⟨fewer, few, later⟩ := replaying_replayOn (relay.midway relay.pass tally)
          { work with failing := work.failing ++
              [⟨letter.payload, addAttempts letter.attempts attempts, text⟩] } emptied (onward _)
        exact ⟨fewer, Nat.lt_succ_of_le few, later⟩
    | held envelope work =>
        cases worksOn
        obtain ⟨fewer, few, later⟩ := replaying_replayOn (relay.midway relay.pass tally)
          { work with failing := work.failing ++ [⟨envelope, attempts, text⟩] } emptied (onward _)
        exact ⟨fewer, Nat.lt_succ_of_le few, later⟩

end Replaying

end Relay

namespace Ledger

theorem heldApart_start (topic : String) (policy : RetryPolicy) (capacity : Nat) :
    (start topic policy capacity).relay.HeldApart := List.nodup_nil

theorem heldApart_move {ledger : Ledger} (apart : ledger.relay.HeldApart) (step : RelayMove) :
    (ledger.move step).relay.HeldApart := by
  cases step with
  | enqueue events => exact apart
  | drain => exact Relay.heldApart_beginDrain apart
  | replay => exact Relay.heldApart_beginReplay apart
  | answer reply => exact Relay.heldApart_attempt apart reply

theorem heldApart_run {ledger : Ledger} (apart : ledger.relay.HeldApart)
    (moves : List RelayMove) : (ledger.run moves).relay.HeldApart := by
  induction moves generalizing ledger with
  | nil => exact apart
  | cons step rest inductionHypothesis => exact inductionHypothesis (heldApart_move apart step)

section Passes

variable {ledger : Ledger} (resting : ledger.relay.pass = none)
include resting

/-- A pass over the outbox ends, and its report is about where everything is then. -/
theorem exists_drained {outcomes : Nat → Except Setback Unit}
    (goesOn : ¬ ledger.Unwinds .drain outcomes) :
    ∃ asked report after,
      ledger.passAfter .drain outcomes asked = (after, .finished (.drained report)) ∧
      Relay.Counted ledger.relay after.relay report report.published after.relay.outbox.length ∧
      after.accepted.length = ledger.accepted.length + report.published ∧
      (report.stalled = true ↔ after.relay.outbox ≠ []) ∧
      (report.stalled = true → after.relay.letters.isFull = true) := by
  have nothingYet : Relay.Counted ledger.relay ledger.relay .start 0 ledger.relay.outbox.length :=
    ⟨rfl, rfl, rfl, rfl, by simp [DrainReport.start]⟩
  have first : ledger.relay.beginDrain = ledger.relay.drainFrom .start ledger.relay.outbox := by
    simp only [Relay.beginDrain, resting]
    rfl
  obtain ⟨left, -, begun⟩ := Relay.draining_drainFrom ledger.relay.outbox nothingYet rfl
  rw [← first] at begun
  obtain ⟨asked, told, after, sent, left, reached, ended, grown⟩ :=
    exists_finished Relay.conducts_draining .drain begun rfl goesOn
  cases ended with
  | under event report tried inHand unfinished => exact absurd rfl (unfinished told)
  | ended report restingAgain toldToo stalled full counted =>
      cases toldToo
      obtain rfl := counted.published
      exact ⟨asked, report, after, reached, counted, grown, stalled, full⟩

/-- A pass over the letters ends, and its report is about where everything is then. -/
theorem exists_replayed (apart : ledger.relay.HeldApart) {outcomes : Nat → Except Setback Unit}
    (goesOn : ¬ ledger.Unwinds .replay outcomes) :
    ∃ asked report after,
      ledger.passAfter .replay outcomes asked = (after, .finished (.replayed report)) ∧
      Relay.Accounted ledger.relay after.relay report (report.replayed + report.released)
        after.relay.letters.size ∧
      after.accepted.length = ledger.accepted.length + (report.replayed + report.released) ∧
      report.stillParked = after.relay.letters.size := by
  let emptied := { ledger.relay with letters := ledger.relay.letters.emptied }
  let work : ReplayWork := ⟨ledger.relay.letters.letters, [], .start⟩
  have nothingYet : Relay.Accounted ledger.relay emptied work.report 0
      (work.failing.length + work.rest.length) :=
    ⟨rfl, by simp [work, emptied, DeadLetters.size, Relay.heldCount], apart⟩
  have first : ledger.relay.beginReplay = emptied.replayOn work := by
    simp only [Relay.beginReplay, resting]
    rfl
  obtain ⟨left, -, begun⟩ := Relay.replaying_replayOn emptied work rfl nothingYet
  rw [← first] at begun
  obtain ⟨asked, told, after, sent, left, reached, ended, grown⟩ :=
    exists_finished Relay.conducts_replaying .replay begun rfl goesOn
  cases ended with
  | under source work tried inHand unfinished => exact absurd rfl (unfinished told)
  | ended report restingAgain toldToo parked accounted =>
      cases toldToo
      obtain rfl := accounted.gone
      exact ⟨asked, report, after, reached, accounted, grown, parked⟩

end Passes

end Ledger

/-- From any state between two passes and whatever the bus answers: a pass over the
outbox ends in a report, and every event of the outbox has gone out, is parked, is held
or is left, as the report says; events are left exactly when the pass has stalled, and
then there is no room for another letter. A pass over the letters ends in a report too,
and all that was parked or held has gone out, is parked or is held, as it says. Only a
panic keeps a pass from its report, and with a longest wait below 2 ^ 59 seconds there
is none. -/
theorem reports_account_for_every_event (topic : String) (policy : RetryPolicy) (capacity : Nat)
    (moves : List RelayMove)
    (resting : ((Ledger.start topic policy capacity).run moves).relay.pass = none)
    (outcomes : Nat → Except Setback Unit) :
    let ledger := (Ledger.start topic policy capacity).run moves
    (¬ ledger.Unwinds .drain outcomes → ∃ asked report after,
      ledger.passAfter .drain outcomes asked = (after, .finished (.drained report)) ∧
      report.published + report.parked + report.held + after.relay.outbox.length =
        ledger.relay.outbox.length ∧
      after.accepted.length = ledger.accepted.length + report.published ∧
      after.relay.letters.size = ledger.relay.letters.size + report.parked ∧
      after.relay.heldCount = ledger.relay.heldCount + report.held ∧
      report.unwritable = 0 ∧
      (report.stalled = true ↔ after.relay.outbox ≠ []) ∧
      (report.stalled = true → after.relay.letters.isFull = true)) ∧
    (¬ ledger.Unwinds .replay outcomes → ∃ asked report after,
      ledger.passAfter .replay outcomes asked = (after, .finished (.replayed report)) ∧
      after.accepted.length = ledger.accepted.length + (report.replayed + report.released) ∧
      report.stillParked = after.relay.letters.size ∧
      ledger.relay.letters.size + ledger.relay.heldCount =
        report.replayed + report.released + report.stillParked + after.relay.heldCount) ∧
    (policy.maxDelay.seconds < 2 ^ 59 →
      (∀ place setback, outcomes place = .error setback → Drawn setback.factor) →
      ¬ ledger.Unwinds .drain outcomes ∧ ¬ ledger.Unwinds .replay outcomes) := by
  intro ledger
  have apart : ledger.relay.HeldApart :=
    Ledger.heldApart_run (Ledger.heldApart_start topic policy capacity) moves
  have live : ledger.relay.unwound = false := Ledger.live_of_resting resting
  have samePolicy : ledger.relay.policy = policy := Ledger.policy_run _ moves
  refine ⟨fun goesOn => ?_, fun goesOn => ?_, fun short drawn => ?_⟩
  · obtain ⟨asked, report, after, reached, counted, grown, stalled, full⟩ :=
      Ledger.exists_drained resting goesOn
    exact ⟨asked, report, after, reached, counted.total, grown, counted.parked, counted.held,
      counted.unwritable, stalled, full⟩
  · obtain ⟨asked, report, after, reached, accounted, grown, parked⟩ :=
      Ledger.exists_replayed resting apart goesOn
    exact ⟨asked, report, after, reached, grown, parked, parked ▸ accounted.total⟩
  · have noAnswer : ∀ reply, RelayMove.drain ≠ .answer reply ∧ RelayMove.replay ≠ .answer reply :=
      fun reply => ⟨nofun, nofun⟩
    rw [← samePolicy] at short
    exact ⟨Ledger.not_unwinds live short (fun reply => (noAnswer reply).1) drawn,
      Ledger.not_unwinds live short (fun reply => (noAnswer reply).2) drawn⟩

namespace Sample

/-- The bus takes the first envelope that it is offered, and then nothing more. -/
def failingAgain (place : Nat) : Except Setback Unit := if place = 0 then .ok () else refused

end Sample

/-- One letter is parked, one announcement is held behind it, and two are in the outbox. -/
theorem outage_is_accounted_for :
    let ledger := (Ledger.start "requests" Sample.twice 1).run Sample.outage
    ledger.relay.pass = none ∧
      (∃ asked report after,
        ledger.passAfter .drain Sample.failingAgain asked = (after, .finished (.drained report)) ∧
          report.published + report.parked + report.held + after.relay.outbox.length = 2) ∧
      ∃ asked report after,
        ledger.passAfter .replay Sample.failingAgain asked = (after, .finished (.replayed report)) ∧
          report.replayed + report.released + report.stillParked + after.relay.heldCount = 2 := by
  intro ledger
  have resting : ledger.relay.pass = none := by decide +kernel
  have untold : ledger.relay.outbox.length = 2 := by decide +kernel
  have waiting : ledger.relay.letters.size + ledger.relay.heldCount = 2 := by decide +kernel
  have drawn : ∀ place setback, Sample.failingAgain place = .error setback →
      Drawn setback.factor := by
    intro place setback same
    unfold Sample.failingAgain at same
    split at same
    · nomatch same
    · cases same
      exact drawn_one
  obtain ⟨draining, replaying, goesOn⟩ :=
    reports_account_for_every_event "requests" Sample.twice 1 Sample.outage resting
      Sample.failingAgain
  obtain ⟨drains, replays⟩ := goesOn (by decide) drawn
  obtain ⟨asked, drained, after, reached, total, -⟩ := draining drains
  obtain ⟨later, replayed, rest, reachedToo, -, -, all⟩ := replaying replays
  exact ⟨resting, ⟨asked, drained, after, reached, total.trans untold⟩,
    later, replayed, rest, reachedToo, all.symm.trans waiting⟩

end BenefitCasework
