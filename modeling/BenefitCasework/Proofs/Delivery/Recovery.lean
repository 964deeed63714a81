import BenefitCasework.Proofs.Delivery.RelayOrder
import BenefitCasework.Proofs.TableItems

/-!
Contract: once the bus takes everything again, two passes clear the relay.

Owns:
- `Ledger.replies`, the answers of a bus that takes each envelope in the end, and
  `RetryPolicy.Bears`, that the retries last until then;
- `Relay.Potential`, a bound on the envelopes that a pass has still to publish,
  and `Ledger.run_replies`, that such a pass comes to its end;
- `Relay.Drains` and `Relay.Replays`, the bounds for the two kinds of passes;
- `replay_and_drain_deliver_all`.

Whatever was parked, held, stalled or waiting before, the two passes may come in
either order. Does not own: passes in which something fails.
-/

namespace BenefitCasework

/-! ### A bus that takes everything -/

/-- The retries last for as many refusals of each envelope, and the waits behind them
can be told. -/
def RetryPolicy.Bears (policy : RetryPolicy) (rows : List (List Setback)) : Prop :=
  ∀ refusals ∈ rows, refusals.length ≤ policy.maxRetries.toNat ∧
    ∀ step ∈ refusals.zipIdx, (policy.delay? step.1.factor (.ofNat step.2)).isSome = true

namespace Ledger

/-- The answers of a bus that takes one envelope after some refusals. -/
def repliesTo (refusals : List Setback) : List RelayMove :=
  refusals.map (fun setback => .answer (.error setback)) ++ [.answer (.ok ())]

/-- The answers of a bus that takes one envelope after the other. -/
def replies (rows : List (List Setback)) : List RelayMove := rows.flatMap repliesTo

end Ledger

/-- What a pass over the letters works on. -/
def Source.work? : Source → Option ReplayWork
  | .outbox _ _ => none
  | .parked _ work => some work
  | .held _ work => some work

namespace Relay

/-- A bound on what a pass has still to publish: it is nothing only when the pass is
over, and each envelope that goes out at the first try brings it down by one. -/
structure Potential (bound : Relay → Nat → Prop) : Prop where
  ended {relay : Relay} : bound relay 0 → relay.pass = none
  rests {relay : Relay} {count fewer : Nat} :
    bound relay count → relay.pass = none → bound relay fewer
  falls {relay : Relay} {count : Nat} {source : Source} {tried : UInt32} :
    bound relay (count + 1) → relay.pass = some ⟨source, tried⟩ →
      tried = 0 ∧ ∀ pass tally, bound ((relay.midway pass tally).published source).1 count

end Relay

namespace Ledger

variable {ledger : Ledger} {bound : Relay → Nat → Prop}

theorem run_append (ledger : Ledger) (front back : List RelayMove) :
    ledger.run (front ++ back) = (ledger.run front).run back :=
  List.foldl_append

/-- How many refusals the retries bear does not change. -/
theorem bears_run {rows : List (List Setback)} (bears : ledger.relay.policy.Bears rows)
    (moves : List RelayMove) : (ledger.run moves).relay.policy.Bears rows := by
  rw [policy_run]
  exact bears

theorem move_answer_of_resting (resting : ledger.relay.pass = none)
    (reply : Except Setback Unit) : ledger.move (.answer reply) = ledger := by
  simp only [move, Relay.attempt_of_resting resting, Relay.sentBy_of_resting resting,
    List.append_nil]

theorem run_repliesTo_of_resting (resting : ledger.relay.pass = none)
    (refusals : List Setback) : ledger.run (repliesTo refusals) = ledger := by
  induction refusals with
  | nil => exact move_answer_of_resting resting _
  | cons setback rest inductionHypothesis =>
      have ignored : ledger.run (repliesTo (setback :: rest)) =
          (ledger.move (.answer (.error setback))).run (repliesTo rest) := rfl
      rw [ignored, move_answer_of_resting resting, inductionHypothesis]

/-- Refusals are followed by further tries while retries are left. -/
theorem run_refusals {source : Source} {tried : UInt32}
    (under : ledger.relay.pass = some ⟨source, tried⟩) (live : ledger.relay.unwound = false)
    {refusals : List Setback}
    (left : tried.toNat + refusals.length ≤ ledger.relay.policy.maxRetries.toNat)
    (told : ∀ step ∈ refusals.zipIdx tried.toNat,
      (ledger.relay.policy.delay? step.1.factor (.ofNat step.2)).isSome = true) :
    ∃ later tally, (ledger.run (refusals.map fun setback => .answer (.error setback))).relay =
      ledger.relay.midway (some ⟨source, later⟩) tally := by
  induction refusals generalizing ledger tried with
  | nil => exact ⟨tried, ledger.relay.tally, by rw [Relay.midway, ← under]; rfl⟩
  | cons setback rest inductionHypothesis =>
      rw [List.length_cons] at left
      rw [List.zipIdx_cons] at told
      have below : tried < ledger.relay.policy.maxRetries :=
        UInt32.lt_iff_toNat_lt.mpr (by omega)
      obtain ⟨wait, toldNow⟩ := Option.isSome_iff_exists.mp (told _ List.mem_cons_self)
      rw [UInt32.ofNat_toNat] at toldNow
      obtain ⟨tally, moved⟩ := Relay.attempt_of_retry under live below setback toldNow
      have next := RetryPolicy.toNat_next_try below
      have underNext : (ledger.move (.answer (.error setback))).relay.pass =
          some ⟨source, tried + 1⟩ := congrArg (·.1.pass) moved
      have liveNext : (ledger.move (.answer (.error setback))).relay.unwound = false :=
        (congrArg (·.1.unwound) moved).trans live
      have samePolicy : (ledger.move (.answer (.error setback))).relay.policy =
          ledger.relay.policy := policy_run ledger [.answer (.error setback)]
      obtain ⟨later, counted, reached⟩ :=
        inductionHypothesis underNext liveNext (by rw [next, samePolicy]; omega)
          (by
            rw [next, samePolicy]
            exact fun step member => told step (List.mem_cons_of_mem _ member))
      refine ⟨later, counted, ?_⟩
      rw [List.map_cons, run, List.foldl_cons, ← run, reached, move, moved]
      rfl

/-- In the end the envelope goes out, and the pass goes on. -/
theorem run_repliesTo {source : Source} (under : ledger.relay.pass = some ⟨source, 0⟩)
    (live : ledger.relay.unwound = false) {refusals : List Setback}
    (bears : ledger.relay.policy.Bears [refusals]) :
    ∃ pass tally, (ledger.run (repliesTo refusals)).relay =
      ((ledger.relay.midway pass tally).published source).1 := by
  obtain ⟨left, told⟩ := bears refusals List.mem_cons_self
  have leftToo : (0 : UInt32).toNat + refusals.length ≤ ledger.relay.policy.maxRetries.toNat := by
    simpa using left
  obtain ⟨later, tally, reached⟩ := run_refusals under live leftToo told
  have underThen : (ledger.relay.midway (some ⟨source, later⟩) tally).pass =
      some ⟨source, later⟩ := rfl
  obtain ⟨counted, moved⟩ := Relay.attempt_of_taken underThen live
  refine ⟨some ⟨source, later⟩, counted, ?_⟩
  rw [repliesTo, run_append, run, List.foldl_cons, List.foldl_nil, move, reached, moved]
  rfl

/-- A pass comes to its end when the bus takes as many envelopes as are left. -/
theorem run_replies (potential : Relay.Potential bound) (live : ledger.relay.unwound = false)
    {rows : List (List Setback)} (bears : ledger.relay.policy.Bears rows)
    (holds : bound ledger.relay rows.length) : bound (ledger.run (replies rows)).relay 0 := by
  induction rows generalizing ledger with
  | nil => exact holds
  | cons refusals rest inductionHypothesis =>
      rw [replies, List.flatMap_cons, run_append, ← replies]
      have bearsRest : ledger.relay.policy.Bears rest := fun row member =>
        bears row (List.mem_cons_of_mem _ member)
      have bearsFirst : ledger.relay.policy.Bears [refusals] := fun row member =>
        bears row (List.mem_singleton.mp member ▸ List.mem_cons_self)
      cases under : ledger.relay.pass with
      | none =>
          rw [run_repliesTo_of_resting under]
          exact inductionHypothesis live bearsRest (potential.rests holds under)
      | some pass =>
          obtain ⟨source, tried⟩ := pass
          obtain ⟨rfl, falls⟩ := potential.falls holds under
          obtain ⟨midway, tally, reached⟩ := run_repliesTo under live bearsFirst
          have liveNext : (ledger.run (repliesTo refusals)).relay.unwound = false := by
            rw [reached, Relay.unwound_published]
            exact live
          exact inductionHypothesis liveNext (bears_run bearsRest _) (reached ▸ falls midway tally)

end Ledger

/-! ### The two kinds of passes -/

namespace Relay

theorem heldCount_eq (relay : Relay) : relay.heldCount = Table.itemCount relay.held := by
  have counted (start : Nat) (held : Table String (List Envelope)) :
      held.foldl (fun count entry => count + entry.2.length) start =
        start + Table.itemCount held := by
    induction held generalizing start with
    | nil => rfl
    | cons entry rest inductionHypothesis =>
        rw [List.foldl_cons, inductionHypothesis, Table.itemCount]
        omega
  rw [heldCount, counted, Nat.zero_add]

/-- All that waits in a relay at rest. -/
def waiting (relay : Relay) : Nat :=
  relay.letters.size + relay.heldCount + relay.outbox.length

theorem heldCount_hold {relay : Relay} {envelope : Envelope} {waiting : List Envelope}
    (found : relay.held.get? envelope.stream = some waiting) :
    (relay.hold envelope waiting).heldCount = relay.heldCount + 1 := by
  have more := Table.itemCount_set (congrArg (Option.getD · []) found) (waiting ++ [envelope])
  rw [List.length_append, List.length_singleton, Option.getD_some] at more
  rw [heldCount_eq, heldCount_eq]
  simp only [hold]
  omega

/-- A pass over the outbox in which nothing has failed. So many envelopes at most are
still to be published, and so many in all may be held in the end; when the pass is
over, the outbox is empty. -/
structure Drains (letters : DeadLetters Envelope) (total : Nat) (relay : Relay) (count : Nat) :
    Prop where
  letters : relay.letters = letters
  total : relay.heldCount + relay.outbox.length ≤ total
  pass : (relay.pass = none ∧ relay.outbox = []) ∨
    ∃ event report, relay.pass = some ⟨.outbox event report, 0⟩ ∧ relay.outbox.length < count

section Drains

variable {letters : DeadLetters Envelope} {total : Nat}

theorem Drains.mono {relay : Relay} {count more : Nat}
    (drains : relay.Drains letters total count) (notFewer : count ≤ more) :
    relay.Drains letters total more := by
  refine ⟨drains.letters, drains.total, drains.pass.imp_right ?_⟩
  rintro ⟨event, report, under, few⟩
  exact ⟨event, report, under, Nat.lt_of_lt_of_le few notFewer⟩

theorem drains_drainFrom (events : List Event) (relay : Relay) (report : DrainReport)
    (bounded : relay.heldCount + events.length ≤ total) :
    (relay.drainFrom report events).1.Drains relay.letters total events.length := by
  induction events generalizing relay report with
  | nil => exact ⟨rfl, bounded, .inl ⟨rfl, rfl⟩⟩
  | cons event rest inductionHypothesis =>
      rw [List.length_cons] at bounded
      rw [drainFrom_cons]
      split
      · rename_i waiting found
        let behind := { relay with taken := relay.taken + 1 }.hold event.envelope waiting
        have held : behind.heldCount = relay.heldCount + 1 := heldCount_hold found
        have later := inductionHypothesis behind { report with held := report.held + 1 }
          (by rw [held]; omega)
        exact later.mono (Nat.le_succ _)
      · have fewer : relay.heldCount + rest.length ≤ total := by omega
        exact ⟨rfl, fewer, .inr ⟨event, report, rfl, Nat.lt_succ_self _⟩⟩

theorem Drains.ended {relay : Relay} (drains : relay.Drains letters total 0) :
    relay.pass = none ∧ relay.outbox = [] := by
  rcases drains.pass with ended | ⟨event, report, under, none⟩
  · exact ended
  · exact absurd none (Nat.not_lt_zero _)

theorem potential_drains : Potential (Drains letters total) where
  ended drains := drains.ended.1
  rests drains resting := by
    refine ⟨drains.letters, drains.total, .inl ?_⟩
    rcases drains.pass with ended | ⟨event, report, under, -⟩
    · exact ended
    · rw [resting] at under
      cases under
  falls {relay count source tried} drains under := by
    rcases drains.pass with resting | ⟨event, report, inHand, few⟩
    · rw [resting.1] at under
      cases under
    · rw [inHand] at under
      cases under
      refine ⟨rfl, fun pass tally => ?_⟩
      have next := drains_drainFrom relay.outbox (relay.midway pass tally)
        { report with published := report.published + 1 } drains.total
      rw [← drains.letters]
      exact next.mono (Nat.le_of_lt_succ few)

end Drains

/-- A pass over the letters in which nothing has failed. So many envelopes at most
are still to be published; when the pass is over, no letters are left. -/
structure Replays (outbox : List Event) (relay : Relay) (count : Nat) : Prop where
  outbox : relay.outbox = outbox
  letters : relay.letters.letters = []
  pass : relay.pass = none ∨ ∃ source work, relay.pass = some ⟨source, 0⟩ ∧
    source.work? = some work ∧ work.failing = [] ∧ work.rest.length + relay.heldCount < count

section Replays

variable {outbox : List Event}

theorem Replays.mono {relay : Relay} {count more : Nat}
    (replays : relay.Replays outbox count) (notFewer : count ≤ more) :
    relay.Replays outbox more := by
  refine ⟨replays.outbox, replays.letters, replays.pass.imp_right ?_⟩
  rintro ⟨source, work, under, worksOn, unfailing, few⟩
  exact ⟨source, work, under, worksOn, unfailing, Nat.lt_of_lt_of_le few notFewer⟩

theorem replays_replayOn (relay : Relay) (work : ReplayWork) (empty : relay.letters.letters = [])
    (unfailing : work.failing = []) :
    (relay.replayOn work).1.Replays relay.outbox (work.rest.length + relay.heldCount) := by
  obtain ⟨rest, failing, report⟩ := work
  cases unfailing
  cases rest with
  | nil => exact ⟨rfl, empty, .inl rfl⟩
  | cons letter rest =>
      refine ⟨rfl, empty, .inr ⟨.parked letter ⟨rest, [], report⟩, _, rfl, rfl, rfl, ?_⟩⟩
      exact Nat.add_lt_add_right (Nat.lt_succ_self _) _

/-- What is held goes out in its turn, and then the next letter. -/
theorem replays_releaseOn (relay : Relay) (stream : String) (work : ReplayWork)
    (empty : relay.letters.letters = []) (unfailing : work.failing = []) :
    (relay.releaseOn stream work).1.Replays relay.outbox
      (work.rest.length + relay.heldCount) := by
  unfold releaseOn
  split
  · rename_i envelope waiting found
    have fewer := Table.itemCount_set (congrArg (Option.getD · []) found) waiting
    rw [Option.getD_some, List.length_cons, ← heldCount_eq] at fewer
    refine ⟨rfl, empty, .inr ⟨.held envelope work, work, rfl, rfl, unfailing, ?_⟩⟩
    have counted := heldCount_eq ({ relay with held := relay.held.set stream waiting }.publish
      (.held envelope work)).1
    rw [counted]
    exact Nat.add_lt_add_left (by simp only [publish]; omega) _
  · have later := replays_replayOn { relay with held := relay.held.erase stream } work empty
      unfailing
    refine later.mono (Nat.add_le_add_left ?_ _)
    rw [heldCount_eq, heldCount_eq]
    exact Table.itemCount_erase_le stream relay.held

theorem potential_replays : Potential (Replays outbox) where
  ended replays := by
    rcases replays.pass with resting | ⟨source, work, -, -, -, none⟩
    · exact resting
    · exact absurd none (Nat.not_lt_zero _)
  rests replays resting := ⟨replays.outbox, replays.letters, .inl resting⟩
  falls {relay count source tried} replays under := by
    rcases replays.pass with resting | ⟨inHand, work, underToo, worksOn, unfailing, few⟩
    · rw [resting] at under
      cases under
    · rw [underToo] at under
      cases under
      refine ⟨rfl, fun pass tally => ?_⟩
      rw [← replays.outbox]
      cases source with
      | outbox event report => cases worksOn
      | parked letter work =>
          cases worksOn
          have next := replays_releaseOn { relay.midway pass tally with
            tally := (relay.midway pass tally).tally.bump .replayed } letter.payload.stream
            { work with report := { work.report with replayed := work.report.replayed + 1 } }
            replays.letters unfailing
          exact next.mono (Nat.le_of_lt_succ few)
      | held envelope work =>
          cases worksOn
          have next := replays_releaseOn (relay.midway pass tally) envelope.stream
            { work with report := { work.report with released := work.report.released + 1 } }
            replays.letters unfailing
          exact next.mono (Nat.le_of_lt_succ few)

end Replays

/-- Nothing waits anywhere, no stream is blocked, and no pass is under way. -/
structure Cleared (relay : Relay) : Prop where
  resting : relay.pass = none
  outbox : relay.outbox = []
  letters : relay.letters.letters = []
  held : relay.held = []

end Relay

/-! ### Both passes -/

namespace Ledger

variable {ledger : Ledger} {rows : List (List Setback)}

theorem run_drain (resting : ledger.relay.pass = none) (live : ledger.relay.unwound = false)
    (bears : ledger.relay.policy.Bears rows)
    (enough : ledger.relay.outbox.length ≤ rows.length) :
    (ledger.run (.drain :: replies rows)).relay.Drains ledger.relay.letters
      (ledger.relay.heldCount + ledger.relay.outbox.length) 0 := by
  have begun : (ledger.move .drain).relay.Drains ledger.relay.letters
      (ledger.relay.heldCount + ledger.relay.outbox.length) rows.length := by
    simp only [move, Relay.beginDrain, resting]
    exact (Relay.drains_drainFrom ledger.relay.outbox ledger.relay .start (Nat.le_refl _)).mono
      enough
  have liveNext := (Relay.unwound_beginDrain ledger.relay).trans live
  exact run_replies Relay.potential_drains liveNext (bears_run bears [.drain]) begun

theorem run_replay (resting : ledger.relay.pass = none) (live : ledger.relay.unwound = false)
    (bears : ledger.relay.policy.Bears rows)
    (enough : ledger.relay.letters.size + ledger.relay.heldCount ≤ rows.length) :
    (ledger.run (.replay :: replies rows)).relay.Replays ledger.relay.outbox 0 := by
  have begun : (ledger.move .replay).relay.Replays ledger.relay.outbox rows.length := by
    simp only [move, Relay.beginReplay, resting]
    exact (Relay.replays_replayOn { ledger.relay with letters := ledger.relay.letters.emptied }
      ⟨ledger.relay.letters.letters, [], .start⟩ rfl rfl).mono enough
  have liveNext := (Relay.unwound_beginReplay ledger.relay).trans live
  exact run_replies Relay.potential_replays liveNext (bears_run bears [.replay]) begun

/-- Without letters nothing is held. -/
theorem Kept.cleared (kept : ledger.Kept) (resting : ledger.relay.pass = none)
    (outbox : ledger.relay.outbox = []) (letters : ledger.relay.letters.letters = []) :
    ledger.relay.Cleared := by
  refine ⟨resting, outbox, letters, Table.eq_nil_of_get?_eq_none fun stream => ?_⟩
  have blocked := kept.sound.blocked stream
  rw [Relay.holdings, resting, letters] at blocked
  simpa [payloads] using blocked

section BothPasses

variable {first second : List (List Setback)}

theorem cleared_run_replay_drain (kept : ledger.Kept) (steady : ledger.Steady)
    (resting : ledger.relay.pass = none)
    (bearsFirst : ledger.relay.policy.Bears first) (bearsSecond : ledger.relay.policy.Bears second)
    (enoughFirst : ledger.relay.waiting ≤ first.length)
    (enoughSecond : ledger.relay.waiting ≤ second.length) :
    (ledger.run (.replay :: replies first ++ .drain :: replies second)).relay.Cleared := by
  have keptOn := kept_run kept (.replay :: replies first ++ .drain :: replies second)
  unfold Relay.waiting at enoughFirst enoughSecond
  have replayed := run_replay resting (steady.live resting) bearsFirst (by omega)
  have rested := Relay.potential_replays.ended replayed
  have drained := run_drain rested ((steady_run steady _).live rested) (bears_run bearsSecond _)
    (by rw [replayed.outbox]; omega)
  rw [← run_append] at drained
  obtain ⟨ended, outbox⟩ := drained.ended
  refine keptOn.cleared ended outbox ?_
  rw [drained.letters, replayed.letters]

theorem cleared_run_drain_replay (kept : ledger.Kept) (steady : ledger.Steady)
    (resting : ledger.relay.pass = none)
    (bearsFirst : ledger.relay.policy.Bears first) (bearsSecond : ledger.relay.policy.Bears second)
    (enoughFirst : ledger.relay.waiting ≤ first.length)
    (enoughSecond : ledger.relay.waiting ≤ second.length) :
    (ledger.run (.drain :: replies first ++ .replay :: replies second)).relay.Cleared := by
  have keptOn := kept_run kept (.drain :: replies first ++ .replay :: replies second)
  unfold Relay.waiting at enoughFirst enoughSecond
  have drained := run_drain resting (steady.live resting) bearsFirst (by omega)
  obtain ⟨ended, outbox⟩ := drained.ended
  have total := drained.total
  have replayed := run_replay ended ((steady_run steady _).live ended) (bears_run bearsSecond _)
    (by rw [drained.letters]; omega)
  rw [← run_append] at replayed
  exact keptOn.cleared (Relay.potential_replays.ended replayed) (replayed.outbox.trans outbox)
    replayed.letters

end BothPasses

/-- Only enqueuing puts anything into the outbox. -/
theorem enqueued_run (ledger : Ledger) {moves : List RelayMove}
    (quiet : ∀ events, .enqueue events ∉ moves) :
    (ledger.run moves).enqueued = ledger.enqueued := by
  induction moves generalizing ledger with
  | nil => rfl
  | cons step rest inductionHypothesis =>
      have quietRest (events : List Event) : .enqueue events ∉ rest := fun member =>
        quiet events (List.mem_cons_of_mem _ member)
      refine (inductionHypothesis (ledger.move step) quietRest).trans ?_
      cases step with
      | enqueue events => exact absurd List.mem_cons_self (quiet events)
      | drain => rfl
      | replay => rfl
      | answer reply => rfl

theorem enqueue_not_mem_replies (rows : List (List Setback)) (events : List Event) :
    .enqueue events ∉ replies rows := by
  simp [replies, repliesTo]

/-- What a cleared relay was given has gone out. -/
theorem Kept.delivered (kept : ledger.Kept) (cleared : ledger.relay.Cleared) (stream : String) :
    onStream stream ledger.accepted = onStream stream (ledger.enqueued.map Event.envelope) := by
  have nothing : ledger.relay.holdings.ofStream stream = [] := by
    simp [Relay.holdings, cleared.resting, cleared.letters, cleared.held, Relay.untried,
      cleared.outbox, Holdings.ofStream, payloads]
  rw [← kept.ordered stream, nothing, List.append_nil]

end Ledger

/-- From any state between two passes, once the bus takes each envelope before the
retries run out: a pass over the letters and one over the outbox, in either order,
leave nothing waiting and no request held up, and all that was ever put into the
outbox has been accepted, each once and in the order of its request. -/
theorem replay_and_drain_deliver_all (topic : String) (policy : RetryPolicy) (capacity : Nat)
    (moves : List RelayMove) {first second : List (List Setback)}
    (resting : ((Ledger.start topic policy capacity).run moves).relay.pass = none)
    (bears : policy.Bears (first ++ second))
    (enoughFirst : ((Ledger.start topic policy capacity).run moves).relay.waiting ≤ first.length)
    (enoughSecond :
      ((Ledger.start topic policy capacity).run moves).relay.waiting ≤ second.length) :
    let ledger := (Ledger.start topic policy capacity).run moves
    ∀ passes ∈ [.replay :: Ledger.replies first ++ .drain :: Ledger.replies second,
        .drain :: Ledger.replies first ++ .replay :: Ledger.replies second],
      let after := ledger.run passes
      after.relay.Cleared ∧
        after.accepted.Perm (ledger.enqueued.map Event.envelope) ∧
        ∀ request, onStream (requestStream request) after.accepted =
          (ledger.enqueued.filter fun event => decide (event.request = request)).map
            Event.envelope := by
  intro ledger passes member after
  have kept : ledger.Kept := Ledger.kept_run (Ledger.kept_start topic policy capacity) moves
  have keptOn : after.Kept := Ledger.kept_run kept passes
  have steady : ledger.Steady :=
    Ledger.steady_run (Ledger.steady_start topic policy capacity) moves
  have bearsFirst : ledger.relay.policy.Bears first :=
    Ledger.bears_run (fun row inFirst => bears row (List.mem_append_left _ inFirst)) moves
  have bearsSecond : ledger.relay.policy.Bears second :=
    Ledger.bears_run (fun row inSecond => bears row (List.mem_append_right _ inSecond)) moves
  have cleared : after.relay.Cleared := by
    rcases List.mem_cons.mp member with rfl | other
    · exact Ledger.cleared_run_replay_drain kept steady resting bearsFirst bearsSecond enoughFirst
        enoughSecond
    · cases List.mem_singleton.mp other
      exact Ledger.cleared_run_drain_replay kept steady resting bearsFirst bearsSecond enoughFirst
        enoughSecond
  have nothingNew : after.enqueued = ledger.enqueued := by
    refine Ledger.enqueued_run ledger fun events => ?_
    have silent := fun rows => Ledger.enqueue_not_mem_replies rows events
    rcases List.mem_cons.mp member with rfl | other
    · simp [silent]
    · cases List.mem_singleton.mp other
      simp [silent]
  have delivered := keptOn.delivered cleared
  rw [nothingNew] at delivered
  refine ⟨cleared, perm_of_onStream delivered, fun request => ?_⟩
  rw [delivered, onStream_envelopes]

namespace Sample

def twice : RetryPolicy := { onceOnly with maxRetries := 1 }

/-- With room for one letter, the first announcement is parked, the second is held
behind it, that of another request stalls the pass, and the third comes later. -/
def outage : List RelayMove :=
  [.enqueue [opening, numbered opening 2, foreign], .drain, .answer refused, .answer refused,
    .answer refused, .answer refused, .enqueue [numbered opening 3]]

/-- Every other envelope is taken at the second try only. -/
def obliging : List (List Setback) := [[shut], [], [shut], []]

end Sample

/-- Something is parked, held, stalled and waiting, and all of it goes out. -/
theorem outage_is_made_good :
    let ledger := (Ledger.start "requests" Sample.twice 1).run Sample.outage
    ledger.relay.pass = none ∧
      ledger.relay.letters.size = 1 ∧ ledger.relay.heldCount = 1 ∧
      ledger.relay.outbox = [Sample.foreign, Sample.numbered Sample.opening 3] ∧
      ∀ passes ∈ [.replay :: Ledger.replies Sample.obliging ++
            .drain :: Ledger.replies Sample.obliging,
          .drain :: Ledger.replies Sample.obliging ++ .replay :: Ledger.replies Sample.obliging],
        (ledger.run passes).relay.Cleared ∧
          onStream (requestStream (.numbered 5)) (ledger.run passes).accepted =
            [Sample.opening, Sample.numbered Sample.opening 2,
              Sample.numbered Sample.opening 3].map Event.envelope := by
  intro ledger
  have resting : ledger.relay.pass = none := by decide +kernel
  have bears : Sample.twice.Bears (Sample.obliging ++ Sample.obliging) := by
    unfold RetryPolicy.Bears
    decide +kernel
  have enough : ledger.relay.waiting ≤ Sample.obliging.length := by decide +kernel
  refine ⟨resting, by decide +kernel, by decide +kernel, by decide +kernel, ?_⟩
  intro passes member
  obtain ⟨cleared, -, inOrder⟩ := replay_and_drain_deliver_all "requests" Sample.twice 1
    Sample.outage resting bears enough enough passes member
  refine ⟨cleared, (inOrder (.numbered 5)).trans ?_⟩
  decide +kernel

end BenefitCasework
