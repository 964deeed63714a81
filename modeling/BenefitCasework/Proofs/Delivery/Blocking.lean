import BenefitCasework.Proofs.Delivery.RelayOrder
import Mathlib.Data.Set.List

/-!
Contract: each parked letter blocks its request, nothing else does, and no more
letters are parked than there is room for.

Owns:
- `Relay.Fits`, all that blocks a stream fits into the dead letters, also in the
  middle of a pass;
- one such statement for each part of a pass, and `Ledger.fits_run` for a row of
  moves;
- `Ledger.Kept.exists_ahead`, that what is held was put into the outbox behind what
  is parked;
- `parked_letters_block_their_requests`.

A pass over the letters puts back those that failed without asking for room. That
there is room follows from the count: of each letter that it took, at most one
envelope is in hand or has failed, its own or one held behind it. Does not own:
the order of what waits.
-/

namespace BenefitCasework

namespace Relay

/-- All that blocks a stream fits into the dead letters. -/
def Fits (relay : Relay) : Prop := relay.holdings.blocking.length ≤ relay.letters.capacity

/-! ### The parts of a pass -/

section Parts

variable {relay : Relay}

/-- A relay at rest has its letters for all that blocks. -/
theorem fits_iff_of_resting (resting : relay.pass = none) :
    relay.Fits ↔ relay.letters.size ≤ relay.letters.capacity := by
  rw [Fits, holdings, resting, length_payloads]
  rfl

theorem fits_drainFrom (events : List Event) (relay : Relay) (report : DrainReport)
    (room : relay.letters.size ≤ relay.letters.capacity) :
    (relay.drainFrom report events).1.Fits := by
  have counted : (payloads relay.letters.letters).length ≤ relay.letters.capacity := by
    rw [length_payloads]
    exact room
  induction events generalizing relay report with
  | nil => exact counted
  | cons event rest inductionHypothesis =>
      rw [drainFrom_cons]
      split
      · exact inductionHypothesis _ _ room counted
      · exact counted

/-- The next letter is taken in hand, or the failed ones come back. -/
theorem fits_replayOn (work : ReplayWork)
    (room : (relay.replaying work []).blocking.length ≤ relay.letters.capacity) :
    (relay.replayOn work).1.Fits := by
  obtain ⟨rest, failing, report⟩ := work
  cases rest with
  | nil =>
      have back : (relay.replayOn ⟨[], failing, report⟩).1.holdings.blocking =
          (relay.replaying ⟨[], failing, report⟩ []).blocking := by
        simp [replayOn, finish, holdings, replaying, DeadLetters.restore, payloads]
      rw [Fits, back]
      exact room
  | cons letter rest => exact room

/-- In the place of an envelope that went out, at most one other blocks. -/
theorem fits_releaseOn (stream : String) (work : ReplayWork) (envelope : Envelope)
    (room : (relay.replaying work [envelope]).blocking.length ≤ relay.letters.capacity) :
    (relay.releaseOn stream work).1.Fits := by
  unfold releaseOn
  split
  · refine Nat.le_trans (Nat.le_of_eq ?_) room
    simp [publish, holdings, replaying]
  · refine fits_replayOn work (Nat.le_trans ?_ room)
    simp [replaying]

theorem fits_published {source : Source} {attempt : UInt32} (fits : relay.Fits)
    (under : relay.pass = some ⟨source, attempt⟩) : (relay.published source).1.Fits := by
  rw [Fits, holdings, under] at fits
  cases source with
  | outbox event report =>
      rw [length_payloads] at fits
      exact fits_drainFrom relay.outbox relay _ fits
  | parked letter work => exact fits_releaseOn _ { work with report := _ } letter.payload fits
  | held envelope work => exact fits_releaseOn _ { work with report := _ } envelope fits

theorem letters_block (relay : Relay) (stream : String) :
    (relay.block stream).letters = relay.letters := by
  unfold block
  split <;> rfl

theorem fits_givenUp {source : Source} {attempt : UInt32} (fits : relay.Fits)
    (under : relay.pass = some ⟨source, attempt⟩) (attempts : UInt32) (reason : String) :
    (relay.givenUp source attempts reason).1.Fits := by
  rw [Fits, holdings, under] at fits
  cases source with
  | outbox event report =>
      by_cases full : relay.letters.isFull = true
      · simp only [givenUp, DeadLetters.push, full, if_true]
        exact fits
      · -- Only a letter for which there is room is added.
        have below : relay.letters.size < relay.letters.capacity := by
          simpa [DeadLetters.isFull] using full
        simp only [givenUp, DeadLetters.push, full]
        refine fits_drainFrom _ _ _ ?_
        rw [letters_block]
        simpa [DeadLetters.size] using Nat.succ_le_of_lt below
  | parked letter work =>
      have added := replaying_append_failing relay work
        ⟨letter.payload, addAttempts letter.attempts attempts, reason⟩
      exact fits_replayOn _ (added ▸ fits)
  | held envelope work =>
      have added := replaying_append_failing relay work ⟨envelope, attempts, reason⟩
      exact fits_replayOn _ (added ▸ fits)

end Parts

/-! ### Whole moves -/

section Moves

variable {relay : Relay}

theorem fits_attempt (fits : relay.Fits) (answer : Except Setback Unit) :
    (relay.attempt answer).1.Fits := by
  cases under : relay.pass with
  | none =>
      rw [attempt_of_resting under]
      exact fits
  | some pass =>
      obtain ⟨source, tried⟩ := pass
      rcases attempt_cases under answer with ⟨tally, -, -, moved⟩ | ⟨tally, wait, -, -, -, moved⟩ |
        ⟨tally, attempts, text, -, -, moved⟩ | ⟨-, -, moved⟩
      · have counted : (relay.midway relay.pass tally).Fits := fits
        rw [moved]
        exact fits_published counted under
      · rw [moved, Fits, holdings_midway under]
        exact fits
      · have counted : (relay.midway relay.pass tally).Fits := fits
        rw [moved]
        exact fits_givenUp counted under attempts text
      · rw [moved]
        exact fits

theorem fits_beginDrain (fits : relay.Fits) : relay.beginDrain.1.Fits := by
  unfold beginDrain
  cases resting : relay.pass with
  | some pass => exact fits
  | none => exact fits_drainFrom _ relay .start ((fits_iff_of_resting resting).mp fits)

theorem fits_beginReplay (fits : relay.Fits) : relay.beginReplay.1.Fits := by
  unfold beginReplay
  cases resting : relay.pass with
  | some pass => exact fits
  | none =>
      refine fits_replayOn _ ?_
      have room := (fits_iff_of_resting resting).mp fits
      simpa [replaying, DeadLetters.emptied, DeadLetters.size] using room

theorem fits_enqueue (fits : relay.Fits) (events : List Event) : (relay.enqueue events).Fits := by
  rw [Fits, holdings_enqueue]
  exact fits

end Moves

end Relay

namespace Ledger

theorem fits_move {ledger : Ledger} (fits : ledger.relay.Fits) (step : RelayMove) :
    (ledger.move step).relay.Fits := by
  cases step with
  | enqueue events => exact Relay.fits_enqueue fits events
  | drain => exact Relay.fits_beginDrain fits
  | replay => exact Relay.fits_beginReplay fits
  | answer reply => exact Relay.fits_attempt fits reply

theorem fits_run {ledger : Ledger} (fits : ledger.relay.Fits) (moves : List RelayMove) :
    (ledger.run moves).relay.Fits := by
  induction moves generalizing ledger with
  | nil => exact fits
  | cons step rest inductionHypothesis => exact inductionHypothesis (fits_move fits step)

section AtRest

variable {ledger : Ledger}

/-- Between two passes nothing but the parked letters blocks. -/
theorem holdings_of_resting (resting : ledger.relay.pass = none) :
    ledger.relay.holdings =
      ⟨payloads ledger.relay.letters.letters, ledger.relay.held, ledger.relay.untried⟩ := by
  rw [Relay.holdings, resting]

/-- What is parked was put into the outbox. -/
theorem Kept.exists_parked (kept : ledger.Kept) (resting : ledger.relay.pass = none)
    {envelope : Envelope} (parked : envelope ∈ payloads ledger.relay.letters.letters) :
    ∃ event ∈ ledger.enqueued, event.envelope = envelope := by
  have onItsStream : envelope ∈ onStream envelope.stream (payloads ledger.relay.letters.letters) :=
    List.mem_filter.mpr ⟨parked, decide_eq_true rfl⟩
  have enqueued : envelope ∈ onStream envelope.stream (ledger.enqueued.map Event.envelope) := by
    rw [← kept.ordered, holdings_of_resting resting, Holdings.ofStream]
    simp only [List.mem_append]
    exact .inr (.inl (.inl onItsStream))
  exact List.mem_map.mp (List.mem_filter.mp enqueued).1

/-- What is held was put into the outbox behind a parked envelope of its stream. -/
theorem Kept.exists_ahead (kept : ledger.Kept) (resting : ledger.relay.pass = none)
    {stream : String} {waiting : List Envelope} {envelope : Envelope}
    (found : ledger.relay.held.get? stream = some waiting) (held : envelope ∈ waiting) :
    ∃ ahead ∈ payloads ledger.relay.letters.letters, ahead.stream = envelope.stream ∧
      [ahead, envelope].Sublist (ledger.enqueued.map Event.envelope) := by
  obtain ⟨sound, -, ordered⟩ := kept
  rw [holdings_of_resting resting] at sound ordered
  have same : envelope.stream = stream := sound.inPlace stream waiting found envelope held
  obtain ⟨ahead, parked, aheadStream⟩ :=
    List.mem_map.mp ((sound.blocked stream).mp (by simp [found]))
  refine ⟨ahead, parked, aheadStream.trans same.symm, ?_⟩
  have first : [ahead].Sublist (onStream stream (payloads ledger.relay.letters.letters)) :=
    List.singleton_sublist.mpr (List.mem_filter.mpr ⟨parked, decide_eq_true aheadStream⟩)
  have second : [envelope].Sublist ((ledger.relay.held.get? stream).getD []) := by
    rw [found]
    exact List.singleton_sublist.mpr held
  have onTheirStream : [ahead, envelope].Sublist
      (onStream stream (ledger.enqueued.map Event.envelope)) := by
    rw [← ordered stream, Holdings.ofStream]
    exact ((first.append second).trans (List.sublist_append_left _ _)).trans
      (List.sublist_append_right _ _)
  exact onTheirStream.trans List.filter_sublist

end AtRest

end Ledger

/-- Between two passes the parked letters are of different requests, and these are
the requests that are held up; what is held was put into the outbox behind a parked
announcement of its request; and no more is parked than there is room for. -/
theorem parked_letters_block_their_requests (topic : String) (policy : RetryPolicy)
    (capacity : Nat) (moves : List RelayMove)
    (resting : ((Ledger.start topic policy capacity).run moves).relay.pass = none) :
    let ledger := (Ledger.start topic policy capacity).run moves
    let parked := payloads ledger.relay.letters.letters
    (∃ requests : List Identifier, requests.Nodup ∧
      parked.map Envelope.stream = requests.map requestStream ∧
      ∀ stream, stream ∈ Table.keys ledger.relay.held ↔ stream ∈ requests.map requestStream) ∧
    (∀ stream waiting, ledger.relay.held.get? stream = some waiting →
      ∀ envelope ∈ waiting, ∃ ahead ∈ parked, ahead.stream = envelope.stream ∧
        [ahead, envelope].Sublist (ledger.enqueued.map Event.envelope)) ∧
    ledger.relay.letters.size ≤ max capacity 1 := by
  intro ledger parked
  have kept : ledger.Kept := Ledger.kept_run (Ledger.kept_start topic policy capacity) moves
  have fits : ledger.relay.Fits := Ledger.fits_run (Nat.zero_le _) moves
  have standing := Ledger.standing_run (Ledger.start topic policy capacity) moves
  have sameRoom : ledger.relay.letters.capacity = max capacity 1 :=
    congrArg Relay.Standing.capacity standing
  have sound := kept.sound
  rw [Ledger.holdings_of_resting resting] at sound
  refine ⟨?_, ?_, sameRoom ▸ (Relay.fits_iff_of_resting resting).mp fits⟩
  · have made : parked ∈ Set.range (List.map Event.envelope) := by
      rw [Set.range_list_map]
      intro envelope member
      obtain ⟨event, -, same⟩ := kept.exists_parked resting member
      exact ⟨event, same⟩
    obtain ⟨events, same⟩ := made
    have streams : parked.map Envelope.stream = (events.map Event.request).map requestStream := by
      rw [← same, List.map_map, List.map_map]
      rfl
    refine ⟨events.map Event.request, ?_, streams, fun stream => ?_⟩
    · exact List.Nodup.of_map requestStream (streams ▸ sound.distinct)
    · rw [Table.mem_keys_iff, sound.blocked stream, ← streams]
  · intro stream waiting found envelope held
    exact kept.exists_ahead resting found held

namespace Sample

/-- In the next pass the announcement of the other request goes out, and the last
of the three is held behind the second. -/
def heldUp : List RelayMove := troubles ++ [.drain, .answer (.ok ())]

end Sample

/-- The second announcement takes up all the room and holds up the third. -/
theorem third_waits_behind_the_second :
    let ledger := (Ledger.start "requests" Sample.onceOnly 1).run Sample.heldUp
    let parked := payloads ledger.relay.letters.letters
    ledger.relay.pass = none ∧
      parked = [(Sample.numbered Sample.opening 2).envelope] ∧
      ledger.relay.letters.size ≤ 1 ∧
      requestStream (.numbered 5) ∈ Table.keys ledger.relay.held ∧
      requestStream (.numbered 7) ∉ Table.keys ledger.relay.held ∧
      ∃ ahead ∈ parked, [ahead, (Sample.numbered Sample.opening 3).envelope].Sublist
        (ledger.enqueued.map Event.envelope) := by
  intro ledger parked
  have resting : ledger.relay.pass = none := by decide +kernel
  have told : parked = [(Sample.numbered Sample.opening 2).envelope] := by decide +kernel
  have held : ledger.relay.held.get? (requestStream (.numbered 5)) =
      some [(Sample.numbered Sample.opening 3).envelope] := by decide +kernel
  obtain ⟨⟨requests, -, streams, keys⟩, behind, room⟩ :=
    parked_letters_block_their_requests "requests" Sample.onceOnly 1 Sample.heldUp resting
  rw [← streams] at keys
  obtain ⟨ahead, member, -, inOrder⟩ := behind _ _ held _ (List.mem_singleton.mpr rfl)
  refine ⟨resting, told, room, (keys _).mpr ?_, fun blocked => ?_, ahead, member, inOrder⟩
  · rw [show payloads ledger.relay.letters.letters = _ from told]
    decide +kernel
  · have parkedToo := (keys _).mp blocked
    rw [show payloads ledger.relay.letters.letters = _ from told] at parkedToo
    revert parkedToo
    decide +kernel

end BenefitCasework
