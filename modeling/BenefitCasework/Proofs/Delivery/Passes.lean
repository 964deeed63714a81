import BenefitCasework.Proofs.Delivery.Recovery

/-!
Contract: a pass of the relay comes to its end, whatever the bus answers, unless a panic
unwinds it.

Owns:
- `Ledger.passAfter`, a pass with so many answers of the bus, and what the last of
  them led to;
- `Relay.Stage`, a statement about a pass under way, with the envelopes it has sent
  and a bound on those it has still to decide about, and `Relay.Conducts`, that the
  statement is carried through the pass;
- `Ledger.Unwinds`, that a pass is unwound, and `Ledger.not_unwinds`, that none is when
  the longest wait is not enormous;
- `Ledger.exists_finished`, that such a pass ends in a report.

Retries are limited, so each envelope is decided about after finitely many answers.
Does not own: what the reports say.
-/

namespace BenefitCasework

namespace Relay

/-! ### A pass under way -/

/-- A statement about a pass under way and what its last move led to, with the number
of envelopes that it has sent and a bound on those that it has still to decide about. -/
abbrev Stage := Nat → Nat → Relay → Progress → Prop

/-- The statement is carried through a pass. Each envelope that is decided about brings
the bound down. -/
structure Conducts (stage : Stage) : Prop where
  ended_or_under {sent left : Nat} {relay : Relay} {progress : Progress} :
    stage sent left relay progress →
      (∃ report, progress = .finished report) ∨ ∃ source tried, relay.pass = some ⟨source, tried⟩
  retried {sent left : Nat} {relay : Relay} {progress : Progress} {source : Source}
      {tried : UInt32} :
    stage sent left relay progress → relay.pass = some ⟨source, tried⟩ →
      ∀ later tally wait,
        stage sent left (relay.midway (some ⟨source, later⟩) tally) (.waiting wait)
  published {sent left : Nat} {relay : Relay} {progress : Progress} {source : Source}
      {tried : UInt32} :
    stage sent left relay progress → relay.pass = some ⟨source, tried⟩ → ∀ tally,
      let next := (relay.midway relay.pass tally).published source
      ∃ fewer < left, stage (sent + 1) fewer next.1 next.2
  givenUp {sent left : Nat} {relay : Relay} {progress : Progress} {source : Source}
      {tried : UInt32} :
    stage sent left relay progress → relay.pass = some ⟨source, tried⟩ →
      ∀ tally attempts text,
        let next := (relay.midway relay.pass tally).givenUp source attempts text
        ∃ fewer < left, stage sent fewer next.1 next.2

/-- How many tries of the envelope in hand have failed. -/
def tried (relay : Relay) : Nat :=
  match relay.pass with
  | some pass => pass.attempt.toNat
  | none => 0

/-- A bound on the answers that a pass has still to get. -/
def triesLeft (relay : Relay) (left : Nat) : Nat :=
  left * (relay.policy.maxRetries.toNat + 1) + (relay.policy.maxRetries.toNat - relay.tried)

/-- With fewer envelopes to decide about, fewer tries are left. -/
theorem triesLeft_lt_of_lt {relay next : Relay} (same : next.policy = relay.policy)
    {left fewer : Nat} (less : fewer < left) : next.triesLeft fewer < relay.triesLeft left := by
  have whole := Nat.mul_le_mul_right (relay.policy.maxRetries.toNat + 1) (Nat.succ_le_of_lt less)
  rw [Nat.succ_mul] at whole
  simp only [triesLeft, same]
  omega

/-- With one more failed try of the envelope in hand, fewer tries are left. -/
theorem triesLeft_lt_of_tried {relay next : Relay} (same : next.policy = relay.policy)
    {tried : UInt32} {source : Source} (under : relay.pass = some ⟨source, tried⟩)
    (underNext : next.pass = some ⟨source, tried + 1⟩) (below : tried < relay.policy.maxRetries)
    (left : Nat) : next.triesLeft left < relay.triesLeft left := by
  have bound := UInt32.lt_iff_toNat_lt.mp below
  simp only [triesLeft, same, Relay.tried, under, underNext, RetryPolicy.toNat_next_try below]
  omega

end Relay

namespace Ledger

/-! ### A pass and its report -/

/-- What a move of the relay leads to. -/
def progress (ledger : Ledger) : RelayMove → Progress
  | .enqueue _ => .idle
  | .drain => ledger.relay.beginDrain.2
  | .replay => ledger.relay.beginReplay.2
  | .answer reply => (ledger.relay.attempt reply).2

def proceed (ledger : Ledger) (step : RelayMove) : Ledger × Progress :=
  (ledger.move step, ledger.progress step)

/-- A pass behind so many answers of the bus. -/
def passAfter (ledger : Ledger) (kind : RelayMove) (outcomes : Nat → Except Setback Unit) :
    Nat → Ledger × Progress
  | 0 => ledger.proceed kind
  | asked + 1 => (ledger.passAfter kind outcomes asked).1.proceed (.answer (outcomes asked))

/-- A pass is a row of moves. -/
theorem fst_passAfter (ledger : Ledger) (kind : RelayMove) (outcomes : Nat → Except Setback Unit)
    (asked : Nat) :
    (ledger.passAfter kind outcomes asked).1 =
      ledger.run (kind :: (List.range asked).map fun place => .answer (outcomes place)) := by
  induction asked with
  | zero => rfl
  | succ asked inductionHypothesis =>
      rw [List.range_succ, List.map_append, ← List.cons_append, run_append, ← inductionHypothesis]
      rfl

/-- A panic unwinds the pass. -/
def Unwinds (ledger : Ledger) (kind : RelayMove) (outcomes : Nat → Except Setback Unit) : Prop :=
  ∃ asked, (ledger.passAfter kind outcomes asked).1.relay.unwound = true

/-- With a longest wait that is not enormous no pass is unwound. -/
theorem not_unwinds {ledger : Ledger} (live : ledger.relay.unwound = false)
    (short : ledger.relay.policy.maxDelay.seconds < 2 ^ 59) {kind : RelayMove}
    (begins : ∀ reply, kind ≠ .answer reply) {outcomes : Nat → Except Setback Unit}
    (drawn : ∀ place setback, outcomes place = .error setback → Drawn setback.factor) :
    ¬ ledger.Unwinds kind outcomes := by
  rintro ⟨asked, unwound⟩
  rw [fst_passAfter] at unwound
  have drawnInPass : ∀ setback, .answer (.error setback) ∈
      kind :: (List.range asked).map (fun place => RelayMove.answer (outcomes place)) →
        Drawn setback.factor := by
    intro setback member
    rcases List.mem_cons.mp member with same | answered
    · exact absurd same.symm (begins _)
    · obtain ⟨place, -, same⟩ := List.mem_map.mp answered
      exact drawn place setback (RelayMove.answer.inj same)
  exact Bool.false_ne_true ((live_run live short drawnInPass).symm.trans unwound)

section Stages

variable {stage : Relay.Stage} {ledger : Ledger} {progress : Progress} {sent left : Nat}

/-- An answer carries the statement on; what it lets out is counted, and fewer tries
are left. Or it unwinds the pass. -/
theorem proceed_answer (conducts : Relay.Conducts stage)
    (holds : stage sent left ledger.relay progress) {source : Source} {tried : UInt32}
    (under : ledger.relay.pass = some ⟨source, tried⟩) (reply : Except Setback Unit) :
    let next := ledger.proceed (.answer reply)
    next.1.relay.unwound = true ∨
    ∃ more fewer, stage (sent + more) fewer next.1.relay next.2 ∧
      next.1.accepted.length = ledger.accepted.length + more ∧
      next.1.relay.triesLeft fewer < ledger.relay.triesLeft left := by
  intro next
  have samePolicy : next.1.relay.policy = ledger.relay.policy := policy_run ledger [.answer reply]
  have reached : (next.1.relay, next.2) = ledger.relay.attempt reply := rfl
  have accepted : next.1.accepted.length =
      ledger.accepted.length + (ledger.relay.sentBy reply).length := List.length_append
  rcases Relay.attempt_cases under reply with ⟨tally, -, taken, moved⟩ |
    ⟨tally, wait, -, untaken, below, moved⟩ | ⟨tally, attempts, text, -, untaken, moved⟩ |
    ⟨-, -, moved⟩
  · obtain ⟨fewer, less, later⟩ := conducts.published holds under tally
    rw [← moved, ← reached] at later
    rw [taken] at accepted
    exact .inr ⟨1, fewer, later, accepted, Relay.triesLeft_lt_of_lt samePolicy less⟩
  · have later := conducts.retried holds under (tried + 1) tally wait
    obtain ⟨relayed, told⟩ := Prod.mk.inj (reached.trans moved)
    rw [← relayed, ← told] at later
    rw [untaken] at accepted
    have underNext : next.1.relay.pass = some ⟨source, tried + 1⟩ := congrArg Relay.pass relayed
    exact .inr ⟨0, left, later, accepted,
      Relay.triesLeft_lt_of_tried samePolicy under underNext below left⟩
  · obtain ⟨fewer, less, later⟩ := conducts.givenUp holds under tally attempts text
    rw [← moved, ← reached] at later
    rw [untaken] at accepted
    exact .inr ⟨0, fewer, later, accepted, Relay.triesLeft_lt_of_lt samePolicy less⟩
  · exact .inl (congrArg (·.1.unwound) (reached.trans moved))

/-- Whatever the bus answers, a pass that is not unwound ends in a report, and the statement
holds of it. -/
theorem exists_finished (conducts : Relay.Conducts stage) (kind : RelayMove)
    (begun : stage 0 left (ledger.proceed kind).1.relay (ledger.proceed kind).2)
    (unsent : (ledger.proceed kind).1.accepted = ledger.accepted)
    {outcomes : Nat → Except Setback Unit} (goesOn : ¬ ledger.Unwinds kind outcomes) :
    ∃ asked report after sent left,
      ledger.passAfter kind outcomes asked = (after, .finished report) ∧
      stage sent left after.relay (.finished report) ∧
      after.accepted.length = ledger.accepted.length + sent := by
  -- Behind so many answers the pass has ended, or as many tries fewer are left.
  let bound := (ledger.proceed kind).1.relay.triesLeft left
  have onward (asked : Nat) :
      (∃ asked report after sent left,
        ledger.passAfter kind outcomes asked = (after, .finished report) ∧
        stage sent left after.relay (.finished report) ∧
        after.accepted.length = ledger.accepted.length + sent) ∨
      ∃ sent left, stage sent left (ledger.passAfter kind outcomes asked).1.relay
          (ledger.passAfter kind outcomes asked).2 ∧
        (ledger.passAfter kind outcomes asked).1.accepted.length =
          ledger.accepted.length + sent ∧
        (ledger.passAfter kind outcomes asked).1.relay.triesLeft left + asked ≤ bound := by
    induction asked with
    | zero => exact .inr ⟨0, left, begun, congrArg List.length unsent, Nat.le_refl _⟩
    | succ asked inductionHypothesis =>
        rcases inductionHypothesis with ended | ⟨sent, left, holds, counted, few⟩
        · exact .inl ended
        · rcases conducts.ended_or_under holds with ⟨report, told⟩ | ⟨source, tried, under⟩
          · rw [told] at holds
            exact .inl ⟨asked, report, _, sent, left, Prod.ext rfl told, holds, counted⟩
          · rcases proceed_answer conducts holds under (outcomes asked) with
              unwound | ⟨more, fewer, later, grown, less⟩
            · exact absurd ⟨asked + 1, unwound⟩ goesOn
            · refine .inr ⟨sent + more, fewer, later, ?_, ?_⟩
              · rw [passAfter, grown, counted, Nat.add_assoc]
              · rw [passAfter]
                omega
  rcases onward (bound + 1) with ended | ⟨sent, left, -, -, tooFew⟩
  · exact ended
  · omega

end Stages

end Ledger

end BenefitCasework
