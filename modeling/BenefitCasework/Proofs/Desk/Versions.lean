import BenefitCasework.Proofs.Desk.Serving

/-!
Contract: no change to a request is lost, whoever calls and in whatever order.

Owns:
- `version_apply`, that an accepted operation raises the version;
- `Visit`, one call on a request with the desk that it finds, and `Visited`, a
  row of visits of which each finds the request as the last one left it;
- `Request.updatedBy`, the plain operations of some visits one after the other;
- `visits_lose_no_update`.

Between two visits everything on the desk but the request may change: the other
requests, the routes, documents and channels, the log and the signer. Does not
own: what an operation does.
-/

namespace BenefitCasework

namespace Request

theorem version_apply {request : Request} {operation : Operation} (call : Call) (office : Office)
    (fresh : Nat → Identifier)
    (accepted : (request.apply operation call office fresh).accepted = true) :
    let later := (request.apply operation call office fresh).request.version
    request.version ≤ later ∧
      (request.version.toNat + 1 < UInt64.size → request.version < later) := by
  have admitted := (accepted_apply_iff call office fresh).mp accepted
  have small := request.version.toNat_lt_size
  rw [apply_of_admits call office fresh admitted]
  simp only [version_carriedOut, UInt64.le_iff_toNat_le, UInt64.lt_iff_toNat_lt,
    toNat_iterate_nextVersion]
  omega

theorem id_apply (request : Request) (operation : Operation) (call : Call) (office : Office)
    (fresh : Nat → Identifier) : (request.apply operation call office fresh).request.id =
      request.id := by
  by_cases admitted : request.Admits operation call office
  · rw [apply_of_admits call office fresh admitted]
    exact id_carriedOut ..
  · obtain ⟨reason, refused⟩ := apply_of_not_admits call office fresh admitted
    rw [refused]
    rfl

end Request

/-- One call on a request, and the desk as it finds it. -/
structure Visit where
  desk : Desk
  call : Call
  expected : UInt64
  operation : Operation
  fresh : Nat → Identifier

namespace Visit

def reply (visit : Visit) (id : Identifier) : Reply :=
  visit.desk.perform visit.call id visit.expected visit.operation visit.fresh

/-- The visit has changed the request. -/
def succeeded (visit : Visit) (id : Identifier) : Bool :=
  match (visit.reply id).result with
  | .ok _ => true
  | .error _ => false

def outcome (visit : Visit) (request : Request) : Outcome :=
  request.apply visit.operation visit.call visit.desk.office visit.fresh

/-- The audit entry of the visit. -/
def entry (visit : Visit) (id : Identifier) (request : Request) : AuditEntry :=
  visit.desk.entryFor visit.call visit.operation.name id (visit.outcome request).request
    (visit.fresh (visit.operation.identifiersTaken (visit.outcome request).events))

/-- The version is the expected one, the operation is accepted, and so is the
audit entry. -/
structure Passes (visit : Visit) (id : Identifier) (stored : Request) : Prop where
  current : visit.expected = stored.version
  accepted : (visit.outcome stored).accepted = true
  recorded : (visit.desk.recorder.appendEntry (visit.entry id stored)).isOk = true

section Found

variable {visit : Visit} {id : Identifier} {stored : Request}

theorem propose_found (found : visit.desk.register.get? id = some stored) :
    visit.desk.propose visit.call (.perform id visit.expected visit.operation) visit.fresh =
      if stored.version = visit.expected then
        match (visit.outcome stored).result with
        | .error reason => .error reason
        | .ok events =>
            .ok ⟨(visit.outcome stored).request, events, visit.operation.identifiersTaken events⟩
      else .error (.concurrentModification stored.id visit.expected stored.version) := by
  simp only [Desk.propose, found, Request.checkVersion]
  by_cases current : stored.version = visit.expected
  · simp only [if_pos current]
    rfl
  · simp only [if_neg current]

/-- The log takes the entry of the visit exactly when it takes its identifier. -/
theorem isOk_appendEntry_iff (request : Request) :
    (visit.desk.recorder.appendEntry (visit.entry id request)).isOk = true ↔
      visit.desk.recorder.refusalOf?
        (visit.fresh (visit.operation.identifiersTaken (visit.outcome request).events)) = none := by
  exact Recorder.isOk_appendEntry_iff (visit.entry id request)

theorem result_of_stale (found : visit.desk.register.get? id = some stored)
    (stale : visit.expected ≠ stored.version) :
    (visit.reply id).result =
        .error (.concurrentModification stored.id visit.expected stored.version) ∧
      visit.desk.Untouched (visit.reply id).desk := by
  have refused := propose_found found
  rw [if_neg (Ne.symm stale)] at refused
  exact Desk.serve_of_not_proposed refused

theorem passed (found : visit.desk.register.get? id = some stored)
    (passes : visit.Passes id stored) :
    visit.succeeded id = true ∧
      (visit.reply id).desk.register.get? id = some (visit.outcome stored).request := by
  have proposed := propose_found found
  have room := (isOk_appendEntry_iff stored).mp passes.recorded
  have accepted := passes.accepted
  rw [if_pos passes.current.symm] at proposed
  unfold Outcome.events at room
  unfold Outcome.accepted at accepted
  cases carried : (visit.outcome stored).result with
  | error reason => simp [carried] at accepted
  | ok events =>
      rw [carried] at proposed room
      have vacant : (Demand.perform id visit.expected visit.operation).Vacant
          visit.desk.register visit.fresh := trivial
      obtain ⟨answer, committed⟩ := Desk.serve_of_room vacant proposed room
      have filed : (visit.reply id).desk.register =
          visit.desk.register.set id (visit.outcome stored).request := committed.register
      refine ⟨?_, by rw [filed, Table.get?_set_self]⟩
      rw [succeeded, show (visit.reply id).result = _ from answer]

theorem left_as_found (found : visit.desk.register.get? id = some stored)
    {reason : RequestError}
    (refused : (visit.reply id).result = .error reason ∧
      visit.desk.Untouched (visit.reply id).desk) :
    visit.succeeded id = false ∧ (visit.reply id).desk.register.get? id = some stored := by
  obtain ⟨answer, untouched⟩ := refused
  refine ⟨by rw [succeeded, answer], ?_⟩
  rw [untouched.register]
  exact found

/-- Any other visit is refused. -/
theorem stopped (found : visit.desk.register.get? id = some stored)
    (stops : ¬ visit.Passes id stored) :
    visit.succeeded id = false ∧ (visit.reply id).desk.register.get? id = some stored := by
  by_cases current : visit.expected = stored.version
  · have proposed := propose_found found
    rw [if_pos current.symm] at proposed
    cases carried : (visit.outcome stored).result with
    | error reason =>
        rw [carried] at proposed
        exact left_as_found found (Desk.serve_of_not_proposed proposed)
    | ok events =>
        rw [carried] at proposed
        have accepted : (visit.outcome stored).accepted = true := by
          rw [Outcome.accepted, carried]
        have noRoom := fun room => stops ⟨current, accepted, (isOk_appendEntry_iff stored).mpr room⟩
        rw [Outcome.events, carried] at noRoom
        obtain ⟨reason, refused⟩ := Option.ne_none_iff_exists'.mp noRoom
        exact left_as_found found (Desk.serve_of_refusal proposed refused)
  · exact left_as_found found (result_of_stale found current)

theorem succeeded_iff (found : visit.desk.register.get? id = some stored) :
    visit.succeeded id = true ↔ visit.Passes id stored := by
  by_cases passes : visit.Passes id stored
  · exact iff_of_true (passed found passes).1 passes
  · exact iff_of_false (by simp [(stopped found passes).1]) passes

end Found

end Visit

/-- What the plain operations of some visits make of a request, one after the
other. -/
def Request.updatedBy (request : Request) (visits : List Visit) : Request :=
  visits.foldl (fun reached visit => (visit.outcome reached).request) request

@[simp]
theorem Request.updatedBy_append_singleton (request : Request) (visits : List Visit)
    (last : Visit) :
    request.updatedBy (visits ++ [last]) = (last.outcome (request.updatedBy visits)).request := by
  simp [updatedBy]

/-- Visits to the request with an identifier. Each finds it as the visit before
has left it, and the last one leaves it as told. -/
inductive Visited (id : Identifier) (created : Request) : List Visit → Request → Prop where
  | nobody : Visited id created [] created
  | next {visits : List Visit} {stored left : Request} (earlier : Visited id created visits stored)
      (visit : Visit) (found : visit.desk.register.get? id = some stored)
      (leaves : (visit.reply id).desk.register.get? id = some left) :
      Visited id created (visits ++ [visit]) left

def successes (id : Identifier) (visits : List Visit) : List Visit :=
  visits.filter fun visit => visit.succeeded id

/-- Those of some visits that expect a version. -/
def expecting (expected : UInt64) (visits : List Visit) : List Visit :=
  visits.filter fun visit => decide (visit.expected = expected)

/-- The request on file is what the successful visits made of it, and its
version is ahead of all that they expected. -/
structure NothingLost (id : Identifier) (created : Request) (visits : List Visit)
    (stored : Request) : Prop where
  updated : stored = created.updatedBy (successes id visits)
  sameId : stored.id = created.id
  ahead : ∀ visit ∈ successes id visits, visit.expected.toNat + 1 < UInt64.size →
    visit.expected < stored.version
  once : ∀ expected : UInt64, expected.toNat + 1 < UInt64.size →
    (expecting expected (successes id visits)).length ≤ 1

namespace NothingLost

variable {id : Identifier} {created stored : Request} {visits : List Visit}

/-- A visit that succeeds is ahead of all before it. -/
theorem add (kept : NothingLost id created visits stored) {visit : Visit}
    (passes : visit.Passes id stored) (succeeded : visit.succeeded id = true) :
    NothingLost id created (visits ++ [visit]) (visit.outcome stored).request := by
  have more : successes id (visits ++ [visit]) = successes id visits ++ [visit] := by
    simp [successes, succeeded]
  obtain ⟨noLower, higher⟩ := Request.version_apply visit.call visit.desk.office visit.fresh
    passes.accepted
  refine ⟨?_, ?_, ?_, ?_⟩
  · rw [more, Request.updatedBy_append_singleton, ← kept.updated]
  · exact (Request.id_apply ..).trans kept.sameId
  · intro present member below
    rw [more] at member
    rcases List.mem_append.mp member with earlier | last
    · exact UInt64.lt_of_lt_of_le (kept.ahead present earlier below) noLower
    · rw [List.mem_singleton.mp last] at below ⊢
      rw [passes.current] at below ⊢
      exact higher below
  · intro expected below
    rw [more, expecting, List.filter_append, ← expecting, List.length_append]
    by_cases same : visit.expected = expected
    · -- Those before expected less than the version on file, which is the one in question.
      have nobodyElse : expecting expected (successes id visits) = [] := by
        apply List.filter_eq_nil_iff.mpr
        intro present member equal
        have isSame : present.expected = expected := of_decide_eq_true equal
        have less := kept.ahead present member (isSame ▸ below)
        rw [isSame, ← same, passes.current] at less
        exact UInt64.lt_irrefl _ less
      simp [nobodyElse, same]
    · simp [same, kept.once expected below]

/-- A visit that is refused changes nothing. -/
theorem skip (kept : NothingLost id created visits stored) {visit : Visit}
    (failed : visit.succeeded id = false) : NothingLost id created (visits ++ [visit]) stored := by
  have nothingNew : successes id (visits ++ [visit]) = successes id visits := by
    simp [successes, failed]
  exact ⟨nothingNew ▸ kept.updated, kept.sameId, nothingNew ▸ kept.ahead, nothingNew ▸ kept.once⟩

end NothingLost

namespace Visited

variable {id : Identifier} {created stored : Request} {visits : List Visit}

theorem nothingLost (visited : Visited id created visits stored) :
    NothingLost id created visits stored := by
  induction visited with
  | nobody =>
      exact ⟨rfl, rfl, fun visit member => absurd member List.not_mem_nil,
        fun expected below => Nat.zero_le 1⟩
  | @next visits stored left earlier visit found leaves inductionHypothesis =>
      by_cases passes : visit.Passes id stored
      · obtain ⟨succeeded, updated⟩ := Visit.passed found passes
        cases updated.symm.trans leaves
        exact inductionHypothesis.add passes succeeded
      · obtain ⟨failed, same⟩ := Visit.stopped found passes
        cases same.symm.trans leaves
        exact inductionHypothesis.skip failed

/-- Each visit of a row found what those before it have left. -/
theorem found_of_mem (visited : Visited id created visits stored) {front back : List Visit}
    {visit : Visit} (split : visits = front ++ visit :: back) :
    ∃ found, Visited id created front found ∧ visit.desk.register.get? id = some found := by
  -- The visit is the last one of the row, or in the row before it.
  induction visited generalizing back with
  | nobody => simp at split
  | @next visits stored left earlier last found leaves inductionHypothesis =>
      cases back using List.reverseRecOn with
      | nil =>
          obtain ⟨sameFront, sameVisit⟩ := List.append_inj' split rfl
          cases sameVisit
          cases sameFront
          exact ⟨stored, earlier, found⟩
      | append_singleton back final =>
          rw [← List.cons_append, ← List.append_assoc] at split
          exact inductionHypothesis (List.append_inj' split rfl).1

end Visited

/-- A visit succeeds exactly when it knows the version on file, its operation is
accepted, and so is its audit entry; nobody else succeeds with that version;
and what is on file in the end is what the operations of the successful visits
make of the request. -/
theorem visits_lose_no_update {id : Identifier} {created : Request} {visits : List Visit}
    {stored : Request} (visited : Visited id created visits stored) :
    (∀ front visit back, visits = front ++ visit :: back →
      let found := created.updatedBy (successes id front)
      visit.desk.register.get? id = some found ∧
        (visit.succeeded id = true ↔
          visit.expected = found.version ∧
            (visit.outcome found).accepted = true ∧
            (visit.desk.recorder.appendEntry (visit.entry id found)).isOk = true) ∧
        (visit.expected ≠ found.version →
          (visit.reply id).result =
            .error (.concurrentModification created.id visit.expected found.version))) ∧
      (∀ expected : UInt64, expected.toNat + 1 < UInt64.size →
        (expecting expected (successes id visits)).length ≤ 1) ∧
      stored = created.updatedBy (successes id visits) := by
  refine ⟨?_, visited.nothingLost.once, visited.nothingLost.updated⟩
  intro front visit back split
  obtain ⟨found, earlier, present⟩ := visited.found_of_mem split
  have kept := earlier.nothingLost
  rw [← kept.updated]
  refine ⟨present, ?_, ?_⟩
  · rw [Visit.succeeded_iff present]
    exact ⟨fun passes => ⟨passes.current, passes.accepted, passes.recorded⟩,
      fun ⟨current, accepted, recorded⟩ => ⟨current, accepted, recorded⟩⟩
  · intro stale
    rw [(Visit.result_of_stale present stale).1, kept.sameId]

namespace Sample

/-- The draft is handed in. -/
def submission : Visit :=
  ⟨{ desk with register := [(.numbered 5, opened)] }, call, 0, .submit, .fresh 10⟩

/-- Somebody else, who has seen the draft, cancels it. -/
def rival : Visit :=
  ⟨(submission.reply (.numbered 5)).desk, call, 0, .cancel "withdrawn", .fresh 20⟩

end Sample

/-- Of two rivals who know the same version, the first one wins. -/
theorem rival_loses :
    let submitted := (Sample.submission.outcome Sample.opened).request
    let rivals := [Sample.submission, Sample.rival]
    Visited (.numbered 5) Sample.opened rivals submitted ∧
      (expecting 0 (successes (.numbered 5) rivals)).length ≤ 1 ∧
      submitted = Sample.opened.updatedBy (successes (.numbered 5) rivals) ∧
      (Sample.rival.reply (.numbered 5)).result =
        .error (.concurrentModification (.numbered 5) 0 2) := by
  intro submitted rivals
  have handedIn : (Sample.submission.reply (.numbered 5)).desk.register.get? (.numbered 5) =
      some submitted := by decide +kernel
  have turnedAway : (Sample.rival.reply (.numbered 5)).desk.register.get? (.numbered 5) =
      some submitted := by decide +kernel
  have visited : Visited (.numbered 5) Sample.opened rivals submitted :=
    (Visited.nobody.next Sample.submission rfl handedIn).next Sample.rival handedIn turnedAway
  obtain ⟨each, once, updated⟩ := visits_lose_no_update visited
  obtain ⟨-, -, stale⟩ := each [Sample.submission] Sample.rival [] rfl
  have twoOn : (Sample.opened.updatedBy (successes (.numbered 5) [Sample.submission])).version =
      2 := by decide +kernel
  rw [twoOn] at stale
  exact ⟨visited, once 0 (by decide), updated, stale (by decide)⟩

end BenefitCasework
