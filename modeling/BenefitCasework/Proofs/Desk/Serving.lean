import BenefitCasework.Desk
import BenefitCasework.Proofs.Audit.Recording
import BenefitCasework.Proofs.Request.Run

/-!
Contract: a call is recorded, filed and announced, or it has left no trace.

Owns:
- `Demand` and `Desk.serve`, all calls that can change a request on file;
- `Desk.propose`, what a call would come to if it were recorded;
- `Desk.Committed` and `Desk.Untouched`, the two ends of a call, and
  `serve_commits_or_leaves_no_trace`.

Does not own: rows of calls, and the counts of a desk.
-/

namespace BenefitCasework

/-- What a caller asks of a desk. -/
inductive Demand where
  | create (new : NewRequest)
  | perform (id : Identifier) (expected : UInt64) (operation : Operation)

namespace Demand

/-- The stable name of a demand. -/
def name : Demand → OperationName
  | .create _ => .create
  | .perform _ _ operation => operation.name

def subject (fresh : Nat → Identifier) : Demand → Identifier
  | .create _ => fresh 0
  | .perform id _ _ => id

def discarded : Demand → Nat
  | .create _ => 1
  | .perform _ _ _ => 0

/-- The request as it was before. -/
def before (register : Register) : Demand → Option Request
  | .create _ => none
  | .perform id _ _ => register.get? id

/-- Files what a demand came to. -/
def file (request : Request) : Demand → Register → Except RequestError Register
  | .create _ => fun register => register.insert request
  | .perform id _ _ => fun register => .ok (register.set id request)

/-- An identifier that is drawn for a new request is on no file. -/
def Vacant (register : Register) (fresh : Nat → Identifier) : Demand → Prop
  | .create _ => register.get? (fresh 0) = none
  | .perform _ _ _ => True

end Demand

/-- A request and its events as they would be, with the number of identifiers
that they took. -/
structure Proposal where
  request : Request
  events : List Event
  drawn : Nat

namespace Desk

def serve (desk : Desk) (call : Call) (demand : Demand) (fresh : Nat → Identifier) : Reply :=
  match demand with
  | .create new => desk.create call new fresh
  | .perform id expected operation => desk.perform call id expected operation fresh

/-- What a demand would come to if it were recorded. -/
def propose (desk : Desk) (call : Call) (demand : Demand) (fresh : Nat → Identifier) :
    Except RequestError Proposal :=
  match demand with
  | .create new =>
      match Request.begin (fresh 0) new desk.routes call (fresh 1) with
      | .error reason => .error reason
      | .ok (request, events) => .ok ⟨request, events, 2⟩
  | .perform id expected operation =>
      match desk.register.get? id with
      | none => .error (.notFound id)
      | some stored =>
          match stored.checkVersion expected with
          | .error reason => .error reason
          | .ok () =>
              match (stored.apply operation call desk.office fresh).result with
              | .error reason => .error reason
              | .ok events =>
                  .ok ⟨(stored.apply operation call desk.office fresh).request, events,
                    operation.identifiersTaken events⟩

/-- The entry that records a demand that came to a request. -/
def entryFor (desk : Desk) (call : Call) (name : OperationName) (id : Identifier)
    (request : Request) (entryId : Identifier) : AuditEntry :=
  desk.recorder.nextEntry (draftFor call name id (desk.register.get? id) request) entryId

/-- Nothing was filed, recorded or announced. -/
structure Untouched (before after : Desk) : Prop where
  register : after.register = before.register
  chain : before.recorder.SameChain after.recorder
  outbox : after.outbox = before.outbox

/-- One entry was recorded, the request filed, and its events put behind all
others. -/
structure Committed (before after : Desk) (id : Identifier) (entry : AuditEntry)
    (request : Request) (events : List Event) : Prop where
  chain : before.recorder.Extends after.recorder entry
  register : after.register = before.register.set id request
  outbox : after.outbox = before.outbox ++ events

section Commit

variable (desk : Desk) {call : Call} {name : OperationName} {id entryId : Identifier}
  {before : Option Request} {after : Request} {events : List Event} {taken : Nat}
  {file : Register → Except RequestError Register}

/-- What cannot be recorded is not filed. -/
theorem commit_of_refusal {reason : AuditError}
    (refused : desk.recorder.refusalOf? entryId = some reason) :
    let reply := desk.commit call name id before after events entryId taken file
    reply.result = .error (.storage reason.message) ∧ Untouched desk reply.desk := by
  obtain ⟨answer, same⟩ :=
    Recorder.record_of_refusal refused (draftFor call name id before after)
  unfold commit
  -- The new recorder is known only by what the call has left of its chain.
  generalize desk.recorder.record (draftFor call name id before after) entryId = recorded
    at answer same
  obtain ⟨recorder, outcome⟩ := recorded
  cases answer
  exact ⟨rfl, rfl, same, rfl⟩

/-- What is recorded is filed, if there is a file for it. -/
theorem commit_of_room {register : Register}
    (room : desk.recorder.refusalOf? entryId = none) (stored : desk.register.get? id = before)
    (filed : file desk.register = .ok register) (set : register = desk.register.set id after) :
    let reply := desk.commit call name id before after events entryId taken file
    reply.result = .ok (after, events) ∧
      Committed desk reply.desk id (desk.entryFor call name id after entryId) after events := by
  obtain ⟨answer, extended⟩ :=
    Recorder.record_of_room room (draftFor call name id before after)
  unfold commit entryFor
  rw [stored]
  generalize desk.recorder.record (draftFor call name id before after) entryId = recorded
    at answer extended
  obtain ⟨recorder, outcome⟩ := recorded
  cases answer
  simp only [filed]
  exact ⟨trivial, extended, set, rfl⟩

end Commit

theorem id_of_begin {id eventId : Identifier} {new : NewRequest} {routes : RouteTable}
    {call : Call} {request : Request} {events : List Event}
    (opened : Request.begin id new routes call eventId = .ok (request, events)) :
    request.id = id := by
  obtain ⟨route, -, rfl, -⟩ := Request.exists_of_begin opened
  rfl

def counted (desk : Desk) (demand : Demand) : Desk :=
  { desk with tally := desk.tally.bump (.operations demand.name) }

section Serve

variable {desk : Desk} {call : Call} {demand : Demand} {fresh : Nat → Identifier}

/-- A demand is refused before anything else is touched, or committed. -/
theorem serve_eq (desk : Desk) (call : Call) (demand : Demand) (fresh : Nat → Identifier) :
    desk.serve call demand fresh =
      match desk.propose call demand fresh with
      | .error reason => (desk.counted demand).refuse demand.name reason demand.discarded
      | .ok proposal =>
          (desk.counted demand).commit call demand.name (demand.subject fresh)
            (demand.before desk.register) proposal.request proposal.events
            (fresh proposal.drawn) (proposal.drawn + 1) (demand.file proposal.request) := by
  -- A new request has the identifier that was drawn for it, so that both kinds
  -- of demands are committed under their subject.
  cases demand with
  | create new =>
      simp only [serve, create, propose]
      cases opened : Request.begin (fresh 0) new desk.routes call (fresh 1) with
      | error reason => rfl
      | ok begun =>
          have sameId : begun.1.id = fresh 0 := id_of_begin opened
          simp only [sameId]
          rfl
  | perform id expected operation =>
      simp only [serve, perform, propose]
      cases found : desk.register.get? id with
      | none => rfl
      | some stored =>
          cases current : stored.checkVersion expected with
          | error reason =>
              simp only [current]
              rfl
          | ok checked =>
              cases carried : (stored.apply operation call desk.office fresh).result with
              | error reason =>
                  simp only [current, carried]
                  rfl
              | ok events =>
                  simp only [current, carried, Demand.before, found]
                  rfl

theorem serve_of_not_proposed {reason : RequestError}
    (refused : desk.propose call demand fresh = .error reason) :
    (desk.serve call demand fresh).result = .error reason ∧
      Untouched desk (desk.serve call demand fresh).desk := by
  rw [serve_eq, refused]
  exact ⟨rfl, rfl, ⟨rfl, rfl⟩, rfl⟩

theorem before_eq_get? (vacant : demand.Vacant desk.register fresh) :
    demand.before desk.register = desk.register.get? (demand.subject fresh) := by
  cases demand with
  | create new => exact vacant.symm
  | perform id expected operation => rfl

/-- What was proposed can be filed under the identifier that was asked for. -/
theorem file_of_proposed {proposal : Proposal} (vacant : demand.Vacant desk.register fresh)
    (proposed : desk.propose call demand fresh = .ok proposal) :
    demand.file proposal.request desk.register =
      .ok (desk.register.set (demand.subject fresh) proposal.request) := by
  cases demand with
  | create new =>
      simp only [propose] at proposed
      cases opened : Request.begin (fresh 0) new desk.routes call (fresh 1) with
      | error reason =>
          rw [opened] at proposed
          cases proposed
      | ok begun =>
          have sameId : begun.1.id = fresh 0 := id_of_begin opened
          rw [opened] at proposed
          cases proposed
          have free : desk.register.get? begun.1.id = none := sameId ▸ vacant
          simp only [Demand.file, Register.insert, free]
          rw [sameId]
          rfl
  | perform id expected operation => rfl

theorem serve_of_refusal {proposal : Proposal} {reason : AuditError}
    (proposed : desk.propose call demand fresh = .ok proposal)
    (refused : desk.recorder.refusalOf? (fresh proposal.drawn) = some reason) :
    (desk.serve call demand fresh).result = .error (.storage reason.message) ∧
      Untouched desk (desk.serve call demand fresh).desk := by
  rw [serve_eq, proposed]
  obtain ⟨answer, same⟩ := commit_of_refusal (desk.counted demand) refused
  exact ⟨answer, same.register, same.chain, same.outbox⟩

/-- What a demand would come to, it comes to when it can be recorded. -/
theorem serve_of_room {proposal : Proposal} (vacant : demand.Vacant desk.register fresh)
    (proposed : desk.propose call demand fresh = .ok proposal)
    (room : desk.recorder.refusalOf? (fresh proposal.drawn) = none) :
    (desk.serve call demand fresh).result = .ok (proposal.request, proposal.events) ∧
      Committed desk (desk.serve call demand fresh).desk (demand.subject fresh)
        (desk.entryFor call demand.name (demand.subject fresh) proposal.request
          (fresh proposal.drawn))
        proposal.request proposal.events := by
  rw [serve_eq, proposed]
  obtain ⟨answer, committed⟩ := commit_of_room (desk.counted demand) room
    (before_eq_get? vacant).symm (file_of_proposed vacant proposed) rfl
  exact ⟨answer, committed.chain, committed.register, committed.outbox⟩

/-- A demand is refused and has left no trace, or it is committed. -/
theorem serve_cases (vacant : demand.Vacant desk.register fresh) :
    (∃ reason, (desk.serve call demand fresh).result = .error reason ∧
      Untouched desk (desk.serve call demand fresh).desk) ∨
    ∃ proposal, desk.propose call demand fresh = .ok proposal ∧
      (desk.serve call demand fresh).result = .ok (proposal.request, proposal.events) ∧
      Committed desk (desk.serve call demand fresh).desk (demand.subject fresh)
        (desk.entryFor call demand.name (demand.subject fresh) proposal.request
          (fresh proposal.drawn))
        proposal.request proposal.events := by
  cases proposed : desk.propose call demand fresh with
  | error reason => exact .inl ⟨reason, serve_of_not_proposed proposed⟩
  | ok proposal =>
      cases refused : desk.recorder.refusalOf? (fresh proposal.drawn) with
      | some reason => exact .inl ⟨_, serve_of_refusal proposed refused⟩
      | none => exact .inr ⟨proposal, rfl, serve_of_room vacant proposed refused⟩

/-- What a demand comes to depends on no signature. -/
theorem result_serve (vacant : demand.Vacant desk.register fresh) :
    (desk.serve call demand fresh).result =
      match desk.propose call demand fresh with
      | .error reason => .error reason
      | .ok proposal =>
          match desk.recorder.refusalOf? (fresh proposal.drawn) with
          | some reason => .error (.storage reason.message)
          | none => .ok (proposal.request, proposal.events) := by
  cases proposed : desk.propose call demand fresh with
  | error reason => exact (serve_of_not_proposed proposed).1
  | ok proposal =>
      cases refused : desk.recorder.refusalOf? (fresh proposal.drawn) with
      | some reason =>
          simp only [refused]
          exact (serve_of_refusal proposed refused).1
      | none =>
          simp only [refused]
          exact (serve_of_room vacant proposed refused).1

end Serve

def withSigner (desk : Desk) (signer : Signer) : Desk :=
  { desk with recorder := { desk.recorder with signer := signer } }

/-- A call that succeeds was recorded once, filed, and announced; one that fails
has left no trace; and it does not fail for want of a signature. -/
theorem serve_commits_or_leaves_no_trace (desk : Desk) (call : Call) (demand : Demand)
    (fresh : Nat → Identifier) (vacant : demand.Vacant desk.register fresh) :
    let reply := desk.serve call demand fresh
    let id := demand.subject fresh
    (match reply.result with
      | .ok (request, events) =>
          reply.desk.register.get? id = some request ∧
            ∃ entry : AuditEntry,
              Committed desk reply.desk id entry request events ∧
                entry.action = demand.name.text ∧
                entry.subjectType = subjectType ∧
                entry.subjectId = id.text ∧
                entry.caller = call.caller ∧
                entry.moment = call.moment
      | .error _ => Untouched desk reply.desk) ∧
      ∀ signer, ((desk.withSigner signer).serve call demand fresh).result = reply.result := by
  intro reply id
  refine ⟨?_, fun signer => ?_⟩
  · cases proposed : desk.propose call demand fresh with
    | error reason =>
        obtain ⟨answer, untouched⟩ := serve_of_not_proposed proposed
        rw [show reply.result = .error reason from answer]
        exact untouched
    | ok proposal =>
        cases refused : desk.recorder.refusalOf? (fresh proposal.drawn) with
        | some reason =>
            obtain ⟨answer, untouched⟩ := serve_of_refusal proposed refused
            rw [show reply.result = .error (.storage reason.message) from answer]
            exact untouched
        | none =>
            obtain ⟨answer, committed⟩ := serve_of_room vacant proposed refused
            rw [show reply.result = .ok (proposal.request, proposal.events) from answer]
            have filed : reply.desk.register.get? id = some proposal.request := by
              rw [show reply.desk.register = desk.register.set id proposal.request from
                committed.register]
              exact Table.get?_set_self id proposal.request desk.register
            exact ⟨filed, _, committed, rfl, rfl, rfl, rfl, rfl⟩
  · -- The signer shows in the seal of the entry alone, which no answer looks at.
    have vacantStill : demand.Vacant (desk.withSigner signer).register fresh := vacant
    rw [show reply.result = _ from result_serve vacant, result_serve vacantStill]
    rfl

end Desk

namespace Sample

/-- A desk on which nothing is filed; its signer is out of reach. -/
def desk : Desk :=
  { routes := .configured changes
    office := .demanding [] []
    register := []
    recorder := .start [] ⟨"audit", none⟩
    outbox := []
    tally := [] }

end Sample

/-- A request is opened and announced though nothing can be signed. -/
theorem opening_is_committed :
    (Demand.create Sample.newRequest).Vacant Sample.desk.register (.fresh 4) ∧
      let reply := Sample.desk.serve Sample.call (.create Sample.newRequest) (.fresh 4)
      reply.result = .ok (Sample.opened, [Sample.opening]) ∧
        reply.desk.register.get? (.numbered 5) = some Sample.opened ∧
        reply.desk.outbox = [Sample.opening] := by
  have vacant : (Demand.create Sample.newRequest).Vacant Sample.desk.register (.fresh 4) := rfl
  have answer : (Sample.desk.serve Sample.call (.create Sample.newRequest) (.fresh 4)).result =
      .ok (Sample.opened, [Sample.opening]) := by
    rw [Desk.result_serve vacant]
    rfl
  have ending := (Desk.serve_commits_or_leaves_no_trace Sample.desk Sample.call
    (.create Sample.newRequest) (.fresh 4) vacant).1
  rw [answer] at ending
  obtain ⟨filed, entry, committed, -⟩ := ending
  exact ⟨vacant, answer, filed, committed.outbox⟩

end BenefitCasework
