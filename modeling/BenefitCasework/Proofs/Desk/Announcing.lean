import BenefitCasework.Proofs.Desk.Serving
import BenefitCasework.Proofs.Request.Announcements

/-!
Contract: whatever a desk is asked, the events of each request are numbered from
one on.

Owns:
- `Desk.begin_of_propose` and `Desk.carriedOut_of_propose`, what a call that is
  not refused comes to;
- `Desk.serve_of_taken`, what becomes of a new request whose identifier is on
  file already;
- `Register.Counts`, a register in which each request notes how many events it
  has announced;
- `announcedBy`, the events of a call, and `Desk.counts_serve`, which says that
  every call keeps the count.

Does not own: the way of the events behind the outbox.
-/

namespace BenefitCasework

namespace Desk

variable {desk : Desk} {call : Call} {fresh : Nat → Identifier} {proposal : Proposal}

/-- A new request comes to what is opened for it. -/
theorem begin_of_propose {new : NewRequest}
    (proposed : desk.propose call (.create new) fresh = .ok proposal) :
    Request.begin (fresh 0) new desk.routes call (fresh 1) =
      .ok (proposal.request, proposal.events) := by
  simp only [propose] at proposed
  cases opened : Request.begin (fresh 0) new desk.routes call (fresh 1) with
  | error reason =>
      rw [opened] at proposed
      cases proposed
  | ok begun =>
      rw [opened] at proposed
      cases proposed
      rfl

/-- An operation comes to what it makes of the request on file. -/
theorem carriedOut_of_propose {id : Identifier} {expected : UInt64} {operation : Operation}
    (proposed : desk.propose call (.perform id expected operation) fresh = .ok proposal) :
    ∃ stored, desk.register.get? id = some stored ∧
      proposal.request = stored.carriedOut operation call desk.office fresh ∧
      proposal.events = stored.eventsOf operation call desk.office fresh := by
  simp only [propose] at proposed
  cases found : desk.register.get? id with
  | none =>
      rw [found] at proposed
      cases proposed
  | some stored =>
      rw [found] at proposed
      cases checked : stored.checkVersion expected with
      | error reason =>
          simp only [checked] at proposed
          cases proposed
      | ok current =>
          simp only [checked] at proposed
          by_cases admitted : stored.Admits operation call desk.office
          · rw [Request.apply_of_admits call desk.office fresh admitted] at proposed
            cases proposed
            exact ⟨stored, rfl, rfl, rfl⟩
          · obtain ⟨reason, refused⟩ := Request.apply_of_not_admits call desk.office fresh
              admitted
            rw [refused] at proposed
            cases proposed

end Desk

namespace Register

/-- The events of each request on file are numbered from one on, with the last number
noted in it, and nothing else has announced any. -/
structure Counts (register : Register) (events : List Event) : Prop where
  filed : ∀ id request, register.get? id = some request →
    request.id = id ∧ Numbered id (ofRequest id events) request.eventSequence
  unfiled : ∀ id, register.get? id = none → ofRequest id events = []

theorem counts_empty : Counts [] [] :=
  ⟨fun _ _ found => (nomatch found), fun _ _ => rfl⟩

theorem Counts.numbered {register : Register} {events : List Event}
    (counts : register.Counts events) (id : Identifier) :
    ∃ last, Numbered id (ofRequest id events) last := by
  cases found : register.get? id with
  | some request => exact ⟨_, (counts.filed id request found).2⟩
  | none =>
      rw [counts.unfiled id found]
      exact ⟨0, fun event member => (nomatch member), rfl, rfl⟩

/-- A request is filed that has announced some more events of its own. -/
theorem Counts.set {register : Register} {events later : List Event} {id : Identifier}
    {request : Request} (counts : register.Counts events) (sameId : request.id = id)
    (own : ∀ event ∈ later, event.request = id)
    (numbered : Numbered id (ofRequest id events ++ later) request.eventSequence) :
    Counts (register.set id request) (events ++ later) := by
  constructor
  · intro other stored found
    by_cases same : other = id
    · subst same
      rw [Table.get?_set_self] at found
      cases found
      rw [ofRequest_append, ofRequest_of_forall own]
      exact ⟨sameId, numbered⟩
    · rw [Table.get?_set_of_ne same] at found
      rw [ofRequest_append, ofRequest_of_other (Ne.symm same) own, List.append_nil]
      exact counts.filed other stored found
  · intro other absent
    by_cases same : other = id
    · subst same
      rw [Table.get?_set_self] at absent
      cases absent
    · rw [Table.get?_set_of_ne same] at absent
      rw [ofRequest_append, ofRequest_of_other (Ne.symm same) own, List.append_nil]
      exact counts.unfiled other absent

/-- An operation announces nothing but its own request. -/
theorem Counts.request_of_proposed {desk : Desk} {call : Call} {fresh : Nat → Identifier}
    {events : List Event} (counts : desk.register.Counts events) {id : Identifier}
    {expected : UInt64} {operation : Operation} {proposal : Proposal}
    (proposed : desk.propose call (.perform id expected operation) fresh = .ok proposal) :
    ∀ event ∈ proposal.events, event.request = id := by
  obtain ⟨stored, found, -, announced⟩ := Desk.carriedOut_of_propose proposed
  obtain ⟨sameId, numbered⟩ := counts.filed id stored found
  have next := numbered.append_eventsOf sameId operation call desk.office fresh
  rw [announced]
  exact fun event member => next.sameRequest event (List.mem_append_right _ member)

/-- What a demand comes to goes on with the numbers of its request. -/
theorem Counts.proposed {desk : Desk} {call : Call} {demand : Demand} {fresh : Nat → Identifier}
    {events : List Event} (counts : desk.register.Counts events)
    (vacant : demand.Vacant desk.register fresh) {proposal : Proposal}
    (proposed : desk.propose call demand fresh = .ok proposal) :
    Counts (desk.register.set (demand.subject fresh) proposal.request)
      (events ++ proposal.events) := by
  cases demand with
  | create new =>
      have opened := Desk.begin_of_propose proposed
      have numbered := (reported_begin opened).numbered
      have unheard : ofRequest (fresh 0) events = [] := counts.unfiled _ vacant
      apply counts.set (Desk.id_of_begin opened) numbered.sameRequest
      simp only [unheard]
      exact numbered
  | perform id expected operation =>
      obtain ⟨stored, found, carriedOut, announced⟩ := Desk.carriedOut_of_propose proposed
      obtain ⟨sameId, numbered⟩ := counts.filed id stored found
      have next := numbered.append_eventsOf sameId operation call desk.office fresh
      have own := counts.request_of_proposed proposed
      rw [announced] at own
      rw [carriedOut, announced]
      exact counts.set ((Request.id_carriedOut ..).trans sameId) own next

end Register

/-- The events of a call that succeeded. One that failed has none. -/
def announcedBy (answer : Except RequestError (Request × List Event)) : List Event :=
  match answer with
  | .ok (_, events) => events
  | .error _ => []

namespace Desk

variable {desk : Desk} {call : Call} {demand : Demand} {fresh : Nat → Identifier}

/-- A call fails, with nothing filed and nothing announced. -/
def Fails (before : Desk) (reply : Reply) : Prop :=
  (∃ reason, reply.result = .error reason) ∧ reply.desk.register = before.register ∧
    reply.desk.outbox = before.outbox

/-- What finds no file is not announced, though it may have been recorded. -/
theorem commit_of_no_file {name : OperationName} {id entryId : Identifier}
    {before : Option Request} {after : Request} {events : List Event} {taken : Nat}
    {file : Register → Except RequestError Register} {reason : RequestError}
    (noFile : file desk.register = .error reason) :
    desk.Fails (desk.commit call name id before after events entryId taken file) := by
  unfold commit
  cases desk.recorder.record (draftFor call name id before after) entryId with
  | mk recorder recorded =>
      cases recorded with
      | error refusal => exact ⟨⟨_, rfl⟩, rfl, rfl⟩
      | ok entry =>
          simp only [noFile]
          exact ⟨⟨_, rfl⟩, rfl, rfl⟩

/-- A new request whose identifier is on file already is refused. -/
theorem serve_of_taken (taken : ¬ demand.Vacant desk.register fresh) :
    desk.Fails (desk.serve call demand fresh) := by
  rw [serve_eq]
  cases proposed : desk.propose call demand fresh with
  | error reason => exact ⟨⟨_, rfl⟩, rfl, rfl⟩
  | ok proposal =>
      cases demand with
      | perform id expected operation => exact absurd trivial taken
      | create new =>
          obtain ⟨present, found⟩ := Option.ne_none_iff_exists'.mp taken
          have sameId : proposal.request.id = fresh 0 := id_of_begin (begin_of_propose proposed)
          have noFile : Register.insert desk.register proposal.request = .error
              (.storage ("request " ++ proposal.request.id.text ++ " already exists")) := by
            simp only [Register.insert, sameId, found]
          exact commit_of_no_file noFile

/-- Whatever is asked of a desk, its events go on with the numbers of their
requests, and they go into the outbox. -/
theorem counts_serve {events : List Event} (counts : desk.register.Counts events) (call : Call)
    (demand : Demand) (fresh : Nat → Identifier) :
    let reply := desk.serve call demand fresh
    reply.desk.register.Counts (events ++ announcedBy reply.result) ∧
      reply.desk.outbox = desk.outbox ++ announcedBy reply.result := by
  intro reply
  have failing (fails : desk.Fails reply) :
      reply.desk.register.Counts (events ++ announcedBy reply.result) ∧
        reply.desk.outbox = desk.outbox ++ announcedBy reply.result := by
    obtain ⟨⟨reason, answer⟩, sameRegister, sameOutbox⟩ := fails
    rw [answer, announcedBy, List.append_nil, List.append_nil, sameRegister]
    exact ⟨counts, sameOutbox⟩
  by_cases vacant : demand.Vacant desk.register fresh
  · rcases serve_cases vacant with ⟨reason, answer, untouched⟩ |
      ⟨proposal, proposed, answer, committed⟩
    · exact failing ⟨⟨reason, answer⟩, untouched.register, untouched.outbox⟩
    · simp only [reply, answer, announcedBy, committed.register, committed.outbox]
      exact ⟨counts.proposed vacant proposed, trivial⟩
  · exact failing (serve_of_taken vacant)

end Desk

end BenefitCasework
