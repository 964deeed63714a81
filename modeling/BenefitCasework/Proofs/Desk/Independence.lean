import BenefitCasework.Proofs.Desk.Announcing
import BenefitCasework.Proofs.Desk.Trail

/-!
Contract: calls on two requests do not meet.

Owns:
- `Collaborators`, what calls have around them and never change;
- `Desk.CaseFile`, what a desk tells of one request, but for the places of its
  entries in the chain;
- `Mandate`, a call on a request that can be made at any desk;
- `Mandate.keeps_reply`, that a call leaves alone what is told of other requests, and
  `Mandate.reply_congr`, that it asks for nothing but its own case file;
- `Attended`, a desk that calls were made at, and `calls_on_two_requests_commute`.

The chain of entries is the one thing that all calls share. Does not own: the order
in which the events of two requests come, and the opening of requests.
-/

namespace BenefitCasework

/-- An entry but for its place in the chain, and for the seal that covers it. -/
def AuditEntry.unplaced (entry : AuditEntry) : AuditEntry :=
  { entry with sequence := 0, previousHash := none, sealedBy := .unsigned "" }

/-! ### What calls have around them -/

/-- What a call asks for help: the routes, the documents and payment channels, the
signer, and whether the log has room. -/
structure Collaborators where
  routes : RouteTable
  office : Office
  signer : Signer
  isFull : Bool

namespace Desk

def collaborators (desk : Desk) : Collaborators :=
  ⟨desk.routes, desk.office, desk.recorder.signer, desk.recorder.isFull⟩

theorem collaborators_commit (desk : Desk) (call : Call) (name : OperationName)
    (id entryId : Identifier) (before : Option Request) (after : Request) (events : List Event)
    (taken : Nat) (file : Register → Except RequestError Register) :
    (desk.commit call name id before after events entryId taken file).desk.collaborators =
      desk.collaborators := by
  have sameSigner := desk.recorder.signer_record (draftFor call name id before after) entryId
  have sameRoom := desk.recorder.isFull_record (draftFor call name id before after) entryId
  unfold commit
  generalize desk.recorder.record (draftFor call name id before after) entryId = recorded
    at sameSigner sameRoom
  obtain ⟨recorder, outcome⟩ := recorded
  have kept : (⟨desk.routes, desk.office, recorder.signer, recorder.isFull⟩ : Collaborators) =
      desk.collaborators := by
    rw [sameSigner, sameRoom]
    rfl
  cases outcome with
  | error reason => exact kept
  | ok entry =>
      dsimp only
      split <;> exact kept

/-- No call changes any of them. -/
@[simp]
theorem collaborators_serve (desk : Desk) (call : Call) (demand : Demand)
    (fresh : Nat → Identifier) :
    (desk.serve call demand fresh).desk.collaborators = desk.collaborators := by
  rw [serve_eq]
  cases desk.propose call demand fresh with
  | error reason => rfl
  | ok proposal => exact collaborators_commit ..

/-! ### What a desk tells of one request -/

/-- A request as it is on file, its events in the outbox, and its entries but for
their places in the chain. -/
structure CaseFile where
  stored : Option Request
  events : List Event
  entries : List AuditEntry

def caseFile (desk : Desk) (id : Identifier) : CaseFile :=
  ⟨desk.register.get? id, ofRequest id desk.outbox, (desk.trail id).map AuditEntry.unplaced⟩

/-- All that is told of a request is as it was, also the places of its entries. -/
structure Keeps (id : Identifier) (before after : Desk) : Prop where
  stored : after.register.get? id = before.register.get? id
  trail : after.trail id = before.trail id
  events : ofRequest id after.outbox = ofRequest id before.outbox

variable {id subject entryId : Identifier} {desk before after : Desk}

theorem Keeps.caseFile_eq (keeps : Keeps id before after) :
    after.caseFile id = before.caseFile id := by
  rw [caseFile, keeps.stored, keeps.trail, keeps.events]
  rfl

theorem Untouched.keeps (untouched : Untouched before after) (id : Identifier) :
    Keeps id before after :=
  ⟨by rw [untouched.register], trail_of_untouched untouched, by rw [untouched.outbox]⟩

section Committed

variable {call : Call} {name : OperationName} {request : Request} {events : List Event}

/-- What is filed under one identifier does not show under another. -/
theorem Committed.keeps
    (committed : Committed desk after subject (desk.entryFor call name subject request entryId)
      request events)
    (own : ∀ event ∈ events, event.request = subject) (different : subject ≠ id) :
    Keeps id desk after := by
  refine ⟨?_, ?_, ?_⟩
  · rw [committed.register, Table.get?_set_of_ne (Ne.symm different)]
  · rw [trail_of_committed committed, if_neg different]
  · rw [committed.outbox, ofRequest_append, ofRequest_of_other different own, List.append_nil]

/-- Under its own identifier, the request is replaced, and its events and its entry are
put behind those before. -/
theorem Committed.caseFile_eq
    (committed : Committed desk after subject (desk.entryFor call name subject request entryId)
      request events) :
    after.caseFile subject =
      ⟨some request, (desk.caseFile subject).events ++ ofRequest subject events,
        (desk.caseFile subject).entries ++
          [(desk.entryFor call name subject request entryId).unplaced]⟩ := by
  rw [caseFile, committed.register, Table.get?_set_self, committed.outbox, ofRequest_append,
    trail_of_committed committed, if_pos rfl, List.map_append]
  rfl

end Committed

end Desk

/-! ### One call -/

/-- A call on a request, at whatever desk it is made. -/
structure Mandate where
  call : Call
  id : Identifier
  expected : UInt64
  operation : Operation
  fresh : Nat → Identifier

namespace Mandate

def demand (mandate : Mandate) : Demand := .perform mandate.id mandate.expected mandate.operation

def reply (mandate : Mandate) (desk : Desk) : Reply :=
  desk.perform mandate.call mandate.id mandate.expected mandate.operation mandate.fresh

def proposal (mandate : Mandate) (desk : Desk) : Except RequestError Proposal :=
  desk.propose mandate.call mandate.demand mandate.fresh

/-- The audit entry that the call would have. -/
def entry (mandate : Mandate) (desk : Desk) (proposal : Proposal) : AuditEntry :=
  desk.entryFor mandate.call mandate.operation.name mandate.id proposal.request
    (mandate.fresh proposal.drawn)

/-- The identifier of the audit entry, unless the call is refused before. -/
def entryId? (mandate : Mandate) (desk : Desk) : Option Identifier :=
  match mandate.proposal desk with
  | .ok proposal => some (mandate.fresh proposal.drawn)
  | .error _ => none

/-- The log takes the entry of the call. -/
def Recordable (mandate : Mandate) (desk : Desk) : Prop :=
  ∀ entryId ∈ mandate.entryId? desk, desk.recorder.refusalOf? entryId = none

variable {mandate : Mandate} {desk other : Desk} {proposal : Proposal} {id : Identifier}

theorem collaborators_reply (mandate : Mandate) (desk : Desk) :
    (mandate.reply desk).desk.collaborators = desk.collaborators :=
  Desk.collaborators_serve desk mandate.call mandate.demand mandate.fresh

theorem entryId?_of_proposed (proposed : mandate.proposal desk = .ok proposal) :
    mandate.entryId? desk = some (mandate.fresh proposal.drawn) := by
  rw [entryId?, proposed]

theorem reply_of_not_proposed {reason : RequestError}
    (refused : mandate.proposal desk = .error reason) :
    (mandate.reply desk).result = .error reason ∧ desk.Untouched (mandate.reply desk).desk :=
  Desk.serve_of_not_proposed refused

theorem reply_of_proposed (proposed : mandate.proposal desk = .ok proposal)
    (recordable : mandate.Recordable desk) :
    (mandate.reply desk).result = .ok (proposal.request, proposal.events) ∧
      desk.Committed (mandate.reply desk).desk mandate.id (mandate.entry desk proposal)
        proposal.request proposal.events := by
  have vacant : mandate.demand.Vacant desk.register mandate.fresh := trivial
  exact Desk.serve_of_room vacant proposed (recordable _ (entryId?_of_proposed proposed))

/-- A call leaves alone what is told of other requests. -/
theorem keeps_reply {events : List Event} (counts : desk.register.Counts events)
    (different : mandate.id ≠ id) : desk.Keeps id (mandate.reply desk).desk := by
  have vacant : mandate.demand.Vacant desk.register mandate.fresh := trivial
  rcases @Desk.serve_cases desk mandate.call mandate.demand mandate.fresh vacant with
    ⟨reason, -, untouched⟩ | ⟨proposal, proposed, -, committed⟩
  · exact untouched.keeps id
  · exact committed.keeps (counts.request_of_proposed proposed) different

/-! ### What a call asks for -/

/-- What a call comes to depends on the request on file and on the office. -/
theorem proposal_congr (sameAround : other.collaborators = desk.collaborators)
    (sameStored : other.register.get? mandate.id = desk.register.get? mandate.id) :
    mandate.proposal other = mandate.proposal desk := by
  have sameOffice : other.office = desk.office := congrArg Collaborators.office sameAround
  simp only [proposal, demand, Desk.propose, sameStored, sameOffice]

/-- But for its place, an entry is made of nothing on the desk but the request on
file. -/
theorem unplaced_entry_congr
    (sameStored : other.register.get? mandate.id = desk.register.get? mandate.id) :
    (mandate.entry other proposal).unplaced = (mandate.entry desk proposal).unplaced := by
  rw [entry, entry, Desk.entryFor, Desk.entryFor, sameStored]
  rfl

/-- A call that can be recorded has the same answer and leaves the same case file
wherever it finds the same case file and the same things around it. -/
theorem reply_congr (sameAround : other.collaborators = desk.collaborators)
    (sameCase : other.caseFile mandate.id = desk.caseFile mandate.id)
    (recordable : mandate.Recordable desk) (recordableThere : mandate.Recordable other) :
    (mandate.reply other).result = (mandate.reply desk).result ∧
      (mandate.reply other).desk.caseFile mandate.id =
        (mandate.reply desk).desk.caseFile mandate.id := by
  have sameStored : other.register.get? mandate.id = desk.register.get? mandate.id :=
    congrArg Desk.CaseFile.stored sameCase
  have sameProposal := proposal_congr sameAround sameStored
  cases proposed : mandate.proposal desk with
  | error reason =>
      obtain ⟨answer, untouched⟩ := reply_of_not_proposed proposed
      obtain ⟨answerThere, untouchedThere⟩ := reply_of_not_proposed (sameProposal.trans proposed)
      refine ⟨answerThere.trans answer.symm, ?_⟩
      rw [(untouched.keeps mandate.id).caseFile_eq, (untouchedThere.keeps mandate.id).caseFile_eq,
        sameCase]
  | ok proposal =>
      obtain ⟨answer, committed⟩ := reply_of_proposed proposed recordable
      obtain ⟨answerThere, committedThere⟩ :=
        reply_of_proposed (sameProposal.trans proposed) recordableThere
      refine ⟨answerThere.trans answer.symm, ?_⟩
      rw [committed.caseFile_eq, committedThere.caseFile_eq, sameCase]
      have sameEntry : (mandate.entry other proposal).unplaced =
          (mandate.entry desk proposal).unplaced := unplaced_entry_congr sameStored
      exact congrArg (fun line => Desk.CaseFile.mk _ _ (_ ++ [line])) sameEntry

end Mandate

/-! ### Two calls -/

/-- The log takes the entries of two calls, which have different identifiers. -/
structure Desk.TakesBoth (desk : Desk) (first second : Mandate) : Prop where
  takesFirst : first.Recordable desk
  takesSecond : second.Recordable desk
  apart : ∀ entryId ∈ first.entryId? desk, entryId ∉ second.entryId? desk

/-- A desk that any calls were made at, from one with nothing on file. Between its calls
everything may change but the requests on file. -/
inductive Attended : Desk → Prop where
  | start {desk : Desk} (nothing : desk.register = []) : Attended desk
  | serve {desk : Desk} (before : Attended desk) (call : Call) (demand : Demand)
      (fresh : Nat → Identifier) : Attended (desk.serve call demand fresh).desk
  | rearrange {desk after : Desk} (before : Attended desk)
      (sameRegister : after.register = desk.register) : Attended after

namespace Attended

variable {desk : Desk} {first second : Mandate} {id : Identifier}

theorem counts (attended : Attended desk) : ∃ events, desk.register.Counts events := by
  induction attended with
  | start nothing =>
      rw [nothing]
      exact ⟨[], Register.counts_empty⟩
  | serve before call demand fresh inductionHypothesis =>
      obtain ⟨events, counts⟩ := inductionHypothesis
      exact ⟨_, (Desk.counts_serve counts call demand fresh).1⟩
  | rearrange before sameRegister inductionHypothesis =>
      rw [sameRegister]
      exact inductionHypothesis

theorem reply (attended : Attended desk) (mandate : Mandate) : Attended (mandate.reply desk).desk :=
  attended.serve mandate.call mandate.demand mandate.fresh

theorem keeps (attended : Attended desk) (mandate : Mandate) (different : mandate.id ≠ id) :
    desk.Keeps id (mandate.reply desk).desk := by
  obtain ⟨events, counts⟩ := attended.counts
  exact Mandate.keeps_reply counts different

/-- Behind the first call the log still takes the entry of the second one. -/
theorem recordable_behind (attended : Attended desk) (different : first.id ≠ second.id)
    (takes : desk.TakesBoth first second) : second.Recordable (first.reply desk).desk := by
  have sameAround := first.collaborators_reply desk
  have sameProposal : second.proposal (first.reply desk).desk = second.proposal desk :=
    Mandate.proposal_congr sameAround (attended.keeps first different).stored
  intro entryId drawn
  -- The second call still comes to the same, and so draws the same identifier.
  rw [Mandate.entryId?, sameProposal, ← Mandate.entryId?] at drawn
  have room := takes.takesSecond entryId drawn
  have sameRoom : (first.reply desk).desk.recorder.isFull = desk.recorder.isFull :=
    congrArg Collaborators.isFull sameAround
  cases proposed : first.proposal desk with
  | error reason =>
      have untouched := (Mandate.reply_of_not_proposed proposed).2
      rw [Recorder.refusalOf?_eq_none_iff] at room ⊢
      rw [sameRoom, untouched.chain.log]
      exact room
  | ok proposal =>
      have committed := (Mandate.reply_of_proposed proposed takes.takesFirst).2
      apply Recorder.room_behind committed.chain sameRoom room
      rintro rfl
      exact takes.apart _ (Mandate.entryId?_of_proposed proposed) drawn

/-- A call has the same answer and leaves the same case file behind a call on another
request as without it. -/
theorem reply_behind (attended : Attended desk) (different : first.id ≠ second.id)
    (takes : desk.TakesBoth first second) :
    (second.reply (first.reply desk).desk).result = (second.reply desk).result ∧
      (second.reply (first.reply desk).desk).desk.caseFile second.id =
        (second.reply desk).desk.caseFile second.id :=
  Mandate.reply_congr (first.collaborators_reply desk) (attended.keeps first different).caseFile_eq
    takes.takesSecond (attended.recordable_behind different takes)

end Attended

/-- Of two calls on two requests, each has the same answer in either order, and what is
told of every request in the end is the same but for the places of entries in the
chain. Of every other request a call leaves everything as it was. -/
theorem calls_on_two_requests_commute {desk : Desk} (attended : Attended desk)
    {first second : Mandate} (different : first.id ≠ second.id) :
    let afterFirst := (first.reply desk).desk
    let afterSecond := (second.reply desk).desk
    (desk.TakesBoth first second →
      (first.reply afterSecond).result = (first.reply desk).result ∧
        (second.reply afterFirst).result = (second.reply desk).result ∧
        ∀ id, (second.reply afterFirst).desk.caseFile id =
          (first.reply afterSecond).desk.caseFile id) ∧
      (∀ id, first.id ≠ id → desk.Keeps id afterFirst) ∧
      ∀ id, second.id ≠ id → desk.Keeps id afterSecond := by
  intro afterFirst afterSecond
  refine ⟨fun takes => ?_, fun id => attended.keeps first, fun id => attended.keeps second⟩
  have swapped : desk.TakesBoth second first :=
    ⟨takes.takesSecond, takes.takesFirst, fun entryId ofSecond ofFirst =>
      takes.apart entryId ofFirst ofSecond⟩
  obtain ⟨secondAnswer, secondFile⟩ := attended.reply_behind different takes
  obtain ⟨firstAnswer, firstFile⟩ := attended.reply_behind (Ne.symm different) swapped
  -- Behind the other call, what is told of a request is what the call on it has left.
  have secondLeaves {id : Identifier} (other : second.id ≠ id) :
      (second.reply afterFirst).desk.caseFile id = afterFirst.caseFile id :=
    ((attended.reply first).keeps second other).caseFile_eq
  have firstLeaves {id : Identifier} (other : first.id ≠ id) :
      (first.reply afterSecond).desk.caseFile id = afterSecond.caseFile id :=
    ((attended.reply second).keeps first other).caseFile_eq
  refine ⟨firstAnswer, secondAnswer, fun id => ?_⟩
  by_cases isFirst : first.id = id
  · subst isFirst
    exact (secondLeaves (Ne.symm different)).trans firstFile.symm
  · by_cases isSecond : second.id = id
    · subst isSecond
      exact secondFile.trans (firstLeaves different).symm
    · rw [secondLeaves isSecond, firstLeaves isFirst, (attended.keeps first isFirst).caseFile_eq,
        (attended.keeps second isSecond).caseFile_eq]

namespace Sample

/-- Two requests are on file. -/
def busyDesk : Desk := (openedDesk.serve call (.create newRequest) (.fresh 30)).desk

/-- The first one is handed in. -/
def handingIn : Mandate := ⟨call, .numbered 5, opened.version, .submit, .fresh 10⟩

/-- The second one is given up. -/
def givingUp : Mandate := ⟨call, .numbered 31, opened.version, .cancel "withdrawn", .fresh 20⟩

theorem attended_busyDesk : Attended busyDesk := by
  have start : Attended desk := .start rfl
  exact (start.serve call (.create newRequest) (.fresh 4)).serve call (.create newRequest) (.fresh 30)

theorem busyDesk_takesBoth : busyDesk.TakesBoth handingIn givingUp := by
  have handedIn : handingIn.entryId? busyDesk = some (.numbered 12) := by decide +kernel
  have givenUp : givingUp.entryId? busyDesk = some (.numbered 22) := by decide +kernel
  refine ⟨fun entryId drawn => ?_, fun entryId drawn => ?_, fun entryId ofFirst ofSecond => ?_⟩
  · rw [handedIn] at drawn
    cases drawn
    decide +kernel
  · rw [givenUp] at drawn
    cases drawn
    decide +kernel
  · rw [handedIn] at ofFirst
    rw [givenUp] at ofSecond
    cases ofFirst
    exact absurd ofSecond (by decide +kernel)

end Sample

/-- One request is handed in and another one given up, in either order; both calls
succeed, though their entries change places. -/
theorem handing_in_and_giving_up_commute :
    let submitted := (Sample.handingIn.reply Sample.busyDesk).desk
    let cancelled := (Sample.givingUp.reply Sample.busyDesk).desk
    Attended Sample.busyDesk ∧ Sample.handingIn.id ≠ Sample.givingUp.id ∧
      Sample.busyDesk.TakesBoth Sample.handingIn Sample.givingUp ∧
      (Sample.handingIn.reply cancelled).result.isOk = true ∧
      (Sample.givingUp.reply submitted).result.isOk = true ∧
      (∀ id, (Sample.givingUp.reply submitted).desk.caseFile id =
        (Sample.handingIn.reply cancelled).desk.caseFile id) ∧
      Sample.busyDesk.Keeps (.numbered 31) submitted ∧
      Sample.busyDesk.Keeps (.numbered 5) cancelled := by
  intro submitted cancelled
  have different : Sample.handingIn.id ≠ Sample.givingUp.id := by decide +kernel
  obtain ⟨commute, firstKeeps, secondKeeps⟩ :=
    calls_on_two_requests_commute Sample.attended_busyDesk different
  obtain ⟨firstAnswer, secondAnswer, sameFiles⟩ := commute Sample.busyDesk_takesBoth
  have firstSucceeds : (Sample.handingIn.reply Sample.busyDesk).result.isOk = true := by
    decide +kernel
  have secondSucceeds : (Sample.givingUp.reply Sample.busyDesk).result.isOk = true := by
    decide +kernel
  refine ⟨Sample.attended_busyDesk, different, Sample.busyDesk_takesBoth, ?_, ?_, sameFiles,
    firstKeeps _ different, secondKeeps _ (Ne.symm different)⟩
  · rw [firstAnswer]
    exact firstSucceeds
  · rw [secondAnswer]
    exact secondSucceeds

end BenefitCasework
