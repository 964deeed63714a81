import BenefitCasework.Document
import BenefitCasework.Request.Event
import BenefitCasework.Request.Permission

/-!
Contract: how a request begins and changes.

Owns:
- `Request.begin`, a draft for a new request and its first event;
- `Request.apply`, the request and the events, or the refusal, after an
  operation. Permission is asked first, then what needs documents, pendencies
  or payment channels, and only then the request changes;
- `Request.moveTo`, one move of the status table with its history entry.

The version rises once for each history entry, and once for each change that
is no move. A refused operation still says what it left of the request, so
that leaving it unchanged is a statement and not a convention.

Identifiers come from outside: an operation that raises `n` items takes the
first `n` fresh ones for them and the next for its event. Does not own: where
requests are kept.
-/

namespace BenefitCasework

/-- One call: who calls, and when. -/
structure Call where
  caller : Caller
  moment : Instant
deriving DecidableEq

/-- What a request needs to know beyond itself. -/
structure Office where
  missing : DocumentCheck
  channels : ChannelTable

/-- The office that demands documents by a table. -/
def Office.demanding (documents : DocumentTable) (channels : ChannelTable) : Office :=
  ⟨documents.missing, channels⟩

/-- A request after an operation, with the events or the refusal. -/
structure Outcome where
  request : Request
  result : Except RequestError (List Event)

namespace Outcome

def refused (request : Request) (reason : RequestError) : Outcome := ⟨request, .error reason⟩

def silent (request : Request) : Outcome := ⟨request, .ok []⟩

def accepted (outcome : Outcome) : Bool :=
  match outcome.result with
  | .ok _ => true
  | .error _ => false

/-- The events of an operation; a refused one has none. -/
def events (outcome : Outcome) : List Event :=
  match outcome.result with
  | .ok events => events
  | .error _ => []

end Outcome

namespace Request

def touch (request : Request) (moment : Instant) : Request :=
  { request with version := nextVersion request.version, updatedAt := moment }

def announce (request : Request) (call : Call) (id : Identifier) (payload : EventPayload) :
    Outcome :=
  let numbered := { request with eventSequence := request.eventSequence + 1 }
  ⟨numbered, .ok [⟨id, request.id, numbered.eventSequence, call.caller.correlation, call.moment,
    payload⟩]⟩

def entryTo (request : Request) (call : Call) (target : Status) (operation : OperationName)
    (justification : Option String) : HistoryEntry :=
  ⟨request.status, target, operation.text, call.caller.actor, call.moment, justification,
    call.caller.correlation⟩

def moveTo (request : Request) (call : Call) (target : Status) (operation : OperationName)
    (justification : Option String) : Except RequestError Request :=
  if request.status.canMoveTo target then
    .ok ({ request with
      history := request.history ++ [request.entryTo call target operation justification]
      status := target }.touch call.moment)
  else .error (.denied (.invalidTransition request.status operation))

/-- A move that announces something about the request it leads to. -/
def moveAndAnnounce (request : Request) (call : Call) (target : Status)
    (operation : OperationName) (justification : Option String) (id : Identifier)
    (payload : Request → EventPayload) : Outcome :=
  match request.moveTo call target operation justification with
  | .ok moved => moved.announce call id (payload moved)
  | .error reason => .refused request reason

def checkComplete (request : Request) (call : Call) (missing : DocumentCheck) :
    Except RequestError Unit :=
  match missing request.benefitType request.attachedTypes with
  | [] =>
      match checkRepresentation request.beneficiary request.requester call.moment with
      | .ok () => .ok ()
      | .error reason => .error (.invalidRepresentative reason.message)
  | documents => .error (.missingDocuments documents)

/-- Hands a draft in. Without a triage gate it goes straight into analysis. -/
def submit (request : Request) (call : Call) (missing : DocumentCheck) (id : Identifier) :
    Outcome :=
  match request.checkComplete call missing with
  | .error reason => .refused request reason
  | .ok () =>
      match request.moveTo call .opened .submit none with
      | .error reason => .refused request reason
      | .ok opened =>
          if opened.route.hasTriage then opened.announce call id (.submitted opened.status)
          else opened.moveAndAnnounce call .inAnalysis .submit none id
            fun moved => .submitted moved.status

def sendToAnalysis (request : Request) (call : Call) : Outcome :=
  match request.moveTo call .inAnalysis .sendToAnalysis none with
  | .ok moved => .silent moved
  | .error reason => .refused request reason

def attachDocument (request : Request) (call : Call) (documentType : String) : Outcome :=
  let attached : AttachedDocument := ⟨documentType, call.caller.user, call.moment⟩
  .silent ({ request with documents := request.documents ++ [attached] }.touch call.moment)

def recordOpinion (request : Request) (call : Call) (text : String) : Outcome :=
  .silent ({ request with
    opinion := some ⟨text, call.caller.user, call.moment⟩ }.touch call.moment)

/-- Opens the gate that is waited for. The last gate approves the request. -/
def approve (request : Request) (call : Call) (id : Identifier) : Outcome :=
  let gate := match request.currentGate? with
    | some gate => gate.name
    | none => "approval"
  let approval : GateApproval := ⟨gate, call.caller.user, call.moment⟩
  let signed := { request with approvals := request.approvals ++ [approval] }
  if signed.currentGate?.isSome then .silent (signed.touch call.moment)
  else signed.moveAndAnnounce call .approved .approve none id
    fun moved => .approved call.caller.user (moved.approvals.map GateApproval.gate)

/-- Raises items in a new cycle and starts the review over. -/
def pend (request : Request) (call : Call) (justification : String) (items : List String)
    (fresh : Nat → Identifier) : Outcome :=
  let raised := PendencyLog.newItems fresh (request.pendencies.cycle + 1) call.caller.user
    call.moment items
  let reset := { request with
    pendencies := request.pendencies.raise fresh items call.caller.user call.moment
    approvals := []
    opinion := none }
  reset.moveAndAnnounce call .pending .pend (some justification) (fresh items.length)
    fun moved => .pended justification
      (raised.map fun item => ⟨item.id, item.description⟩) moved.pendencies.cycle

def reject (request : Request) (call : Call) (justification : String) (id : Identifier) :
    Outcome :=
  request.moveAndAnnounce call .cancelled .reject (some justification) id
    fun _ => .rejected justification

def resolvePendency (request : Request) (call : Call) (pendency : Identifier) (note : String) :
    Outcome :=
  match request.pendencies.resolve pendency call.caller.user call.moment note with
  | .ok pendencies => .silent ({ request with pendencies := pendencies }.touch call.moment)
  | .error (.notFound id) => .refused request (.pendencyNotFound id)
  | .error (.alreadyResolved id) => .refused request (.pendencyAlreadyResolved id)

/-- Hands a request in again after its items are resolved. -/
def resubmit (request : Request) (call : Call) (id : Identifier) : Outcome :=
  request.moveAndAnnounce call .inAnalysis .resubmit none id
    fun moved => .resubmitted moved.pendencies.cycle

def payOut (request : Request) (call : Call) (payment : Payment) (channels : ChannelTable)
    (id : Identifier) : Outcome :=
  match channels.get? request.beneficiary.citizen with
  | none => .refused request (.paymentInfoMissing request.beneficiary.citizen)
  | some channel =>
      let paid := { request with
        release := some ⟨payment, channel, call.caller.user, call.moment⟩ }
      paid.moveAndAnnounce call .released .release none id fun _ => .released payment channel

def complete (request : Request) (call : Call) (note : String) (id : Identifier) : Outcome :=
  let delivered := { request with deliveryNote := some note }
  delivered.moveAndAnnounce call .completed .complete (some note) id fun _ => .completed note

def cancel (request : Request) (call : Call) (reason : String) (id : Identifier) : Outcome :=
  request.moveAndAnnounce call .cancelled .cancel (some reason) id
    fun _ => .cancelled reason request.status

/-- An operation that has been permitted. -/
def carryOut (request : Request) (operation : Operation) (call : Call) (office : Office)
    (fresh : Nat → Identifier) : Outcome :=
  match operation with
  | .submit => request.submit call office.missing (fresh 0)
  | .sendToAnalysis => request.sendToAnalysis call
  | .attachDocument documentType => request.attachDocument call documentType
  | .recordOpinion text => request.recordOpinion call text
  | .approve => request.approve call (fresh 0)
  | .pend justification items => request.pend call justification items fresh
  | .reject justification => request.reject call justification (fresh 0)
  | .resolvePendency pendency note => request.resolvePendency call pendency note
  | .resubmit => request.resubmit call (fresh 0)
  | .release payment => request.payOut call payment office.channels (fresh 0)
  | .complete note => request.complete call note (fresh 0)
  | .cancel reason => request.cancel call reason (fresh 0)

/-- An operation on a request. -/
def apply (request : Request) (operation : Operation) (call : Call) (office : Office)
    (fresh : Nat → Identifier) : Outcome :=
  match Permission.decide request.status operation call.caller.actor request with
  | .error denial => .refused request (.denied denial)
  | .ok () => request.carryOut operation call office fresh

/-- The draft of a new request on a route. -/
def draft (id : Identifier) (new : NewRequest) (route : Route) (call : Call) : Request :=
  { id := id
    beneficiary := new.beneficiary
    requester := new.requester
    benefitType := new.benefitType
    origin := new.origin
    status := .draft
    route := route.pinned call.moment
    history := []
    pendencies := .empty
    documents := []
    opinion := none
    approvals := []
    release := none
    deliveryNote := none
    createdBy := call.caller.user
    createdAt := call.moment
    updatedAt := call.moment
    version := 0
    eventSequence := 0 }

/-- Opens a request on the route that is on offer for its type of benefit. -/
def begin (id : Identifier) (new : NewRequest) (routes : RouteTable) (call : Call)
    (eventId : Identifier) : Except RequestError (Request × List Event) :=
  match Permission.toOpen call.caller.actor with
  | .error denial => .error (.denied denial)
  | .ok () =>
      match routes.resolve new.benefitType with
      | .error _ => .error (.configurationMissing new.benefitType)
      | .ok route =>
          let outcome := (draft id new route call).announce call eventId
            (.created new.benefitType new.beneficiary new.requester new.origin route.revision)
          match outcome.result with
          | .ok events => .ok (outcome.request, events)
          | .error reason => .error reason

def checkVersion (request : Request) (expected : UInt64) : Except RequestError Unit :=
  if request.version = expected then .ok ()
  else .error (.concurrentModification request.id expected request.version)

end Request

/-- How many identifiers an accepted operation takes: one for each item raised
and one for each event. -/
def Operation.identifiersTaken (operation : Operation) (events : List Event) : Nat :=
  operation.itemsRaised + events.length

end BenefitCasework
