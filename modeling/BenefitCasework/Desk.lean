import BenefitCasework.Audit.Recorder
import BenefitCasework.Register
import BenefitCasework.Request.Lifecycle

/-!
Contract: the desk that serves calls.

Owns:
- `Desk`, the routes, documents and payment channels, the requests on file,
  the audit recorder and the outbox;
- `Desk.create` and `Desk.perform`, one call each. A call is carried out on a
  copy; only when the audit entry is recorded is the copy filed, and only when
  it is filed are the events put into the outbox;
- `Desk.changes`, what an audit entry says about a call.

Every call says how many of the fresh identifiers it took: those of the items
it raised, that of its event, and last that of the audit entry. Does not own:
the way of the events out of the outbox.
-/

namespace BenefitCasework

/-- Everything a call can see or change. -/
structure Desk where
  routes : RouteTable
  office : Office
  register : Register
  recorder : Recorder
  outbox : List Event
  tally : Tally

/-- What a call leads to. -/
structure Reply where
  desk : Desk
  result : Except RequestError (Request × List Event)
  taken : Nat

namespace Desk

def subjectType : String := "benefit_request"

/-- The fields of a request that are audited: all but the history. -/
def audited (request : Request) : Json :=
  .object (request.snapshot.filter fun field => field.1 != "history")

def nothing : Json := .null

/-- What changed from a request, or from nothing, to a request. -/
def changes (before : Option Request) (after : Request) : Changes :=
  Changes.between ((before.map audited).getD nothing) (audited after)

/-- The audit draft of a call on the request with an identifier. -/
def draftFor (call : Call) (operation : OperationName) (id : Identifier)
    (before : Option Request) (after : Request) : AuditDraft :=
  { subjectType := subjectType
    subjectId := id.text
    action := operation.text
    caller := call.caller
    changes := changes before after
    moment := call.moment }

def countRefusal (tally : Tally) (operation : OperationName) (reason : RequestError) : Tally :=
  let counted := tally.bump (.refusals operation reason.code)
  match reason with
  | .concurrentModification _ _ _ => counted.bump .conflicts
  | _ => counted

/-- A call that fails. -/
def refuse (desk : Desk) (operation : OperationName) (reason : RequestError) (taken : Nat) :
    Reply :=
  ⟨{ desk with tally := countRefusal desk.tally operation reason }, .error reason, taken⟩

/-- Records a call on the request with an identifier. Once it is recorded, the
request is filed; once it is filed, the events go into the outbox. -/
def commit (desk : Desk) (call : Call) (operation : OperationName) (id : Identifier)
    (before : Option Request) (after : Request) (events : List Event) (entryId : Identifier)
    (taken : Nat) (file : Register → Except RequestError Register) : Reply :=
  match desk.recorder.record (draftFor call operation id before after) entryId with
  | (recorder, .error reason) =>
      { desk with recorder := recorder }.refuse operation (.storage reason.message) taken
  | (recorder, .ok _) =>
      match file desk.register with
      | .error reason => { desk with recorder := recorder }.refuse operation reason taken
      | .ok register =>
          ⟨{ desk with
              recorder := recorder
              register := register
              outbox := desk.outbox ++ events }, .ok (after, events), taken⟩

/-- Opens a request. The first fresh identifier is for the request, taken in
any case, the second for the event, the third for the audit entry. -/
def create (desk : Desk) (call : Call) (new : NewRequest) (fresh : Nat → Identifier) : Reply :=
  let counted := { desk with tally := desk.tally.bump (.operations .create) }
  match Request.begin (fresh 0) new desk.routes call (fresh 1) with
  | .error reason => counted.refuse .create reason 1
  | .ok (request, events) =>
      counted.commit call .create request.id none request events (fresh 2) 3
        fun register => register.insert request

/-- Carries out an operation on a request on file, if it still has the version
that the caller expects. -/
def perform (desk : Desk) (call : Call) (id : Identifier) (expected : UInt64)
    (operation : Operation) (fresh : Nat → Identifier) : Reply :=
  let counted := { desk with tally := desk.tally.bump (.operations operation.name) }
  match desk.register.get? id with
  | none => counted.refuse operation.name (.notFound id) 0
  | some stored =>
      match stored.checkVersion expected with
      | .error reason => counted.refuse operation.name reason 0
      | .ok () =>
          let outcome := stored.apply operation call desk.office fresh
          match outcome.result with
          | .error reason => counted.refuse operation.name reason 0
          | .ok events =>
              let taken := operation.identifiersTaken events
              counted.commit call operation.name id (some stored) outcome.request events
                (fresh taken) (taken + 1) fun register => .ok (register.set id outcome.request)

def request? (desk : Desk) (id : Identifier) : Except RequestError Request :=
  match desk.register.get? id with
  | some request => .ok request
  | none => .error (.notFound id)

def trail (desk : Desk) (id : Identifier) : List AuditEntry :=
  desk.recorder.log.trail subjectType id.text

def text (desk : Desk) : String :=
  "RequestService \x7b requests: " ++ toString desk.register.length ++ ", audit: " ++
    desk.recorder.text ++ ", .. \x7d"

end Desk

end BenefitCasework
