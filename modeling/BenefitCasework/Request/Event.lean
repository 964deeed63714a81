import BenefitCasework.Request.Basic

/-!
Contract: what is announced when a request changes.

Owns:
- `EventPayload`, the nine kinds of announcement, with their names;
- `Event`, an announcement with its own identifier, its request and its number
  in that request, starting at one;
- their written forms.

Does not own: which operation announces what, and the form in which events
travel.
-/

namespace BenefitCasework

/-- An item as announced. -/
structure PendencySummary where
  id : Identifier
  description : String
deriving DecidableEq, Repr

instance : JsonForm PendencySummary where
  write summary := .object [("id", Json.of summary.id),
    ("description", Json.of summary.description)]
  read? value := do
    match ← Json.slots? ["id", "description"] value with
    | [id, description] => return ⟨← Json.required id, ← Json.required description⟩
    | _ => none

/-- What is announced. -/
inductive EventPayload where
  | created (benefitType : String) (beneficiary : Beneficiary) (requester : Requester)
      (origin : Origin) (routeRevision : UInt32)
  | submitted (status : Status)
  | pended (justification : String) (pendencies : List PendencySummary) (cycle : UInt32)
  | approved (user : Identifier) (gates : List String)
  | rejected (justification : String)
  | resubmitted (cycle : UInt32)
  | released (payment : Payment) (channel : PaymentChannel)
  | completed (deliveryNote : String)
  | cancelled (reason : String) (source : Status)
deriving DecidableEq

namespace EventPayload

def kind : EventPayload → String
  | .created _ _ _ _ _ => "RequestCreated"
  | .submitted _ => "RequestSubmitted"
  | .pended _ _ _ => "RequestPended"
  | .approved _ _ => "RequestApproved"
  | .rejected _ => "RequestRejected"
  | .resubmitted _ => "RequestResubmitted"
  | .released _ _ => "RequestReleased"
  | .completed _ => "RequestCompleted"
  | .cancelled _ _ => "RequestCancelled"

def contents : EventPayload → JsonFields
  | .created benefitType beneficiary requester origin routeRevision =>
      [("benefit_type", Json.of benefitType), ("beneficiary", Json.of beneficiary),
        ("requester", Json.of requester), ("origin", Json.of origin),
        ("route_version", Json.of routeRevision)]
  | .submitted status => [("status", Json.of status)]
  | .pended justification pendencies cycle =>
      [("justification", Json.of justification), ("pendencies", Json.of pendencies),
        ("cycle", Json.of cycle)]
  | .approved user gates => [("approved_by", Json.of user), ("gates", Json.of gates)]
  | .rejected justification => [("justification", Json.of justification)]
  | .resubmitted cycle => [("cycle", Json.of cycle)]
  | .released payment channel => [("payment", Json.of payment), ("channel", Json.of channel)]
  | .completed deliveryNote => [("delivery_note", Json.of deliveryNote)]
  | .cancelled reason source => [("reason", Json.of reason), ("from", Json.of source)]

def ofContents? (kind : String) (content : Json) : Option EventPayload := do
  if kind = "RequestCreated" then
    match ← Json.slots? ["benefit_type", "beneficiary", "requester", "origin", "route_version"]
        content with
    | [benefitType, beneficiary, requester, origin, routeRevision] =>
        return .created (← Json.required benefitType) (← Json.required beneficiary)
          (← Json.required requester) (← Json.required origin) (← Json.required routeRevision)
    | _ => none
  else if kind = "RequestSubmitted" then
    match ← Json.slots? ["status"] content with
    | [status] => return .submitted (← Json.required status)
    | _ => none
  else if kind = "RequestPended" then
    match ← Json.slots? ["justification", "pendencies", "cycle"] content with
    | [justification, pendencies, cycle] =>
        return .pended (← Json.required justification) (← Json.required pendencies)
          (← Json.required cycle)
    | _ => none
  else if kind = "RequestApproved" then
    match ← Json.slots? ["approved_by", "gates"] content with
    | [user, gates] => return .approved (← Json.required user) (← Json.required gates)
    | _ => none
  else if kind = "RequestRejected" then
    match ← Json.slots? ["justification"] content with
    | [justification] => return .rejected (← Json.required justification)
    | _ => none
  else if kind = "RequestResubmitted" then
    match ← Json.slots? ["cycle"] content with
    | [cycle] => return .resubmitted (← Json.required cycle)
    | _ => none
  else if kind = "RequestReleased" then
    match ← Json.slots? ["payment", "channel"] content with
    | [payment, channel] => return .released (← Json.required payment) (← Json.required channel)
    | _ => none
  else if kind = "RequestCompleted" then
    match ← Json.slots? ["delivery_note"] content with
    | [deliveryNote] => return .completed (← Json.required deliveryNote)
    | _ => none
  else if kind = "RequestCancelled" then
    match ← Json.slots? ["reason", "from"] content with
    | [reason, source] => return .cancelled (← Json.required reason) (← Json.required source)
    | _ => none
  else none

instance : JsonForm EventPayload where
  write payload := .object [(payload.kind, .object payload.contents)]
  read? value := do
    let (kind, content) ← Json.variant? value
    ofContents? kind content

end EventPayload

/-- An announcement about a request. -/
structure Event where
  id : Identifier
  request : Identifier
  sequence : UInt64
  correlation : Identifier
  moment : Instant
  payload : EventPayload
deriving DecidableEq

instance : JsonForm Event where
  write event := .object [("event_id", Json.of event.id), ("request_id", Json.of event.request),
    ("sequence", Json.of event.sequence), ("correlation_id", Json.of event.correlation),
    ("occurred_at", Json.of event.moment), ("payload", Json.of event.payload)]
  read? value := do
    match ← Json.slots? ["event_id", "request_id", "sequence", "correlation_id", "occurred_at",
        "payload"] value with
    | [id, request, sequence, correlation, moment, payload] =>
        return ⟨← Json.required id, ← Json.required request, ← Json.required sequence,
          ← Json.required correlation, ← Json.required moment, ← Json.required payload⟩
    | _ => none

end BenefitCasework
