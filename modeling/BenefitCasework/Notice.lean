import BenefitCasework.Delivery.Bus
import BenefitCasework.Effect.Basic
import BenefitCasework.Request.Event

/-!
Contract: what people are told about an event.

Owns:
- `Notice`, the event in one sentence;
- `NoticeError`, why a notice cannot be made or handed over.

Does not own: the order of notices.
-/

namespace BenefitCasework

/-- What people are told about an event. -/
structure Notice where
  event : Identifier
  request : Identifier
  kind : String
  correlation : Identifier
  summary : String
deriving DecidableEq, Repr

def EventPayload.summary : EventPayload → String
  | .created benefitType _ _ _ _ => benefitType ++ " request opened"
  | .submitted status => "request submitted (" ++ status.name ++ ")"
  | .pended _ pendencies _ => Text.natural pendencies.length ++ " pendencies to resolve"
  | .approved _ _ => "request approved"
  | .rejected justification => "request rejected: " ++ justification
  | .resubmitted _ => "request back in analysis"
  | .released payment _ => "benefit released (" ++ Text.natural payment.cents.toNat ++ " cents)"
  | .completed _ => "delivery confirmed"
  | .cancelled reason _ => "request cancelled: " ++ reason

def Event.notice (event : Event) : Notice :=
  ⟨event.id, event.request, event.payload.kind, event.correlation, event.payload.summary⟩

instance : JsonForm Notice where
  write notice := .object [("event_id", Json.of notice.event),
    ("request_id", Json.of notice.request), ("event_type", Json.of notice.kind),
    ("correlation_id", Json.of notice.correlation), ("summary", Json.of notice.summary)]
  read? value := do
    match ← Json.slots? ["event_id", "request_id", "event_type", "correlation_id", "summary"]
        value with
    | [event, request, kind, correlation, summary] =>
        return ⟨← Json.required event, ← Json.required request, ← Json.required kind,
          ← Json.required correlation, ← Json.required summary⟩
    | _ => none

/-- Why a notice cannot be made or handed over. -/
inductive NoticeError where
  | undelivered (reason : String)
  | unreadable (reason : String)
  | bus (reason : BusError)
  | store (reason : StoreError)
deriving DecidableEq, Repr

def NoticeError.message : NoticeError → String
  | .undelivered reason => "delivery failed: " ++ reason
  | .unreadable reason => "undecodable event: " ++ reason
  | .bus reason => reason.message
  | .store reason => reason.message

end BenefitCasework
