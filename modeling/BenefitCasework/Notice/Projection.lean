import BenefitCasework.Notice
import BenefitCasework.Table

/-!
Contract: which notice goes out, and when.

Owns:
- `Projection`, the highest sequence accepted for each request and the events
  that wait behind the delivery under way;
- `Projection.step`, what an arriving event or a finished delivery changes;
- `Projection.fields`, a projection in its parts.

An event whose sequence is not above all earlier ones of its request is
skipped. A request has at most one delivery under way; later events of that
request wait for it, in the order of their arrival. Does not own: the delivery.
-/

namespace BenefitCasework

/-- What happens to a projection. -/
inductive NoticeAction where
  | received (event : Event)
  | delivered (request event : Identifier)
  | failed (request event : Identifier) (reason : String)
deriving DecidableEq

/-- Which events were accepted and which wait. The counts have no limit; each is at
most the number of events that arrived. -/
structure Projection where
  acceptedThrough : Table Identifier UInt64
  inFlight : Table Identifier (List Event)
  delivered : Nat
  failures : Nat
  skipped : Nat
deriving DecidableEq

namespace Projection

def empty : Projection := ⟨[], [], 0, 0, 0⟩

/-- The highest sequence accepted for a request. -/
def acceptedFor (projection : Projection) (request : Identifier) : UInt64 :=
  (projection.acceptedThrough.get? request).getD 0

/-- Takes in an event. The delivery that is to be started comes with it. -/
def receive (projection : Projection) (event : Event) : Projection × List (Effect Event) :=
  let accepted := projection.acceptedFor event.request
  if event.sequence ≤ accepted then
    ({ projection with
        acceptedThrough := projection.acceptedThrough.set event.request accepted
        skipped := projection.skipped + 1 }, [])
  else
    let through := projection.acceptedThrough.set event.request event.sequence
    match projection.inFlight.get? event.request with
    | some waiting =>
        ({ projection with
            acceptedThrough := through
            inFlight := projection.inFlight.set event.request (waiting ++ [event]) }, [])
    | none =>
        ({ projection with
            acceptedThrough := through
            inFlight := projection.inFlight.set event.request [] }, [.task event])

/-- Starts the delivery of the next event of a request, if one waits. -/
def next (projection : Projection) (request : Identifier) : Projection × List (Effect Event) :=
  match projection.inFlight.get? request with
  | some (event :: waiting) =>
      ({ projection with inFlight := projection.inFlight.set request waiting }, [.task event])
  | _ => ({ projection with inFlight := projection.inFlight.erase request }, [])

def step : Reducer Projection NoticeAction Event := fun projection action =>
  match action with
  | .received event => projection.receive event
  | .delivered request _ => { projection with delivered := projection.delivered + 1 }.next request
  | .failed request _ _ => { projection with failures := projection.failures + 1 }.next request

/-- A projection in its parts, the waiting events by their identifiers. -/
def fields (projection : Projection) : JsonFields :=
  [("accepted_through", .object (projection.acceptedThrough.map fun (request, sequence) =>
      (request.text, Json.of sequence))),
    ("in_flight", .object (projection.inFlight.map fun (request, waiting) =>
      (request.text, Json.of (waiting.map Event.id)))),
    ("delivered", .integer projection.delivered), ("failures", .integer projection.failures),
    ("duplicates_skipped", .integer projection.skipped)]

end Projection

instance : JsonForm NoticeAction where
  write
    | .received event => .object [("kind", .string "EventReceived"), ("event", Json.of event)]
    | .delivered request event =>
        .object [("kind", .string "Delivered"), ("request_id", Json.of request),
          ("event_id", Json.of event)]
    | .failed request event reason =>
        .object [("kind", .string "DeliveryFailed"), ("request_id", Json.of request),
          ("event_id", Json.of event), ("reason", Json.of reason)]
  read? value := do
    match value.fieldOrNull "kind" with
    | .string "EventReceived" => return .received (← Json.required (value.field? "event"))
    | .string "Delivered" =>
        return .delivered (← Json.required (value.field? "request_id"))
          (← Json.required (value.field? "event_id"))
    | .string "DeliveryFailed" =>
        return .failed (← Json.required (value.field? "request_id"))
          (← Json.required (value.field? "event_id"))
          ((← Json.optional (value.field? "reason")).getD "")
    | _ => none

end BenefitCasework
