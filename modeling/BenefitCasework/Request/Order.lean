import BenefitCasework.Json.Record
import BenefitCasework.Request.Operation
import BenefitCasework.Request.Snapshot

/-!
Contract: operations as they are asked for.

Owns:
- `Operation.ofOrder?`, the operation that a record asks for by its verb;
- `Operation.ofName?`, an operation by its stable name, with one text;
- `PendencyLog.idOf?`, an item by its identifier or by its place.

Does not own: whether an operation is permitted.
-/

namespace BenefitCasework

/-- The identifier of an item that is named in full or by its place among all
items. No item has the place that is named: then nothing has its identifier. -/
def PendencyLog.idOf? (items : List Pendency) : Json → Option Identifier
  | .integer (.ofNat place) => some ((items[place]?.map Pendency.id).getD .nil)
  | value => Json.read? Identifier value

namespace Operation

/-- The operation that a record asks for by its verb. -/
def ofOrder? (items : List Pendency) (order : Json) : Option Operation := do
  match ← order.getText "do" with
  | "submit" => return .submit
  | "send_to_analysis" => return .sendToAnalysis
  | "attach" => return .attachDocument (← order.getText "document")
  | "opinion" => return .recordOpinion (← order.getText "text")
  | "approve" => return .approve
  | "pend" => return .pend (← order.getText "justification") (← order.getList String "items")
  | "reject" => return .reject (← order.getText "justification")
  | "resolve" =>
      return .resolvePendency (← PendencyLog.idOf? items (order.get "pendency"))
        (← order.getText "note")
  | "resubmit" => return .resubmit
  | "release" => return .release (← order.getAs Payment "payment")
  | "complete" => return .complete (← order.getText "note")
  | "cancel" => return .cancel (← order.getText "reason")
  | _ => none

/-- An operation by its stable name. The text stands wherever the operation
takes one. -/
def ofName? (name text : String) (items : List String) (cents : UInt64) : Option Operation :=
  match name with
  | "submit" => some .submit
  | "send_to_analysis" => some .sendToAnalysis
  | "attach_document" => some (.attachDocument text)
  | "record_technical_opinion" => some (.recordOpinion text)
  | "approve" => some .approve
  | "pend" => some (.pend text items)
  | "reject" => some (.reject text)
  | "resolve_pendency" => some (.resolvePendency .nil text)
  | "resubmit" => some .resubmit
  | "release" => some (.release ⟨cents, .pix, none⟩)
  | "complete" => some (.complete text)
  | "cancel" => some (.cancel text)
  | _ => none

end Operation

end BenefitCasework
