import BenefitCasework.Delivery.Relay
import BenefitCasework.Desk
import BenefitCasework.Settings

/-!
Contract: the written forms, by name.

Owns:
- `Form`, a type with its written form;
- `Form.named?`, the forms that have a name;
- `Form.again?`, a value read in a form and written again.

Does not own: the forms, which stand beside their types.
-/

namespace BenefitCasework

/-- A type with its written form. -/
structure Form where
  content : Type
  form : JsonForm content

namespace Form

def of (content : Type) [form : JsonForm content] : Form := ⟨content, form⟩

def named? (name : String) : Option Form :=
  match name with
  | "BenefitRequest" => some (of Request)
  | "DomainEvent" => some (of Event)
  | "RequestEvent" => some (of EventPayload)
  | "SerializedEvent" => some (of Envelope)
  | "EventMetadata" => some (of EnvelopeMark)
  | "AuditEntry" => some (of AuditEntry)
  | "AuditSeal" => some (of Seal)
  | "FieldChange" => some (of FieldChange)
  | "WorkflowRoute" => some (of Route)
  | "WorkflowGate" => some (of Gate)
  | "Pendencies" => some (of PendencyLog)
  | "ActorContext" => some (of Caller)
  | "Actor" => some (of Actor)
  | "Beneficiary" => some (of Beneficiary)
  | "RequesterInfo" => some (of Requester)
  | "PaymentDetails" => some (of Payment)
  | "PaymentChannel" => some (of PaymentChannel)
  | "RequestStatus" => some (of Status)
  | "Role" => some (of Role)
  | "Kinship" => some (of Kinship)
  | "RequestId" => some (of Identifier)
  | "Version" => some (of UInt64)
  | "StreamId" => some (of String)
  | "WorkflowConfig" => some (of Settings)
  | _ => none

def again? (form : Form) (value : Json) : Option Json :=
  (form.form.read? value).map form.form.write

end Form

end BenefitCasework
