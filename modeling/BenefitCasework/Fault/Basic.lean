import BenefitCasework.Audit.Log
import BenefitCasework.Audit.Signer
import BenefitCasework.Delivery.Retry
import BenefitCasework.Metric
import BenefitCasework.Notice
import BenefitCasework.Pendency
import BenefitCasework.Request.Refusal
import BenefitCasework.Route
import BenefitCasework.Settings

/-!
Contract: how a fault is told.

Owns:
- `Fault`, a kind of fault with a stable code and a wording, and its instances;
- `Json.ofFault`, a fault as a value;
- `Json.ofResult`, a result as a value, or the fault in its place.

Does not own: when a fault arises.
-/

namespace BenefitCasework

/-- A kind of fault with a stable code and a wording. -/
class Fault (ε : Type) where
  /-- The code by which programs tell faults apart. -/
  code : ε → String
  /-- The fault in words. -/
  message : ε → String

namespace Json

def ofCode (code : String) : Json := .object [("error", .string code)]

def ofCodeAndMessage (code message : String) : Json :=
  .object [("error", .string code), ("message", .string message)]

def ofFault {ε : Type} [Fault ε] (reason : ε) : Json :=
  ofCodeAndMessage (Fault.code reason) (Fault.message reason)

/-- A result as a value, or the fault in its place. -/
def ofResult {ε α : Type} [Fault ε] [JsonForm α] : Except ε α → Json
  | .ok content => of content
  | .error reason => ofFault reason

def okay : Json := .string "ok"

/-- A success without content, or the fault in its place. -/
def ofCheck {ε : Type} [Fault ε] : Except ε Unit → Json
  | .ok () => okay
  | .error reason => ofFault reason

end Json

instance : Fault RequestError := ⟨RequestError.code, RequestError.message⟩

instance : Fault Denial where
  code denial := (RequestError.denied denial).code
  message := Denial.message

instance : Fault RouteError where
  code
    | .missing _ => "ConfigurationMissing"
    | .noApprovalGate _ => "NoApprovalGate"
    | .gateWithoutRoles _ => "GateWithoutRoles"
    | .misplacedTriage _ => "MisplacedTriage"
  message := RouteError.message

instance : Fault AuditError where
  code
    | .entryNotFound _ => "EntryNotFound"
    | .duplicateEntry _ => "DuplicateEntry"
    | .unwritable _ => "Serialization"
    | .storage _ => "Storage"
  message := AuditError.message

instance : Fault SigningError where
  code
    | .missingKey => "MissingKey"
    | .invalidKey _ => "InvalidKey"
    | .unavailable _ => "Unavailable"
  message := SigningError.message

instance : Fault PendencyError where
  code
    | .notFound _ => "NotFound"
    | .alreadyResolved _ => "AlreadyResolved"
  message := PendencyError.message

instance : Fault SettingsError where
  code _ := "Invalid"
  message := SettingsError.message

instance : Fault BusError where
  code _ := "bus"
  message := BusError.message

instance : Fault StoreError where
  code
    | .closing => "store"
    | .timedOut _ => "ShutdownTimeout"
  message := StoreError.message

end BenefitCasework
