import BenefitCasework.Fault.Basic
import BenefitCasework.Json.Record

/-!
Contract: faults by their names.

Owns:
- `RequestError.named?`, `BusError.named?` and so on, the fault of a name with
  the particulars that a record gives;
- `faultText?`, the wording of a fault from the name of its kind and its own.

Where a kind has a last, general fault, every other name means that one. Does
not own: how a fault is told.
-/

namespace BenefitCasework

def OperationName.picked (number : Nat) : OperationName :=
  match number % 4 with
  | 0 => .submit
  | 1 => .approve
  | 2 => .cancel
  | _ => .create

def NoteField.picked (number : Nat) : NoteField :=
  match number % 4 with
  | 0 => .technicalOpinion
  | 1 => .pendencyDescription
  | 2 => .resolutionNote
  | _ => .deliveryNote

def BusinessRule.named? (name : String) (record : Json) : Option BusinessRule := do
  match name with
  | "TechnicalOpinionRequired" => return .opinionRequired
  | "PendencyItemsRequired" => return .itemsRequired
  | "JustificationRequired" => return .justificationRequired
  | "OpenPendencies" => return .openPendencies (← record.getNatural "count")
  | "EmptyNote" => return .emptyNote (.picked (← record.getNaturalOr 0 "pick"))
  | "PaymentAmountRequired" => return .amountRequired
  | _ => none

def RequestError.named? (name : String) (record : Json) : Option RequestError := do
  let reason ← record.getText "reason"
  let id := record.getAs Identifier "id"
  match name with
  | "InvalidTransition" =>
      return .denied (.invalidTransition (← record.getAs Status "from")
        (.picked (← record.getNaturalOr 0 "pick")))
  | "RoleNotPermitted" =>
      return .denied (.roleNotPermitted (.picked (← record.getNaturalOr 0 "pick"))
        (← record.getList Role "required"))
  | "MissingDocuments" => return .missingDocuments (← record.getList String "documents")
  | "InvalidRepresentative" => return .invalidRepresentative reason
  | "ConfigurationMissing" => return .configurationMissing reason
  | "PaymentInfoMissing" => return .paymentInfoMissing (← id)
  | "ConcurrentModification" =>
      return .concurrentModification (← id) (← record.getAs UInt64 "expected")
        (← record.getAs UInt64 "actual")
  | "NotFound" => return .notFound (← id)
  | "PendencyNotFound" => return .pendencyNotFound (← id)
  | "PendencyAlreadyResolved" => return .pendencyAlreadyResolved (← id)
  | "Storage" => return .storage reason
  | _ => return .denied (.ruleViolated (← BusinessRule.named? name record))

def BusError.named? (name : String) (record : Json) : Option BusError := do
  let reason ← record.getText "reason"
  match name with
  | "PublishFailed" => return .publishFailed (← record.getText "topic") reason
  | "SubscriptionFailed" => return .subscriptionFailed (← record.getList String "topics") reason
  | "Lagged" => return .lagged (← record.getNatural "skipped")
  | "InvalidTopic" => return .invalidTopic (← record.getText "topic")
  | "Closed" => return .closed
  | _ => none

def NoticeError.named? (name : String) (record : Json) : Option NoticeError := do
  let reason ← record.getText "reason"
  match name with
  | "Delivery" => return .undelivered reason
  | "Decode" => return .unreadable reason
  | "ShutdownInProgress" => return .store .closing
  | _ => return .bus (← BusError.named? name record)

def AuditError.named? (name : String) (record : Json) : Option AuditError := do
  let reason ← record.getText "reason"
  match name with
  | "EntryNotFound" => return .entryNotFound (← record.getAs Identifier "id")
  | "DuplicateEntry" => return .duplicateEntry (← record.getAs Identifier "id")
  | "Serialization" => return .unwritable reason
  | _ => return .storage reason

def SigningError.named? (name : String) (record : Json) : Option SigningError := do
  let reason ← record.getText "reason"
  match name with
  | "InvalidKey" => return .invalidKey reason
  | "Unavailable" => return .unavailable reason
  | _ => return .missingKey

def EnvelopeError.named? (name : String) (record : Json) : Option EnvelopeError := do
  let reason ← record.getText "reason"
  match name with
  | "SerializationError" => return .unwritable reason
  | "DeserializationError" => return .malformed reason
  | _ => return .kindMismatch (← record.getText "envelope") reason

def StoreError.named? (name : String) (record : Json) : Option StoreError := do
  match name with
  | "ShutdownTimeout" => return .timedOut (← record.getNatural "count")
  | _ => return .closing

def ExporterError.named? (name : String) (record : Json) : Option ExporterError := do
  let reason ← record.getText "reason"
  match name with
  | "Build" => return .notBuilt reason
  | _ => return .notInstalled reason

/-- An activity that was given up, with its last error in words. -/
def Exhausted.ofRecord? (record : Json) : Option (Exhausted String) := do
  return ⟨← record.getAs UInt32 "count", ← record.getText "reason"⟩

/-- The wording of a fault from the name of its kind and its own. -/
def faultText? (kind name : String) (record : Json) : Option String :=
  match kind with
  | "BusinessRule" => (BusinessRule.named? name record).map BusinessRule.message
  | "EventBusError" => (BusError.named? name record).map BusError.message
  | "NotificationError" => (NoticeError.named? name record).map NoticeError.message
  | "AuditError" => (AuditError.named? name record).map AuditError.message
  | "SigningError" => (SigningError.named? name record).map SigningError.message
  | "EventError" => (EnvelopeError.named? name record).map EnvelopeError.message
  | "StoreError" => (StoreError.named? name record).map StoreError.message
  | "MetricsError" => (ExporterError.named? name record).map ExporterError.message
  | "RetriesExhausted" => (Exhausted.ofRecord? record).map fun exhausted => exhausted.text id
  | _ => none

end BenefitCasework
