import BenefitCasework.Request.Operation

/-!
Contract: why an operation on a request is refused.

Owns:
- `BusinessRule`, the rules on what an operation brings along;
- `Denial`, the three layers of permission: status, role, rule;
- `RequestError`, every refusal, with its stable code and its wording.

Does not own: faults of signing and of delivery, which refuse no operation.
-/

namespace BenefitCasework

/-- The texts that must not be blank. -/
inductive NoteField where
  | technicalOpinion
  | pendencyDescription
  | resolutionNote
  | deliveryNote
deriving DecidableEq, Repr, Inhabited

def NoteField.name : NoteField → String
  | .technicalOpinion => "technical_opinion"
  | .pendencyDescription => "pendency_description"
  | .resolutionNote => "resolution_note"
  | .deliveryNote => "delivery_note"

/-- A rule on what an operation brings along. -/
inductive BusinessRule where
  | opinionRequired
  | itemsRequired
  | justificationRequired
  | openPendencies (count : Nat)
  | emptyNote (field : NoteField)
  | amountRequired
deriving DecidableEq, Repr

def BusinessRule.message : BusinessRule → String
  | .opinionRequired => "a technical opinion must be recorded before approval"
  | .itemsRequired => "at least one pendency item is required"
  | .justificationRequired => "a justification is required"
  | .openPendencies count => toString count ++ " pendencies are still open"
  | .emptyNote field => field.name ++ " must not be empty"
  | .amountRequired => "payment amount must be greater than zero"

/-- Why permission is denied. -/
inductive Denial where
  | invalidTransition (status : Status) (operation : OperationName)
  | roleNotPermitted (operation : OperationName) (required : List Role)
  | ruleViolated (rule : BusinessRule)
deriving DecidableEq, Repr

def Denial.message : Denial → String
  | .invalidTransition status operation =>
      "cannot " ++ operation.text ++ " a request in status " ++ status.name
  | .roleNotPermitted operation required =>
      operation.text ++ " requires one of " ++ rolesText required
  | .ruleViolated rule => "business rule violated: " ++ rule.message

/-- Why an operation is refused. -/
inductive RequestError where
  | denied (denial : Denial)
  | missingDocuments (documents : List String)
  | invalidRepresentative (reason : String)
  | configurationMissing (benefitType : String)
  | paymentInfoMissing (citizen : Identifier)
  | concurrentModification (request : Identifier) (expected actual : UInt64)
  | notFound (request : Identifier)
  | pendencyNotFound (pendency : Identifier)
  | pendencyAlreadyResolved (pendency : Identifier)
  | storage (reason : String)
deriving DecidableEq, Repr

namespace RequestError

def message : RequestError → String
  | .denied denial => denial.message
  | .missingDocuments documents => "missing mandatory documents: " ++ ", ".intercalate documents
  | .invalidRepresentative reason => "invalid representative: " ++ reason
  | .configurationMissing benefitType =>
      "no workflow route configured for benefit type " ++ benefitType
  | .paymentInfoMissing citizen =>
      "beneficiary " ++ citizen.text ++ " has no payment channel on record"
  | .concurrentModification request expected actual =>
      "request " ++ request.text ++ " was modified concurrently (expected version " ++
        toString expected.toNat ++ ", found " ++ toString actual.toNat ++ ")"
  | .notFound request => "request " ++ request.text ++ " not found"
  | .pendencyNotFound pendency => "pendency " ++ pendency.text ++ " not found"
  | .pendencyAlreadyResolved pendency => "pendency " ++ pendency.text ++ " is already resolved"
  | .storage reason => "storage failure: " ++ reason

def code : RequestError → String
  | .denied (.invalidTransition _ _) => "invalid_transition"
  | .denied (.roleNotPermitted _ _) => "role_not_permitted"
  | .denied (.ruleViolated _) => "business_rule_violation"
  | .missingDocuments _ => "missing_documents"
  | .invalidRepresentative _ => "invalid_representative"
  | .configurationMissing _ => "configuration_missing"
  | .paymentInfoMissing _ => "payment_info_missing"
  | .concurrentModification _ _ _ => "concurrent_modification"
  | .notFound _ => "not_found"
  | .pendencyNotFound _ => "pendency_not_found"
  | .pendencyAlreadyResolved _ => "pendency_already_resolved"
  | .storage _ => "storage"

/-- The operation is out of reach for this status or this person. -/
def isInvalidTransition : RequestError → Bool
  | .denied (.invalidTransition _ _) => true
  | .denied (.roleNotPermitted _ _) => true
  | _ => false

def isUserError : RequestError → Bool
  | .storage _ => false
  | _ => true

end RequestError

end BenefitCasework
