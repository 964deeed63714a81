import BenefitCasework.Payment
import BenefitCasework.Role
import BenefitCasework.Status

/-!
Contract: what can be asked of a request.

Owns:
- `Operation`, the twelve operations with what each of them brings along;
- `OperationName`, their stable names, and that of opening a request;
- `Operation.allowedFrom`, the table of statuses;
- `Operation.permittedRoles`, the table of roles.

Does not own: the decision, which also looks at the request.
-/

namespace BenefitCasework

/-- The stable names of operations. -/
inductive OperationName where
  | create
  | submit
  | sendToAnalysis
  | attachDocument
  | recordOpinion
  | approve
  | pend
  | reject
  | resolvePendency
  | resubmit
  | release
  | complete
  | cancel
deriving DecidableEq, Repr, Inhabited

/-- The name as it stands in histories, audit entries and messages. -/
def OperationName.text : OperationName → String
  | .create => "create"
  | .submit => "submit"
  | .sendToAnalysis => "send_to_analysis"
  | .attachDocument => "attach_document"
  | .recordOpinion => "record_technical_opinion"
  | .approve => "approve"
  | .pend => "pend"
  | .reject => "reject"
  | .resolvePendency => "resolve_pendency"
  | .resubmit => "resubmit"
  | .release => "release"
  | .complete => "complete"
  | .cancel => "cancel"

instance : ToString OperationName := ⟨OperationName.text⟩

/-- Something asked of an open request. -/
inductive Operation where
  | submit
  | sendToAnalysis
  | attachDocument (document : String)
  | recordOpinion (text : String)
  | approve
  | pend (justification : String) (items : List String)
  | reject (justification : String)
  | resolvePendency (pendency : Identifier) (note : String)
  | resubmit
  | release (payment : Payment)
  | complete (note : String)
  | cancel (reason : String)
deriving DecidableEq, Repr

namespace Operation

def name : Operation → OperationName
  | .submit => .submit
  | .sendToAnalysis => .sendToAnalysis
  | .attachDocument _ => .attachDocument
  | .recordOpinion _ => .recordOpinion
  | .approve => .approve
  | .pend _ _ => .pend
  | .reject _ => .reject
  | .resolvePendency _ _ => .resolvePendency
  | .resubmit => .resubmit
  | .release _ => .release
  | .complete _ => .complete
  | .cancel _ => .cancel

def allowedFrom : Operation → List Status
  | .submit => [.draft]
  | .sendToAnalysis => [.opened]
  | .attachDocument _ => [.draft, .opened, .inAnalysis, .pending]
  | .recordOpinion _ => [.inAnalysis]
  | .approve => [.inAnalysis]
  | .pend _ _ => [.inAnalysis]
  | .reject _ => [.inAnalysis]
  | .resolvePendency _ _ => [.pending]
  | .resubmit => [.pending]
  | .release _ => [.approved]
  | .complete _ => [.released]
  | .cancel _ => [.draft, .opened, .inAnalysis, .pending, .approved]

def permittedRoles : Operation → List Role
  | .submit => [.unitTechnician, .admin]
  | .sendToAnalysis => [.unitTechnician, .manager, .admin]
  | .attachDocument _ => [.unitTechnician, .manager, .admin]
  | .recordOpinion _ => [.technicalReviewer, .admin]
  | .approve => [.manager, .technicalReviewer, .admin]
  | .pend _ _ => [.manager, .technicalReviewer, .admin]
  | .reject _ => [.manager, .technicalReviewer, .admin]
  | .resolvePendency _ _ => [.unitTechnician, .manager, .admin]
  | .resubmit => [.unitTechnician, .manager, .admin]
  | .release _ => [.unitTechnician, .manager, .admin]
  | .complete _ => [.unitTechnician, .manager, .admin]
  | .cancel _ => [.admin, .manager]

def itemsRaised : Operation → Nat
  | .pend _ items => items.length
  | _ => 0

end Operation

end BenefitCasework
