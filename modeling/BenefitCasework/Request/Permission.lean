import BenefitCasework.Request.Basic
import BenefitCasework.Request.Refusal
import BenefitCasework.Text.Blank

/-!
Contract: who may do what to a request, and when.

Owns:
- `Permission.decide`, the decision on an operation: the table of statuses
  first, then the roles, then the rules on what the operation brings along, so
  that the first layer that fails names the denial;
- `Permission.toOpen`, the decision on opening a request.

The creator of a request may cancel it without a role. An approval needs a
role of the table and, unless the actor is an admin, a role of the gate that
the request waits for. Does not own: checks that need documents, payments or
pendencies by identifier.
-/

namespace BenefitCasework.Permission

/-- The status must stand in the table of the operation. -/
def checkStatus (status : Status) (operation : Operation) : Except Denial Unit :=
  if status ∈ operation.allowedFrom then .ok ()
  else .error (.invalidTransition status operation.name)

def checkAnyRole (operation : Operation) (required : List Role) (actor : Actor) :
    Except Denial Unit :=
  if actor.holdsAny required then .ok ()
  else .error (.roleNotPermitted operation.name required)

/-- An approver who is no admin needs a role of the gate that is waited for. -/
def checkGateRole (gate : Option Gate) (actor : Actor) : Except Denial Unit :=
  if actor.holds .admin then .ok ()
  else match gate with
    | some gate =>
        if actor.holdsAny gate.roles then .ok ()
        else .error (.roleNotPermitted .approve (gate.roles ++ [.admin]))
    | none => .ok ()

def checkRole (operation : Operation) (actor : Actor) (request : Request) : Except Denial Unit :=
  match operation with
  | .cancel _ =>
      if actor.user = request.createdBy then .ok ()
      else checkAnyRole operation operation.permittedRoles actor
  | .approve =>
      match checkAnyRole operation operation.permittedRoles actor with
      | .error denial => .error denial
      | .ok () => checkGateRole request.currentGate? actor
  | _ => checkAnyRole operation operation.permittedRoles actor

/-- A text that must say something. -/
def checkNote (field : NoteField) (note : String) : Except BusinessRule Unit :=
  if Text.isBlank note then .error (.emptyNote field) else .ok ()

/-- A justification that must say something. -/
def checkJustification (justification : String) : Except BusinessRule Unit :=
  if Text.isBlank justification then .error .justificationRequired else .ok ()

def checkRule (operation : Operation) (request : Request) : Except BusinessRule Unit :=
  match operation with
  | .recordOpinion text => checkNote .technicalOpinion text
  | .approve => if request.opinion.isNone then .error .opinionRequired else .ok ()
  | .pend justification items =>
      if items.isEmpty then .error .itemsRequired
      else if items.any Text.isBlank then .error (.emptyNote .pendencyDescription)
      else checkJustification justification
  | .reject justification => checkJustification justification
  | .cancel reason => checkJustification reason
  | .resolvePendency _ note => checkNote .resolutionNote note
  | .resubmit =>
      if request.pendencies.openItems.isEmpty then .ok ()
      else .error (.openPendencies request.pendencies.openItems.length)
  | .release payment => if payment.cents = 0 then .error .amountRequired else .ok ()
  | .complete note => checkNote .deliveryNote note
  | .submit => .ok ()
  | .sendToAnalysis => .ok ()
  | .attachDocument _ => .ok ()

/-- The decision on an operation in a status. -/
def decide (status : Status) (operation : Operation) (actor : Actor) (request : Request) :
    Except Denial Unit :=
  match checkStatus status operation with
  | .error denial => .error denial
  | .ok () =>
      match checkRole operation actor request with
      | .error denial => .error denial
      | .ok () =>
          match checkRule operation request with
          | .error rule => .error (.ruleViolated rule)
          | .ok () => .ok ()

/-- Any role is enough to open a request. -/
def toOpen (actor : Actor) : Except Denial Unit :=
  if actor.holdsAny Role.all then .ok () else .error (.roleNotPermitted .create Role.all)

end BenefitCasework.Permission
