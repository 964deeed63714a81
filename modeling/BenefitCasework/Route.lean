import BenefitCasework.Calendar.Written
import BenefitCasework.Role
import BenefitCasework.Table

/-!
Contract: the gates a request has to pass, by type of benefit.

Owns:
- `Gate` and `Route`: at most one triage gate in front, then approval gates
  that are passed in order;
- `Route.check`, which gate lists a route may have;
- `RouteTable`, the routes on offer: each accepted change of a benefit type
  raises its revision by one, a refused one changes nothing.

Requests copy their route when they are opened (`Route.pinned`). Does not own:
approvals, which stand with the request.
-/

namespace BenefitCasework

/-- What a gate is for. -/
inductive GateKind where
  | triage
  | approval
deriving DecidableEq, Repr, Inhabited

namespace GateKind

def all : List GateKind := [.triage, .approval]

def name : GateKind → String
  | .triage => "Triage"
  | .approval => "Approval"

instance : JsonForm GateKind where
  write kind := .string kind.name
  read? := Json.named? all name

end GateKind

/-- A gate that people with one of its roles may open. -/
structure Gate where
  name : String
  kind : GateKind
  roles : List Role
deriving DecidableEq, Repr, Inhabited

instance : JsonForm Gate where
  write gate := .object [("name", Json.of gate.name), ("kind", Json.of gate.kind),
    ("roles", Json.of gate.roles)]
  read? value := do
    match ← Json.slots? ["name", "kind", "roles"] value with
    | [name, kind, roles] =>
        return ⟨← Json.required name, ← Json.required kind, ← Json.required roles⟩
    | _ => none

/-- The gates for a type of benefit, in the revision in which they were set. -/
structure Route where
  benefitType : String
  revision : UInt32
  gates : List Gate
  pinnedAt : Option Instant
deriving DecidableEq

/-- Why a route cannot be found or set. -/
inductive RouteError where
  | missing (benefitType : String)
  | noApprovalGate (benefitType : String)
  | gateWithoutRoles (gate : String)
  | misplacedTriage (gate : String)
deriving DecidableEq, Repr

namespace RouteError

def message : RouteError → String
  | .missing benefitType => "no workflow route configured for benefit type " ++ benefitType
  | .noApprovalGate benefitType => "route for " ++ benefitType ++ " has no approval gate"
  | .gateWithoutRoles gate => "gate " ++ gate ++ " has no roles"
  | .misplacedTriage gate => "triage gate " ++ gate ++ " must be the first gate"

end RouteError

namespace Route

instance : JsonForm Route where
  write route := .object [("benefit_type", Json.of route.benefitType),
    ("config_version", Json.of route.revision), ("gates", Json.of route.gates),
    ("pinned_at", Json.of route.pinnedAt)]
  read? value := do
    match ← Json.slots? ["benefit_type", "config_version", "gates", "pinned_at"] value with
    | [benefitType, revision, gates, pinnedAt] =>
        return ⟨← Json.required benefitType, ← Json.required revision, ← Json.required gates,
          ← Json.optional pinnedAt⟩
    | _ => none

def hasTriage (route : Route) : Bool :=
  match route.gates with
  | gate :: _ => gate.kind == .triage
  | [] => false

def approvalGates (route : Route) : List Gate :=
  route.gates.filter fun gate => gate.kind == .approval

/-- The approval gate at a place among the approval gates. -/
def approvalGate? (route : Route) (place : Nat) : Option Gate := route.approvalGates[place]?

/-- The same route, copied at a moment. -/
def pinned (route : Route) (moment : Instant) : Route := { route with pinnedAt := some moment }

/-- Checks the gates behind the first ones: each has a role, and a triage gate
stands only at place zero. -/
def checkGates : Nat → List Gate → Except RouteError Unit
  | _, [] => .ok ()
  | place, gate :: rest =>
      if gate.roles.isEmpty then .error (.gateWithoutRoles gate.name)
      else if gate.kind = .triage ∧ 0 < place then .error (.misplacedTriage gate.name)
      else checkGates (place + 1) rest

/-- A route needs an approval gate, roles at each gate, and triage in front. -/
def check (route : Route) : Except RouteError Unit :=
  if route.approvalGates.isEmpty then .error (.noApprovalGate route.benefitType)
  else checkGates 0 route.gates

end Route

/-- The routes on offer, by type of benefit. -/
abbrev RouteTable := Table String Route

namespace RouteTable

/-- The route on offer for a type of benefit. -/
def resolve (routes : RouteTable) (benefitType : String) : Except RouteError Route :=
  match routes.get? benefitType with
  | some route => .ok route
  | none => .error (.missing benefitType)

/-- The revision that the next accepted change of a type of benefit gets. -/
def nextRevision (routes : RouteTable) (benefitType : String) : UInt32 :=
  match routes.get? benefitType with
  | some route => route.revision + 1
  | none => 1

/-- Sets the gates for a type of benefit, if they make a route. -/
def configure (routes : RouteTable) (benefitType : String) (gates : List Gate) :
    Except RouteError (UInt32 × RouteTable) :=
  let route : Route := ⟨benefitType, routes.nextRevision benefitType, gates, none⟩
  match route.check with
  | .ok () => .ok (route.revision, routes.set benefitType route)
  | .error reason => .error reason

end RouteTable

end BenefitCasework
