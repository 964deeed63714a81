import BenefitCasework.Identifier
import BenefitCasework.Role

/-!
Contract: who acts, and from where a call comes.

Owns:
- `Actor`, a user with roles in a unit;
- `Caller`, an actor with the address and program of the client, if known, and
  the identifier that ties together everything one call causes.

Does not own: permissions.
-/

namespace BenefitCasework

/-- A user with roles in a unit. -/
structure Actor where
  user : Identifier
  roles : RoleSet
  unit : Identifier
deriving DecidableEq, Repr, Inhabited

namespace Actor

def holds (actor : Actor) (role : Role) : Bool := actor.roles.holds role

/-- A list names a role of the actor. -/
def holdsAny (actor : Actor) (names : List Role) : Bool := actor.roles.holdsAny names

instance : JsonForm Actor where
  write actor := .object [("user_id", Json.of actor.user), ("roles", Json.of actor.roles),
    ("unit_id", Json.of actor.unit)]
  read? value := do
    match ← Json.slots? ["user_id", "roles", "unit_id"] value with
    | [user, roles, unit] =>
        return ⟨← Json.required user, ← Json.required roles, ← Json.required unit⟩
    | _ => none

end Actor

/-- An actor as seen in one call. -/
structure Caller where
  actor : Actor
  address : Option String
  program : Option String
  correlation : Identifier
deriving DecidableEq, Repr, Inhabited

namespace Caller

def user (caller : Caller) : Identifier := caller.actor.user

instance : JsonForm Caller where
  write caller := .object [("actor", Json.of caller.actor), ("ip_address", Json.of caller.address),
    ("user_agent", Json.of caller.program), ("correlation_id", Json.of caller.correlation)]
  read? value := do
    match ← Json.slots? ["actor", "ip_address", "user_agent", "correlation_id"] value with
    | [actor, address, program, correlation] =>
        return ⟨← Json.required actor, ← Json.optional address, ← Json.optional program,
          ← Json.required correlation⟩
    | _ => none

end Caller

end BenefitCasework
