import BenefitCasework.Request.Refusal
import BenefitCasework.Request.Snapshot
import BenefitCasework.Table

/-!
Contract: the requests on file.

Owns:
- `Register`, the requests by identifier;
- `Register.insert`, which takes in a request with a new identifier only.

Does not own: changes to a request that is on file.
-/

namespace BenefitCasework

/-- The requests on file, by identifier. -/
abbrev Register := Table Identifier Request

namespace Register

def insert (register : Register) (request : Request) : Except RequestError Register :=
  match register.get? request.id with
  | some _ => .error (.storage ("request " ++ request.id.text ++ " already exists"))
  | none => .ok (register.set request.id request)

end Register

end BenefitCasework
