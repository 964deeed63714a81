import BenefitCasework.Delivery.Retry
import BenefitCasework.Json.Record

/-!
Contract: how a retry policy is told.

Owns:
- `RetryPolicy.ofRecord?`, a policy from the fields of a record; what is not
  told is as in the standard policy, but without jitter.

The multiplier may be any number, also an infinite or undefined one by its
name. Does not own: what a policy means.
-/

namespace BenefitCasework

/-- A number in figures, or by name where figures cannot write it. -/
def Number.Binary64.ofJson? : Json → Option Number.Binary64
  | .decimal number => some number
  | .integer (.ofNat number) => some (.ofFloat (UInt64.ofNat number).toFloat)
  | .integer (.negSucc number) => some (.ofFloat (-(UInt64.ofNat (number + 1)).toFloat))
  | .string "inf" => some (.ofFloat (1.0 / 0.0))
  | .string "-inf" => some (.ofFloat (-1.0 / 0.0))
  | .string "NaN" => some (.ofFloat (0.0 / 0.0))
  | _ => none

/-- A length of time in milliseconds, or a stand-in unless told. -/
def Duration.ofRecord? (standIn : Duration) (name : String) (record : Json) : Option Duration :=
  (record.getOptional UInt64 name).map fun told =>
    (told.map Duration.ofMilliseconds).getD standIn

def RetryPolicy.ofRecord? (record : Json) : Option RetryPolicy := do
  let multiplier ← match record.get "multiplier" with
    | .null => some standard.multiplier
    | value => Number.Binary64.ofJson? value
  return { maxRetries := ← record.getOr standard.maxRetries "max_retries"
           initialDelay := ← Duration.ofRecord? standard.initialDelay "initial_delay_ms" record
           maxDelay := ← Duration.ofRecord? standard.maxDelay "max_delay_ms" record
           multiplier := multiplier
           jitter := ← record.getFlag "jitter" }

end BenefitCasework
