import BenefitCasework.Timeline.Schedule

/-!
Contract: a lock that only one holds at a time.

Owns:
- `Lock.acquire`, which takes the lock or joins those who wait for it;
- `Lock.release`, which hands the lock to the one who has waited longest.

Does not own: what the holder does.
-/

namespace BenefitCasework

/-- Who holds the lock, and who waits for it, the longest first. -/
structure Lock (τ : Type) where
  owner : Option (Who τ)
  waiting : List (Who τ)

namespace Lock

variable {τ : Type}

def free : Lock τ := ⟨none, []⟩

def acquire (lock : Lock τ) (who : Who τ) : Lock τ × Bool :=
  match lock.owner with
  | none => ({ lock with owner := some who }, true)
  | some _ => ({ lock with waiting := lock.waiting ++ [who] }, false)

/-- Hands the lock on. The answer is the new holder. -/
def release (lock : Lock τ) : Lock τ × Option (Who τ) :=
  match lock.waiting with
  | [] => (⟨none, []⟩, none)
  | next :: others => (⟨some next, others⟩, some next)

end Lock

end BenefitCasework
