import BenefitCasework.Calendar.Date

/-!
Contract: moments in universal time, to the nanosecond.

Owns:
- `Instant`, a day, a second of the day and nanoseconds;
- leap seconds, kept as nanoseconds from one to two thousand million, in any second
  of the day;
- `Instant.ofLocal?`, the moment that a clock some minutes ahead shows.

Does not own: the text of a moment.
-/

namespace BenefitCasework

/-- The seconds of the day and the nanoseconds that exist. -/
def Instant.ValidTime (second nanosecond : Nat) : Prop :=
  second < 86400 ∧ nanosecond < 2000000000

instance (second nanosecond : Nat) : Decidable (Instant.ValidTime second nanosecond) := by
  unfold Instant.ValidTime
  infer_instance

/-- A moment in universal time. -/
structure Instant where
  date : Date
  second : Nat
  nanosecond : Nat
  valid : Instant.ValidTime second nanosecond
deriving DecidableEq

namespace Instant

/-- The moment of a day with the given second and nanosecond. -/
def ofParts? (date : Date) (second nanosecond : Nat) : Option Instant :=
  if valid : ValidTime second nanosecond then some ⟨date, second, nanosecond, valid⟩ else none

/-- The moment at which a clock that is `ahead` seconds in front of universal
time shows the given day and time. -/
def ofLocal? (date : Date) (second nanosecond : Nat) (ahead : Int) : Option Instant :=
  let shifted : Int := (second : Int) - ahead
  if shifted < 0 then
    match date.previous? with
    | some day => ofParts? day (shifted + 86400).toNat nanosecond
    | none => none
  else if 86400 ≤ shifted then
    match date.next? with
    | some day => ofParts? day (shifted - 86400).toNat nanosecond
    | none => none
  else ofParts? date shifted.toNat nanosecond

/-- The first moment of 2025, at which test clocks stand. -/
def newYear2025 : Instant := ⟨⟨2025, 1, 1, by decide⟩, 0, 0, by decide⟩

instance : Inhabited Instant := ⟨newYear2025⟩

def Before (left right : Instant) : Prop :=
  left.date.Before right.date ∨ (left.date = right.date ∧
    (left.second < right.second ∨
      (left.second = right.second ∧ left.nanosecond < right.nanosecond)))

end Instant

end BenefitCasework
