import BenefitCasework.Calendar.Written
import BenefitCasework.Identifier

/-!
Contract: the people a request is about.

Owns:
- `Beneficiary`, who receives the benefit, and when that person is a minor;
- `Kinship` and `Requester`, who asks for it;
- `checkRepresentation`, whether a requester may speak for a beneficiary, and
  `Misrepresentation`, the reason why not.

Does not own: users of the office, who are actors.
-/

namespace BenefitCasework

/-- How a requester is related to a beneficiary. -/
inductive Kinship where
  | mother
  | father
  | legalGuardian
  | grandparent
  | sibling
  | other
deriving DecidableEq, Repr, Inhabited

namespace Kinship

def all : List Kinship := [.mother, .father, .legalGuardian, .grandparent, .sibling, .other]

def name : Kinship → String
  | .mother => "Mother"
  | .father => "Father"
  | .legalGuardian => "LegalGuardian"
  | .grandparent => "Grandparent"
  | .sibling => "Sibling"
  | .other => "Other"

def isFirstDegree : Kinship → Bool
  | .mother => true
  | .father => true
  | .legalGuardian => true
  | _ => false

instance : JsonForm Kinship where
  write kinship := .string kinship.name
  read? := Json.named? all name

end Kinship

/-- Who receives the benefit. -/
structure Beneficiary where
  citizen : Identifier
  name : String
  birthDate : Date
deriving DecidableEq

def ageOfMajority : Nat := 18

namespace Beneficiary

/-- A person is a minor until the birthday in question, and before birth. -/
def isMinorAt (beneficiary : Beneficiary) (moment : Instant) : Bool :=
  match moment.date.wholeYearsSince? beneficiary.birthDate with
  | some age => age < ageOfMajority
  | none => true

instance : JsonForm Beneficiary where
  write beneficiary := .object [("citizen_id", Json.of beneficiary.citizen),
    ("name", Json.of beneficiary.name), ("birth_date", Json.of beneficiary.birthDate)]
  read? value := do
    match ← Json.slots? ["citizen_id", "name", "birth_date"] value with
    | [citizen, name, birthDate] =>
        return ⟨← Json.required citizen, ← Json.required name, ← Json.required birthDate⟩
    | _ => none

end Beneficiary

/-- Who asks for the benefit. -/
structure Requester where
  citizen : Identifier
  kinship : Option Kinship
deriving DecidableEq, Repr

instance : JsonForm Requester where
  write requester := .object [("citizen_id", Json.of requester.citizen),
    ("kinship", Json.of requester.kinship)]
  read? value := do
    match ← Json.slots? ["citizen_id", "kinship"] value with
    | [citizen, kinship] => return ⟨← Json.required citizen, ← Json.optional kinship⟩
    | _ => none

/-- Why a requester may not speak for a beneficiary. -/
inductive Misrepresentation where
  | ownMinor
  | distantKin (kinship : Kinship)
  | unknownKin
deriving DecidableEq, Repr

namespace Misrepresentation

def message : Misrepresentation → String
  | .ownMinor => "a minor beneficiary must be represented by a legal representative"
  | .distantKin kinship => kinship.name ++ " is not a first-degree legal representative"
  | .unknownKin => "no kinship recorded for the requester of a minor"

end Misrepresentation

/-- A minor needs a different person of first-degree kinship as requester. -/
def checkRepresentation (beneficiary : Beneficiary) (requester : Requester) (moment : Instant) :
    Except Misrepresentation Unit :=
  if beneficiary.isMinorAt moment then
    if requester.citizen = beneficiary.citizen then .error .ownMinor
    else match requester.kinship with
      | some kinship => if kinship.isFirstDegree then .ok () else .error (.distantKin kinship)
      | none => .error .unknownKin
  else .ok ()

/-- A person is a minor exactly when the calendar day of the moment comes
before the birth date eighteen years on. -/
theorem Beneficiary.isMinorAt_iff (beneficiary : Beneficiary) (moment : Instant) :
    beneficiary.isMinorAt moment = true ↔
      Date.PartsBefore moment.date.parts
        (beneficiary.birthDate.year + ageOfMajority, beneficiary.birthDate.month,
          beneficiary.birthDate.day) := by
  have majority : ageOfMajority = 18 := rfl
  have dayBound := moment.date.day_lt
  have birthBound := beneficiary.birthDate.day_lt
  have counted (full : Int) (computed : moment.date.wholeYearsSince? beneficiary.birthDate =
      if 0 ≤ full then some full.toNat else none) :
      beneficiary.isMinorAt moment = true ↔ full < 18 := by
    unfold Beneficiary.isMinorAt
    rw [computed]
    by_cases nonnegative : 0 ≤ full
    · rw [if_pos nonnegative]
      simp only [decide_eq_true_eq, majority]
      omega
    · rw [if_neg nonnegative]
      simp only [true_iff]
      omega
  unfold Date.PartsBefore Date.parts
  by_cases earlier : moment.date.month * 32 + moment.date.day <
      beneficiary.birthDate.month * 32 + beneficiary.birthDate.day
  · rw [counted (moment.date.year - beneficiary.birthDate.year - 1)
      (by simp only [Date.wholeYearsSince?, earlier, if_true])]
    simp only [majority]
    omega
  · rw [counted (moment.date.year - beneficiary.birthDate.year)
      (by simp only [Date.wholeYearsSince?, earlier, if_false])]
    simp only [majority]
    omega

end BenefitCasework
