import BenefitCasework.Json.Form

/-!
Contract: the roles that people hold.

Owns:
- `Role`, the four roles in their order of precedence in lists;
- `RoleSet`, the roles one person holds, without order or repetition;
- `RoleSet.holdsAny`, whether a list names one of them.

Does not own: what a role permits, which stands with the operations.
-/

namespace BenefitCasework

/-- What a person may be in an office. -/
inductive Role where
  | admin
  | manager
  | technicalReviewer
  | unitTechnician
deriving DecidableEq, Repr, Inhabited

namespace Role

def all : List Role := [.admin, .manager, .technicalReviewer, .unitTechnician]

def name : Role → String
  | .admin => "Admin"
  | .manager => "Manager"
  | .technicalReviewer => "TechnicalReviewer"
  | .unitTechnician => "UnitTechnician"

instance : ToString Role := ⟨name⟩

instance : JsonForm Role where
  write role := .string role.name
  read? := Json.named? all name

theorem mem_all (role : Role) : role ∈ all := by
  cases role <;> decide

end Role

def rolesText (roles : List Role) : String :=
  "[" ++ ", ".intercalate (roles.map Role.name) ++ "]"

/-- The roles that one person holds. -/
structure RoleSet where
  admin : Bool
  manager : Bool
  technicalReviewer : Bool
  unitTechnician : Bool
deriving DecidableEq, Repr, Inhabited

namespace RoleSet

def empty : RoleSet := ⟨false, false, false, false⟩

def holds (roles : RoleSet) : Role → Bool
  | .admin => roles.admin
  | .manager => roles.manager
  | .technicalReviewer => roles.technicalReviewer
  | .unitTechnician => roles.unitTechnician

def insert (roles : RoleSet) : Role → RoleSet
  | .admin => { roles with admin := true }
  | .manager => { roles with manager := true }
  | .technicalReviewer => { roles with technicalReviewer := true }
  | .unitTechnician => { roles with unitTechnician := true }

def ofList (roles : List Role) : RoleSet := roles.foldl insert empty

def toList (roles : RoleSet) : List Role := Role.all.filter roles.holds

/-- A list names one of the roles. -/
def holdsAny (roles : RoleSet) (names : List Role) : Bool := names.any roles.holds

instance : JsonForm RoleSet where
  write roles := Json.of roles.toList
  read? value := (Json.read? (List Role) value).map ofList

theorem holds_insert (roles : RoleSet) (added role : Role) :
    (roles.insert added).holds role = (decide (role = added) || roles.holds role) := by
  cases added <;> cases role <;> simp [insert, holds]

theorem holds_foldl_insert (names : List Role) (roles : RoleSet) (role : Role) :
    (names.foldl insert roles).holds role = (decide (role ∈ names) || roles.holds role) := by
  induction names generalizing roles with
  | nil => simp
  | cons first rest inductionHypothesis =>
      rw [List.foldl_cons, inductionHypothesis, holds_insert]
      by_cases same : role = first <;> simp [same]

/-- A role is held exactly when the list names it. -/
theorem holds_ofList (names : List Role) (role : Role) :
    (ofList names).holds role = decide (role ∈ names) := by
  rw [ofList, holds_foldl_insert]
  cases role <;> simp [empty, holds]

/-- The list of a set names exactly the roles held. -/
theorem mem_toList {roles : RoleSet} {role : Role} :
    role ∈ roles.toList ↔ roles.holds role = true := by
  simp [toList, Role.mem_all]

end RoleSet

end BenefitCasework
