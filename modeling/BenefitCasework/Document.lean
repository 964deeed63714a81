import BenefitCasework.Table

/-!
Contract: the documents a benefit demands.

Owns:
- `DocumentCheck`, whatever tells which documents are missing;
- `DocumentTable`, the documents demanded by type of benefit;
- `DocumentTable.missing`, what is demanded and not attached, in the order in
  which it is demanded.

Does not own: the documents themselves, only their types.
-/

namespace BenefitCasework

/-- The document types that are missing, for a type of benefit and the types that are
attached, each of them once and in the order of texts. -/
abbrev DocumentCheck := String → List String → List String

/-- The document types demanded, by type of benefit. -/
abbrev DocumentTable := Table String (List String)

namespace DocumentTable

def demanded (table : DocumentTable) (benefitType : String) : List String :=
  (table.get? benefitType).getD []

/-- What is demanded and not attached. -/
def missing (table : DocumentTable) (benefitType : String) (attached : List String) :
    List String :=
  (table.demanded benefitType).filter fun document => !attached.contains document

/-- Nothing is missing exactly when everything demanded is attached. -/
theorem missing_eq_nil_iff (table : DocumentTable) (benefitType : String)
    (attached : List String) :
    table.missing benefitType attached = [] ↔
      ∀ document ∈ table.demanded benefitType, document ∈ attached := by
  simp [missing]

end DocumentTable

end BenefitCasework
