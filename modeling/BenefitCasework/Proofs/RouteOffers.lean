import BenefitCasework.Route
import Mathlib.Data.List.Induction

/-!
Contract: route tables as they come about.

Owns:
- `RouteTable.configured`, the table after a row of changes, of which the
  refused ones change nothing;
- `check_of_configured`, every route on offer has passed the check.

Does not own: the routes that requests have copied.
-/

namespace BenefitCasework

/-- A benefit type with the gates that it is to have. -/
structure RouteChange where
  benefitType : String
  gates : List Gate

namespace RouteTable

/-- The table after a change, if the change is accepted. -/
def changedBy (routes : RouteTable) (change : RouteChange) : RouteTable :=
  match routes.configure change.benefitType change.gates with
  | .ok (_, changed) => changed
  | .error _ => routes

/-- The table after a row of changes, from the empty one. -/
def configured (changes : List RouteChange) : RouteTable := changes.foldl changedBy []

theorem configured_append_singleton (changes : List RouteChange) (last : RouteChange) :
    configured (changes ++ [last]) = (configured changes).changedBy last := by
  simp [configured]

/-- A change is refused, or it puts a route that passes the check. -/
theorem changedBy_cases (routes : RouteTable) (change : RouteChange) :
    routes.changedBy change = routes ∨
      ∃ route : Route, route.check = .ok () ∧
        routes.changedBy change = routes.set change.benefitType route := by
  let route : Route :=
    ⟨change.benefitType, routes.nextRevision change.benefitType, change.gates, none⟩
  unfold changedBy configure
  cases checked : route.check with
  | error reason =>
      left
      simp only [route] at checked
      simp only [checked]
  | ok _ =>
      right
      refine ⟨route, checked, ?_⟩
      simp only [route] at checked
      simp only [checked, route]

/-- Every route on offer has passed the check. -/
theorem check_of_configured {changes : List RouteChange} {benefitType : String} {route : Route}
    (offered : (configured changes).get? benefitType = some route) : route.check = .ok () := by
  induction changes using List.reverseRecOn with
  | nil => cases offered
  | append_singleton changes last inductionHypothesis =>
      rw [configured_append_singleton] at offered
      rcases changedBy_cases (configured changes) last with same | ⟨put, checked, set⟩
      · rw [same] at offered
        exact inductionHypothesis offered
      · rw [set] at offered
        by_cases changed : benefitType = last.benefitType
        · rw [changed, Table.get?_set_self] at offered
          cases offered
          exact checked
        · rw [Table.get?_set_of_ne changed] at offered
          exact inductionHypothesis offered

end RouteTable

/-- A route that passes the check has an approval gate. -/
theorem Route.approvalGates_ne_nil {route : Route} (checked : route.check = .ok ()) :
    route.approvalGates ≠ [] := by
  intro none
  simp [check, none] at checked

end BenefitCasework
