import BenefitCasework.Proofs.RouteOffers

/-!
Contract: which gates make a route, and where its approval gates stand.

Owns:
- `MakeRoute`, what a list of gates has to be, said of the list alone;
- `Route.check_eq_ok_iff`, that the check accepts exactly such lists;
- `MakeRoute.shape`, at most one triage gate and then approval gates only;
- `MakeRoute.approvalGate?_eq`, an approval gate found by its place among all gates;
- what a change of a table of routes comes to, with such gates and with others.

Does not own: rows of changes.
-/

namespace BenefitCasework

/-- Gates make a route when one of them approves, each of them has a role, and a
triage gate stands nowhere but in front. -/
structure MakeRoute (gates : List Gate) : Prop where
  approves : ∃ gate ∈ gates, gate.kind = .approval
  manned : ∀ gate ∈ gates, gate.roles ≠ []
  inFront : ∀ place gate, gates[place]? = some gate → gate.kind = .triage → place = 0

namespace Route

theorem checkGates_eq_ok_iff {place : Nat} {gates : List Gate} :
    checkGates place gates = .ok () ↔
      (∀ gate ∈ gates, gate.roles ≠ []) ∧
        ∀ offset gate, gates[offset]? = some gate → gate.kind = .triage → place + offset = 0 := by
  induction gates generalizing place with
  | nil => simp [checkGates]
  | cons first rest inductionHypothesis =>
      have inRest : (∀ offset gate, (first :: rest)[offset]? = some gate →
            gate.kind = .triage → place + offset = 0) ↔
          (first.kind = .triage → place = 0) ∧
            ∀ offset gate, rest[offset]? = some gate → gate.kind = .triage →
              place + 1 + offset = 0 := by
        constructor
        · intro inFront
          refine ⟨fun triage => inFront 0 first rfl triage, fun offset gate found triage => ?_⟩
          have behind := inFront (offset + 1) gate found triage
          omega
        · rintro ⟨ahead, behind⟩ offset gate found triage
          cases offset with
          | zero =>
              cases found
              exact ahead triage
          | succ offset =>
              have later := behind offset gate found triage
              omega
      rw [inRest, List.forall_mem_cons]
      simp only [checkGates, List.isEmpty_iff]
      by_cases unmanned : first.roles = []
      · simp [unmanned]
      · rw [if_neg unmanned]
        by_cases misplaced : first.kind = .triage ∧ 0 < place
        · rw [if_pos misplaced]
          have apart : place ≠ 0 := Nat.ne_of_gt misplaced.2
          simp [misplaced.1, apart]
        · rw [if_neg misplaced, inductionHypothesis]
          have ahead : first.kind = .triage → place = 0 := fun triage =>
            Nat.eq_zero_of_not_pos fun later => misplaced ⟨triage, later⟩
          exact ⟨fun rest => ⟨⟨unmanned, rest.1⟩, ahead, rest.2⟩,
            fun all => ⟨all.1.2, all.2.2⟩⟩

/-- The check accepts exactly the gates that make a route. -/
theorem check_eq_ok_iff {route : Route} : route.check = .ok () ↔ MakeRoute route.gates := by
  have approves : route.approvalGates = [] ↔ ¬ ∃ gate ∈ route.gates, gate.kind = .approval := by
    simp [approvalGates]
  simp only [check, List.isEmpty_iff, approves]
  by_cases approval : ∃ gate ∈ route.gates, gate.kind = .approval
  · rw [if_neg (not_not_intro approval), checkGates_eq_ok_iff]
    simp only [Nat.zero_add]
    exact ⟨fun rest => ⟨approval, rest.1, rest.2⟩, fun made => ⟨made.manned, made.inFront⟩⟩
  · rw [if_pos approval]
    refine ⟨fun accepted => ?_, fun made => absurd made.approves approval⟩
    cases accepted

end Route

namespace MakeRoute

variable {gates : List Gate}

/-- Behind the first gate all gates approve. -/
theorem approval_of_mem_tail {first : Gate} {rest : List Gate} (made : MakeRoute (first :: rest))
    {gate : Gate} (behind : gate ∈ rest) : gate.kind = .approval := by
  obtain ⟨place, found⟩ := List.getElem?_of_mem behind
  cases kind : gate.kind with
  | approval => rfl
  | triage => cases made.inFront (place + 1) gate found kind

/-- A route is at most one triage gate, and then approval gates only. -/
theorem shape (made : MakeRoute gates) :
    ∃ (triage : Option Gate) (approvals : List Gate), gates = triage.toList ++ approvals ∧
      (∀ gate ∈ triage, gate.kind = .triage) ∧
      (∀ gate ∈ approvals, gate.kind = .approval) ∧ approvals ≠ [] := by
  obtain ⟨approval, member, approves⟩ := made.approves
  cases gates with
  | nil => cases member
  | cons first rest =>
      cases kind : first.kind with
      | triage =>
          refine ⟨some first, rest, rfl, ?_, fun gate => made.approval_of_mem_tail, ?_⟩
          · rintro gate ⟨⟩
            exact kind
          · -- The gate that approves is not the first one.
            rintro rfl
            rw [List.mem_singleton.mp member, kind] at approves
            cases approves
      | approval =>
          refine ⟨none, first :: rest, rfl, nofun, ?_, List.cons_ne_nil _ _⟩
          exact List.forall_mem_cons.mpr ⟨kind, fun gate => made.approval_of_mem_tail⟩

/-- The approval gates stand one behind the other, from the first or the second
place on. -/
theorem approvalGate?_eq {route : Route} (made : MakeRoute route.gates) (place : Nat) :
    route.approvalGate? place =
      if route.hasTriage then route.gates[place + 1]? else route.gates[place]? := by
  unfold Route.approvalGate? Route.approvalGates Route.hasTriage
  cases listed : route.gates with
  | nil => rfl
  | cons first rest =>
      rw [listed] at made
      have approvals : rest.filter (fun gate => gate.kind == .approval) = rest :=
        List.filter_eq_self.mpr fun gate behind => by rw [made.approval_of_mem_tail behind]; rfl
      cases kind : first.kind with
      | triage => simp [kind, approvals]
      | approval => simp [kind, approvals]

end MakeRoute

/-! ### Changes of a table -/

namespace RouteTable

variable {change : RouteChange}

/-- The route that a change puts on offer. -/
def offer (routes : RouteTable) (change : RouteChange) : Route :=
  ⟨change.benefitType, routes.nextRevision change.benefitType, change.gates, none⟩

theorem configure_of_makeRoute (routes : RouteTable) (made : MakeRoute change.gates) :
    routes.configure change.benefitType change.gates =
      .ok ((routes.offer change).revision,
        routes.set change.benefitType (routes.offer change)) := by
  have checked : (routes.offer change).check = .ok () := Route.check_eq_ok_iff.mpr made
  simp only [offer] at checked
  simp only [configure, checked, offer]

theorem configure_of_not_makeRoute (routes : RouteTable) (flawed : ¬ MakeRoute change.gates) :
    ∃ reason, routes.configure change.benefitType change.gates = .error reason := by
  cases checked : (routes.offer change).check with
  | ok _ => exact absurd (Route.check_eq_ok_iff.mp checked) flawed
  | error reason =>
      simp only [offer] at checked
      exact ⟨reason, by simp only [configure, checked]⟩

theorem changedBy_of_makeRoute (routes : RouteTable) (made : MakeRoute change.gates) :
    routes.changedBy change = routes.set change.benefitType (routes.offer change) := by
  rw [changedBy, configure_of_makeRoute routes made]

/-- A change that is refused changes nothing. -/
theorem changedBy_of_not_makeRoute (routes : RouteTable) (flawed : ¬ MakeRoute change.gates) :
    routes.changedBy change = routes := by
  obtain ⟨reason, refused⟩ := configure_of_not_makeRoute routes flawed
  rw [changedBy, refused]

/-- What is on offer for other types of benefit stays. -/
theorem get?_changedBy_of_ne (routes : RouteTable) {benefitType : String}
    (other : benefitType ≠ change.benefitType) :
    (routes.changedBy change).get? benefitType = routes.get? benefitType := by
  by_cases made : MakeRoute change.gates
  · rw [changedBy_of_makeRoute routes made, Table.get?_set_of_ne other]
  · rw [changedBy_of_not_makeRoute routes made]

theorem nextRevision_changedBy_of_ne (routes : RouteTable) {benefitType : String}
    (other : benefitType ≠ change.benefitType) :
    (routes.changedBy change).nextRevision benefitType = routes.nextRevision benefitType := by
  rw [nextRevision, get?_changedBy_of_ne routes other, nextRevision]

theorem nextRevision_changedBy_self (routes : RouteTable) (made : MakeRoute change.gates) :
    (routes.changedBy change).nextRevision change.benefitType =
      routes.nextRevision change.benefitType + 1 := by
  rw [changedBy_of_makeRoute routes made, nextRevision, Table.get?_set_self]
  rfl

end RouteTable

end BenefitCasework
