import BenefitCasework.Request.Permission

/-!
Contract: what the layer of roles demands, and what a denial tells of it.

Owns:
- `Operation.demands`, the lists of roles of each of which an actor must hold
  one, in the order in which they are asked for;
- `Permission.unmet?`, the first list of which the actor holds none;
- `decide_eq`, the decision on an operation in terms of them, and
  `decide_of_onlyTable` for the operations of which the table alone demands
  something;
- `decide_eq_ok_iff`, when permission is given; `decide_eq_roleNotPermitted_iff`
  and `DeniedForRoles`, when roles are what is missing.

An approval makes two demands, one by the table and one by the gate, and a
denial tells of the first that is unmet. Does not own: the rules on what an
operation brings along.
-/

namespace BenefitCasework

namespace Actor

variable {actor : Actor} {names : List Role}

theorem holdsAny_iff : actor.holdsAny names = true ↔ ∃ role ∈ names, actor.holds role = true := by
  simp [holdsAny, RoleSet.holdsAny, holds]

theorem holdsAny_eq_false_iff :
    actor.holdsAny names = false ↔ ∀ role ∈ names, actor.holds role = false := by
  simp [holdsAny, RoleSet.holdsAny, holds]

theorem holdsAny_append (more : List Role) :
    actor.holdsAny (names ++ more) = (actor.holdsAny names || actor.holdsAny more) :=
  List.any_append

theorem holdsAny_singleton (role : Role) : actor.holdsAny [role] = actor.holds role := by
  simp [holdsAny, RoleSet.holdsAny, holds]

end Actor

/-- The lists of roles of each of which a person must hold one. The creator of a
request may cancel it without any, and an admin passes every gate. -/
def Operation.demands (operation : Operation) (user : Identifier) (request : Request) :
    List (List Role) :=
  match operation with
  | .cancel _ => if user = request.createdBy then [] else [operation.permittedRoles]
  | .approve =>
      operation.permittedRoles ::
        request.currentGate?.toList.map fun gate => gate.roles ++ [.admin]
  | _ => [operation.permittedRoles]

theorem Operation.admin_mem_permittedRoles (operation : Operation) :
    .admin ∈ operation.permittedRoles := by
  cases operation <;> simp [permittedRoles]

/-- The table makes the first demand, except of creators who cancel, and only the
gate makes one behind it. -/
theorem Operation.demands_cases (operation : Operation) (user : Identifier) (request : Request) :
    (operation.demands user request = [] ∧ operation.name = .cancel ∧ user = request.createdBy) ∨
      ∃ behind, operation.demands user request = operation.permittedRoles :: behind ∧
        ∀ later, later ∈ behind ↔
          operation = .approve ∧
            ∃ gate, request.currentGate? = some gate ∧ later = gate.roles ++ [.admin] := by
  cases operation with
  | cancel reason =>
      simp only [demands]
      split
      · rename_i creator
        exact .inl ⟨rfl, rfl, creator⟩
      · exact .inr ⟨[], rfl, by simp⟩
  | approve =>
      refine .inr ⟨_, rfl, fun later => ?_⟩
      simp only [List.mem_map, Option.mem_toList, true_and]
      constructor
      · rintro ⟨gate, waited, rfl⟩
        exact ⟨gate, waited, rfl⟩
      · rintro ⟨gate, waited, rfl⟩
        exact ⟨gate, waited, rfl⟩
  | _ => exact .inr ⟨[], rfl, by simp⟩

/-- An admin meets every demand. -/
theorem Operation.admin_mem_of_mem_demands {operation : Operation} {user : Identifier}
    {request : Request} {demand : List Role} (member : demand ∈ operation.demands user request) :
    .admin ∈ demand := by
  obtain ⟨none, -⟩ | ⟨behind, demands, behindIff⟩ := operation.demands_cases user request
  · rw [none] at member
    cases member
  · rw [demands] at member
    rcases List.mem_cons.mp member with rfl | later
    · exact operation.admin_mem_permittedRoles
    · obtain ⟨-, gate, -, rfl⟩ := (behindIff demand).mp later
      exact List.mem_append_right _ List.mem_cons_self

namespace Permission

variable {status : Status} {operation : Operation} {actor : Actor} {request : Request}

/-- The first demand that an actor does not meet. -/
def unmet? (operation : Operation) (actor : Actor) (request : Request) : Option (List Role) :=
  (operation.demands actor.user request).find? fun demand => !actor.holdsAny demand

theorem unmet?_eq_none_iff : unmet? operation actor request = none ↔
    ∀ demand ∈ operation.demands actor.user request, actor.holdsAny demand = true := by
  simp [unmet?]

theorem checkAnyRole_eq (required : List Role) :
    checkAnyRole operation required actor =
      match [required].find? fun demand => !actor.holdsAny demand with
      | some demand => .error (.roleNotPermitted operation.name demand)
      | none => .ok () := by
  rw [checkAnyRole, List.find?_singleton]
  cases actor.holdsAny required <;> rfl

/-- The layer of roles tells of the first demand that is unmet. -/
theorem checkRole_eq : checkRole operation actor request =
    match unmet? operation actor request with
    | some demand => .error (.roleNotPermitted operation.name demand)
    | none => .ok () := by
  cases operation with
  | cancel reason =>
      simp only [checkRole, unmet?, Operation.demands]
      by_cases creator : actor.user = request.createdBy
      · rw [if_pos creator, if_pos creator]
        rfl
      · rw [if_neg creator, if_neg creator]
        exact checkAnyRole_eq _
  | approve =>
      simp only [checkRole, unmet?, Operation.demands, checkAnyRole, List.find?_cons]
      cases actor.holdsAny Operation.approve.permittedRoles with
      | false => rfl
      | true =>
          cases request.currentGate? with
          | none =>
              simp only [checkGateRole, if_true, ite_self, Option.toList_none, List.map_nil,
                List.find?_nil, Bool.not_true]
          | some gate =>
              simp only [checkGateRole, if_true, Option.toList_some, List.map_cons, List.map_nil,
                List.find?_cons, List.find?_nil, Bool.not_true, Actor.holdsAny_append,
                Actor.holdsAny_singleton]
              cases actor.holds .admin <;> cases actor.holdsAny gate.roles <;> rfl
  | _ => exact checkAnyRole_eq _

theorem checkRole_eq_ok_iff :
    checkRole operation actor request = .ok () ↔ unmet? operation actor request = none := by
  rw [checkRole_eq]
  cases unmet? operation actor request <;> simp

/-- Whoever passes the layer of roles holds a role of the table, or cancels a request
of their own. -/
theorem entitled_of_checkRole (checked : checkRole operation actor request = .ok ()) :
    actor.holdsAny operation.permittedRoles = true ∨
      operation.name = .cancel ∧ actor.user = request.createdBy := by
  have met := unmet?_eq_none_iff.mp (checkRole_eq_ok_iff.mp checked)
  obtain ⟨-, creator⟩ | ⟨behind, demands, -⟩ := operation.demands_cases actor.user request
  · exact .inr creator
  · rw [demands] at met
    exact .inl (met _ List.mem_cons_self)

/-- The status is looked at first, then the demands in their order, then the rule. -/
theorem decide_eq : decide status operation actor request =
    if status ∈ operation.allowedFrom then
      match unmet? operation actor request with
      | some demand => .error (.roleNotPermitted operation.name demand)
      | none => (checkRule operation request).mapError .ruleViolated
    else .error (.invalidTransition status operation.name) := by
  unfold decide checkStatus
  by_cases allowed : status ∈ operation.allowedFrom
  · rw [if_pos allowed, if_pos allowed, checkRole_eq]
    cases unmet? operation actor request with
    | some demand => rfl
    | none => cases checkRule operation request <;> rfl
  · rw [if_neg allowed, if_neg allowed]

/-- Permission is given when each of the three layers gives it. -/
theorem decide_eq_ok_iff :
    decide status operation actor request = .ok () ↔
      status ∈ operation.allowedFrom ∧ checkRole operation actor request = .ok () ∧
        checkRule operation request = .ok () := by
  unfold decide checkStatus
  by_cases allowed : status ∈ operation.allowedFrom
  · rw [if_pos allowed]
    cases checkRole operation actor request with
    | error denial => simp
    | ok _ =>
        cases checkRule operation request with
        | error rule => simp
        | ok _ => simp [allowed]
  · rw [if_neg allowed]
    simp [allowed]

section OnlyTable

/-- Where the table makes the only demand, its roles stand for the whole layer. -/
theorem unmet?_of_onlyTable
    (onlyTable : operation.demands actor.user request = [operation.permittedRoles]) :
    unmet? operation actor request =
      if actor.holdsAny operation.permittedRoles then none else some operation.permittedRoles := by
  rw [unmet?, onlyTable, List.find?_singleton]
  cases actor.holdsAny operation.permittedRoles <;> rfl

theorem decide_of_onlyTable
    (onlyTable : operation.demands actor.user request = [operation.permittedRoles])
    (allowed : status ∈ operation.allowedFrom) :
    decide status operation actor request =
      if actor.holdsAny operation.permittedRoles then
        (checkRule operation request).mapError .ruleViolated
      else .error (.roleNotPermitted operation.name operation.permittedRoles) := by
  rw [decide_eq, if_pos allowed, unmet?_of_onlyTable onlyTable]
  cases actor.holdsAny operation.permittedRoles <;> rfl

theorem decide_eq_ok_iff_of_onlyTable
    (onlyTable : operation.demands actor.user request = [operation.permittedRoles]) :
    decide status operation actor request = .ok () ↔
      status ∈ operation.allowedFrom ∧ actor.holdsAny operation.permittedRoles = true ∧
        checkRule operation request = .ok () := by
  rw [decide_eq_ok_iff, checkRole_eq_ok_iff, unmet?_of_onlyTable onlyTable]
  simp

end OnlyTable

/-- Permission is denied for a person's roles. -/
def DeniedForRoles (status : Status) (operation : Operation) (actor : Actor) (request : Request) :
    Prop :=
  ∃ name required, decide status operation actor request = .error (.roleNotPermitted name required)

theorem decide_eq_roleNotPermitted_iff {name : OperationName} {required : List Role} :
    decide status operation actor request = .error (.roleNotPermitted name required) ↔
      status ∈ operation.allowedFrom ∧ name = operation.name ∧
        unmet? operation actor request = some required := by
  rw [decide_eq]
  by_cases allowed : status ∈ operation.allowedFrom
  · rw [if_pos allowed]
    cases unmet? operation actor request with
    | some demand => simp [allowed, eq_comm]
    | none =>
        refine ⟨fun denied => ?_, nofun⟩
        cases rule : checkRule operation request <;>
          · rw [rule] at denied
            cases denied
  · simp [allowed]

theorem deniedForRoles_iff : DeniedForRoles status operation actor request ↔
    status ∈ operation.allowedFrom ∧
      ∃ demand ∈ operation.demands actor.user request, actor.holdsAny demand = false := by
  have unmetIff : (unmet? operation actor request).isSome = true ↔
      ∃ demand ∈ operation.demands actor.user request, actor.holdsAny demand = false := by
    simp [unmet?]
  rw [← unmetIff, Option.isSome_iff_exists]
  simp only [DeniedForRoles, decide_eq_roleNotPermitted_iff]
  constructor
  · rintro ⟨name, required, allowed, -, unmet⟩
    exact ⟨allowed, required, unmet⟩
  · rintro ⟨allowed, required, unmet⟩
    exact ⟨operation.name, required, allowed, rfl, unmet⟩

end Permission

end BenefitCasework
