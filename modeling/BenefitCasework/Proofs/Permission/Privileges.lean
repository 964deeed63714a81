import BenefitCasework.Proofs.Permission.Demands
import BenefitCasework.Proofs.Request.Run

/-!
Contract: what a role more changes in a decision.

Owns:
- `Actor.granted`, a person with a role more, and `Actor.Covers`, a person with
  at least the roles of another;
- what the roles are good for that a denial lists: each of them meets the demand
  that was unmet, but behind the table the gate may still make another;
- `Permission.layer`, how far a decision got, and that more roles never set it
  back.

Does not own: what becomes of a request that is denied.
-/

namespace BenefitCasework

/-- The same person with a role more. -/
def Actor.granted (actor : Actor) (role : Role) : Actor :=
  { actor with roles := actor.roles.insert role }

/-- The same person, with at least the roles held here. -/
structure Actor.Covers (more fewer : Actor) : Prop where
  samePerson : more.user = fewer.user
  roles : ∀ role, fewer.holds role = true → more.holds role = true

namespace Actor

variable {actor : Actor} {names : List Role}

theorem holds_granted (actor : Actor) (added role : Role) :
    (actor.granted added).holds role = (decide (role = added) || actor.holds role) :=
  RoleSet.holds_insert actor.roles added role

theorem covers_granted (actor : Actor) (added : Role) : (actor.granted added).Covers actor where
  samePerson := rfl
  roles := fun role held => by rw [holds_granted, held, Bool.or_true]

theorem holdsAny_granted_of_mem {role : Role} (listed : role ∈ names) :
    (actor.granted role).holdsAny names = true :=
  holdsAny_iff.mpr ⟨role, listed, by rw [holds_granted, decide_eq_true rfl, Bool.true_or]⟩

theorem Covers.holdsAny {more fewer : Actor} (covers : more.Covers fewer)
    (met : fewer.holdsAny names = true) : more.holdsAny names = true := by
  obtain ⟨role, listed, held⟩ := holdsAny_iff.mp met
  exact holdsAny_iff.mpr ⟨role, listed, covers.roles role held⟩

end Actor

/-! ### A role more -/

namespace Permission

variable {status : Status} {operation : Operation} {actor : Actor} {request : Request}

/-- Whoever is given a role of the demand that was unmet meets the first one. -/
theorem holdsAny_granted_of_unmet {first demand : List Role} {behind : List (List Role)}
    (demands : operation.demands actor.user request = first :: behind)
    (unmet : unmet? operation actor request = some demand) {role : Role} (listed : role ∈ demand) :
    (actor.granted role).holdsAny first = true := by
  rw [unmet?, demands, List.find?_cons] at unmet
  cases held : actor.holdsAny first with
  | true => exact (actor.covers_granted role).holdsAny held
  | false =>
      rw [held] at unmet
      cases unmet
      exact Actor.holdsAny_granted_of_mem listed

/-- A role that a denial lists is enough but for the gate behind the table. -/
theorem deniedForRoles_granted_iff {demand : List Role} (allowed : status ∈ operation.allowedFrom)
    (unmet : unmet? operation actor request = some demand) {role : Role} (listed : role ∈ demand) :
    DeniedForRoles status operation (actor.granted role) request ↔
      operation = .approve ∧ ∃ gate, request.currentGate? = some gate ∧
        (actor.granted role).holdsAny (gate.roles ++ [.admin]) = false := by
  have sameDemands : operation.demands (actor.granted role).user request =
      operation.demands actor.user request := rfl
  obtain ⟨none, -⟩ | ⟨behind, demands, behindIff⟩ := operation.demands_cases actor.user request
  · rw [unmet?, none] at unmet
    cases unmet
  · have first := holdsAny_granted_of_unmet demands unmet listed
    rw [deniedForRoles_iff, sameDemands, demands]
    constructor
    · rintro ⟨-, later, member, lacking⟩
      rcases List.mem_cons.mp member with rfl | later
      · rw [first] at lacking
        cases lacking
      · obtain ⟨isApprove, gate, waited, rfl⟩ := (behindIff _).mp later
        exact ⟨isApprove, gate, waited, lacking⟩
    · rintro ⟨isApprove, gate, waited, lacking⟩
      have later := (behindIff _).mpr ⟨isApprove, gate, waited, rfl⟩
      exact ⟨allowed, _, List.mem_cons_of_mem _ later, lacking⟩

/-- Opening asks for any role at all. -/
theorem toOpen_eq_roleNotPermitted_iff {name : OperationName} {required : List Role} :
    toOpen actor = .error (.roleNotPermitted name required) ↔
      actor.holdsAny Role.all = false ∧ name = .create ∧ required = Role.all := by
  unfold toOpen
  cases actor.holdsAny Role.all <;> simp [eq_comm]

end Permission

/-- Whoever is denied for the roles held holds none of those that the denial
lists, an admin is always among them, and whoever is given one of them is denied
for roles no more: but for an approval, where the list may be that of the table
and the gate that is waited for asks for other roles still. In opening a request
there is no such exception. -/
theorem listed_roles_meet_the_first_unmet_demand (status : Status) (operation : Operation)
    (actor : Actor) (request : Request) :
    (∀ name required, Permission.decide status operation actor request =
          .error (.roleNotPermitted name required) →
        name = operation.name ∧ .admin ∈ required ∧
        (∀ role ∈ required, actor.holds role = false) ∧
        ∀ role ∈ required,
          Permission.DeniedForRoles status operation (actor.granted role) request ↔
            operation = .approve ∧ ∃ gate, request.currentGate? = some gate ∧
              (actor.granted role).holdsAny (gate.roles ++ [.admin]) = false) ∧
      ∀ name required, Permission.toOpen actor = .error (.roleNotPermitted name required) →
        name = .create ∧ .admin ∈ required ∧
        (∀ role ∈ required, actor.holds role = false) ∧
        ∀ role ∈ required, Permission.toOpen (actor.granted role) = .ok () := by
  refine ⟨fun name required denied => ?_, fun name required denied => ?_⟩
  · obtain ⟨allowed, sameName, unmet⟩ := Permission.decide_eq_roleNotPermitted_iff.mp denied
    have demanded := List.mem_of_find?_eq_some unmet
    have lacking : actor.holdsAny required = false := by simpa using List.find?_some unmet
    exact ⟨sameName, Operation.admin_mem_of_mem_demands demanded,
      Actor.holdsAny_eq_false_iff.mp lacking,
      fun role listed => Permission.deniedForRoles_granted_iff allowed unmet listed⟩
  · obtain ⟨lacking, sameName, rfl⟩ := Permission.toOpen_eq_roleNotPermitted_iff.mp denied
    refine ⟨sameName, Role.mem_all .admin, Actor.holdsAny_eq_false_iff.mp lacking, ?_⟩
    intro role listed
    rw [Permission.toOpen, if_pos (Actor.holdsAny_granted_of_mem listed)]

namespace Sample

/-- A technician of the unit. -/
def technician : Actor := ⟨.numbered 8, .ofList [.unitTechnician], .numbered 2⟩

/-- The request handed in. It waits for a reviewer. -/
def handedIn : Request := opened.after [attempt .submit 10]

end Sample

/-- A technician is told that a manager may approve, and as a manager is told that
only a reviewer may. -/
theorem listed_manager_is_turned_away :
    Permission.decide Sample.handedIn.status .approve Sample.technician Sample.handedIn =
        .error (.roleNotPermitted .approve [.manager, .technicalReviewer, .admin]) ∧
      Permission.decide Sample.handedIn.status .approve (Sample.technician.granted .manager)
          Sample.handedIn =
        .error (.roleNotPermitted .approve [.technicalReviewer, .admin]) := by
  decide +kernel

/-- Of the roles that the technician is told, the reviewer's is enough. -/
theorem listed_reviewer_is_let_through :
    let denial : Denial := .roleNotPermitted .approve [.manager, .technicalReviewer, .admin]
    Permission.decide Sample.handedIn.status .approve Sample.technician Sample.handedIn =
        .error denial ∧
      Sample.technician.holds .technicalReviewer = false ∧
      ¬ Permission.DeniedForRoles Sample.handedIn.status .approve
        (Sample.technician.granted .technicalReviewer) Sample.handedIn := by
  intro denial
  have denied : Permission.decide Sample.handedIn.status .approve Sample.technician
      Sample.handedIn = .error denial := by decide +kernel
  obtain ⟨-, -, lacking, deniedIff⟩ := (listed_roles_meet_the_first_unmet_demand
    Sample.handedIn.status .approve Sample.technician Sample.handedIn).1 _ _ denied
  refine ⟨denied, lacking _ (by decide), ?_⟩
  rw [deniedIff _ (by decide)]
  rintro ⟨-, gate, waited, stillLacking⟩
  have review : Sample.handedIn.currentGate? =
      some ⟨"review", .approval, [.technicalReviewer]⟩ := by decide +kernel
  rw [review] at waited
  cases waited
  revert stillLacking
  decide

/-! ### More roles -/

namespace Permission

variable {status : Status} {operation : Operation} {actor : Actor} {request : Request}

/-- How far a decision got: to the table of statuses, to the roles, to the rule, or
through. -/
def layer : Except Denial Unit → Nat
  | .error (.invalidTransition _ _) => 0
  | .error (.roleNotPermitted _ _) => 1
  | .error (.ruleViolated _) => 2
  | .ok () => 3

/-- Who holds more meets all demands that the other one meets. -/
theorem unmet?_eq_none_of_covers {more fewer : Actor} (covers : more.Covers fewer)
    (met : unmet? operation fewer request = none) : unmet? operation more request = none := by
  rw [unmet?_eq_none_iff] at met ⊢
  intro demand member
  rw [covers.samePerson] at member
  exact covers.holdsAny (met demand member)

/-- The rule is the same for everybody whose roles are in order. -/
theorem decide_of_met (allowed : status ∈ operation.allowedFrom)
    (met : unmet? operation actor request = none) :
    decide status operation actor request =
      (checkRule operation request).mapError .ruleViolated := by
  rw [decide_eq, if_pos allowed, met]

theorem decide_of_unmet {demand : List Role} (allowed : status ∈ operation.allowedFrom)
    (unmet : unmet? operation actor request = some demand) :
    decide status operation actor request = .error (.roleNotPermitted operation.name demand) := by
  rw [decide_eq, if_pos allowed, unmet]

theorem decide_of_not_allowed (notAllowed : status ∉ operation.allowedFrom) :
    decide status operation actor request =
      .error (.invalidTransition status operation.name) := by
  rw [decide_eq, if_neg notAllowed]

/-- More roles give the same decision, or get over a lack of roles. -/
theorem decide_of_covers (status : Status) (operation : Operation) (request : Request)
    {more fewer : Actor} (covers : more.Covers fewer) :
    decide status operation more request = decide status operation fewer request ∨
      ∃ required,
        decide status operation fewer request =
          .error (.roleNotPermitted operation.name required) ∧
        1 ≤ layer (decide status operation more request) := by
  by_cases allowed : status ∈ operation.allowedFrom
  · cases unmet : unmet? operation fewer request with
    | none =>
        left
        rw [decide_of_met allowed unmet,
          decide_of_met allowed (unmet?_eq_none_of_covers covers unmet)]
    | some demand =>
        right
        refine ⟨demand, decide_of_unmet allowed unmet, ?_⟩
        cases later : unmet? operation more request with
        | some other =>
            rw [decide_of_unmet allowed later]
            exact Nat.le_refl 1
        | none =>
            rw [decide_of_met allowed later]
            cases checkRule operation request with
            | error broken => exact (show 1 ≤ 2 by decide)
            | ok _ => exact (show 1 ≤ 3 by decide)
  · left
    rw [decide_of_not_allowed allowed, decide_of_not_allowed allowed]

end Permission

/-- Roles never take a right away. Whoever has at least the roles of somebody who
is allowed an operation is allowed it too, and where both are denied, the one with
more roles is denied no earlier: a status that does not fit is the same for both,
and a rule that the first one breaks is broken by the second. Between people whose
roles are in order the decision makes no difference. -/
theorem more_roles_take_no_right_away (status : Status) (operation : Operation)
    (request : Request) {fewer more : Actor} (covers : more.Covers fewer) :
    let first := Permission.decide status operation fewer request
    let second := Permission.decide status operation more request
    (first = .ok () → second = .ok ()) ∧
      Permission.layer first ≤ Permission.layer second ∧
      (∀ source name, first = .error (.invalidTransition source name) ↔
        second = .error (.invalidTransition source name)) ∧
      (∀ rule, first = .error (.ruleViolated rule) → second = .error (.ruleViolated rule)) ∧
      ∀ one other : Actor, Permission.checkRole operation one request = .ok () →
        Permission.checkRole operation other request = .ok () →
        Permission.decide status operation one request =
          Permission.decide status operation other request := by
  intro first second
  have sameDecision (one other : Actor)
      (onePasses : Permission.checkRole operation one request = .ok ())
      (otherPasses : Permission.checkRole operation other request = .ok ()) :
      Permission.decide status operation one request =
        Permission.decide status operation other request := by
    rw [Permission.decide_eq, Permission.decide_eq, Permission.checkRole_eq_ok_iff.mp onePasses,
      Permission.checkRole_eq_ok_iff.mp otherPasses]
  obtain same | ⟨required, denied, further⟩ :=
    Permission.decide_of_covers status operation request covers
  · have same : second = first := same
    rw [same]
    exact ⟨id, Nat.le_refl _, fun _ _ => Iff.rfl, fun _ => id, sameDecision⟩
  · have denied : first = .error (.roleNotPermitted operation.name required) := denied
    have further : 1 ≤ Permission.layer second := further
    rw [denied]
    refine ⟨nofun, further, fun source name => ⟨nofun, ?_⟩, nofun, sameDecision⟩
    intro second
    rw [second] at further
    cases further

namespace Sample

/-- The request with an opinion on it. -/
def reviewed : Request := handedIn.after [attempt (.recordOpinion "plausible") 12]

end Sample

/-- A reviewer may open the gate of the reviewers, and so may a reviewer who is a
manager besides. -/
theorem reviewing_manager_may_approve :
    let reviewer := Sample.technician.granted .technicalReviewer
    (reviewer.granted .manager).Covers reviewer ∧
      Permission.decide Sample.reviewed.status .approve reviewer Sample.reviewed = .ok () ∧
      Permission.decide Sample.reviewed.status .approve (reviewer.granted .manager)
        Sample.reviewed = .ok () := by
  intro reviewer
  have covers := reviewer.covers_granted .manager
  have allowed : Permission.decide Sample.reviewed.status .approve reviewer Sample.reviewed =
      .ok () := by decide +kernel
  exact ⟨covers, allowed,
    (more_roles_take_no_right_away _ .approve Sample.reviewed covers).1 allowed⟩

end BenefitCasework
