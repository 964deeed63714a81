import BenefitCasework.Proofs.Pendencies
import BenefitCasework.Proofs.Request.Run

/-!
Contract: what may stand against an operation, and that a refusal changes
nothing.

Owns:
- `Request.Hindrance`, what stands against an operation that is permitted, with
  the refusal that it causes;
- `checkOffice_eq_error_iff`, which says that nothing else does;
- `refusals_leave_the_request`.

It is about every request, whether or not a run leads to it. Does not own: who
is permitted.
-/

namespace BenefitCasework

namespace Request

/-- What documents, pendencies and payment channels have against an operation,
and the refusal for it. All other operations meet nothing of this kind. -/
inductive Hindrance (request : Request) (call : Call) (office : Office) :
    Operation → RequestError → Prop where
  | documentsMissing (incomplete :
        office.missing request.benefitType request.attachedTypes ≠ []) :
      Hindrance request call office .submit (.missingDocuments
        (office.missing request.benefitType request.attachedTypes))
  | misrepresented {reason : Misrepresentation}
      (complete : office.missing request.benefitType request.attachedTypes = [])
      (unfit : checkRepresentation request.beneficiary request.requester call.moment =
        .error reason) :
      Hindrance request call office .submit (.invalidRepresentative reason.message)
  | itemUnknown {pendency : Identifier} {note : String}
      (absent : request.pendencies.get? pendency = none) :
      Hindrance request call office (.resolvePendency pendency note) (.pendencyNotFound pendency)
  | itemClosed {pendency : Identifier} {note : String} {item : Pendency}
      (found : request.pendencies.get? pendency = some item) (closed : item.isOpen = false) :
      Hindrance request call office (.resolvePendency pendency note)
        (.pendencyAlreadyResolved pendency)
  | channelUnknown {payment : Payment}
      (absent : office.channels.get? request.beneficiary.citizen = none) :
      Hindrance request call office (.release payment)
        (.paymentInfoMissing request.beneficiary.citizen)

variable {request : Request} {operation : Operation} {call : Call} {office : Office}
  {fresh : Nat → Identifier} {reason : RequestError}

theorem checkComplete_eq_error_iff :
    request.checkComplete call office.missing = .error reason ↔
      request.Hindrance call office .submit reason := by
  unfold checkComplete
  constructor
  · intro refused
    split at refused
    · rename_i complete
      split at refused
      · cases refused
      · rename_i unfit
        cases refused
        exact .misrepresented complete unfit
    · rename_i incomplete
      cases refused
      exact .documentsMissing incomplete
  · intro hindered
    cases hindered with
    | documentsMissing incomplete =>
        split
        · rename_i complete
          exact absurd complete incomplete
        · rfl
    | misrepresented complete unfit => simp only [complete, unfit]

/-- Only a hindrance stands against what is permitted. -/
theorem checkOffice_eq_error_iff :
    request.checkOffice operation call office = .error reason ↔
      request.Hindrance call office operation reason := by
  cases operation with
  | submit => exact checkComplete_eq_error_iff
  | resolvePendency pendency note =>
      simp only [checkOffice]
      constructor
      · intro refused
        split at refused
        · cases refused
        · rename_i id unresolved
          cases refused
          obtain ⟨absent, same⟩ | ⟨item, -, -, other⟩ :=
            PendencyLog.resolve_eq_error_iff.mp unresolved
          · cases same
            exact .itemUnknown absent
          · cases other
        · rename_i id unresolved
          cases refused
          obtain ⟨-, other⟩ | ⟨item, found, closed, same⟩ :=
            PendencyLog.resolve_eq_error_iff.mp unresolved
          · cases other
          · cases same
            exact .itemClosed found closed
      · intro hindered
        cases hindered with
        | itemUnknown absent =>
            rw [PendencyLog.resolve_eq_error_iff.mpr (.inl ⟨absent, rfl⟩)]
        | itemClosed found closed =>
            rw [PendencyLog.resolve_eq_error_iff.mpr (.inr ⟨_, found, closed, rfl⟩)]
  | release payment =>
      simp only [checkOffice]
      constructor
      · intro refused
        split at refused
        · cases refused
        · rename_i absent
          cases refused
          exact .channelUnknown absent
      · intro hindered
        cases hindered with
        | channelUnknown absent => simp only [absent]
  | _ =>
      constructor
      · intro refused
        cases refused
      · intro hindered
        cases hindered

theorem not_hindrance_denied {denial : Denial} :
    ¬ request.Hindrance call office operation (.denied denial) := by
  intro hindered
  cases hindered

/-- A refused operation leaves the request as it is. -/
theorem request_apply_of_error (call : Call) (office : Office) (fresh : Nat → Identifier)
    (refused : (request.apply operation call office fresh).result = .error reason) :
    (request.apply operation call office fresh).request = request := by
  by_cases admitted : request.Admits operation call office
  · rw [apply_of_admits call office fresh admitted] at refused
    cases refused
  · obtain ⟨cause, equal⟩ := apply_of_not_admits call office fresh admitted
    rw [equal]
    rfl

/-- What is permitted is refused for a hindrance, and for nothing else. -/
theorem result_apply_of_permitted (office : Office) (fresh : Nat → Identifier)
    (permitted : Permission.decide request.status operation call.caller.actor request = .ok ())
    (reason : RequestError) :
    (request.apply operation call office fresh).result = .error reason ↔
      request.Hindrance call office operation reason := by
  rw [apply_eq, permitted, ← checkOffice_eq_error_iff]
  simp only [consequence]
  cases request.checkOffice operation call office <;> simp [Outcome.refused]

/-- An operation is denied only where permission is. -/
theorem result_apply_eq_denied_iff {denial : Denial} :
    (request.apply operation call office fresh).result = .error (.denied denial) ↔
      Permission.decide request.status operation call.caller.actor request = .error denial := by
  cases permission : Permission.decide request.status operation call.caller.actor request with
  | error cause =>
      rw [apply_eq, permission]
      simp [Outcome.refused]
  | ok _ =>
      rw [result_apply_of_permitted office fresh permission]
      simp [not_hindrance_denied]

end Request

/-- Whatever a request looks like, an operation that is refused leaves it as it
is. Permission is denied exactly where the operation is; and what is permitted
is refused for missing documents, an unfit representative, an item that is
unknown or closed, or an unknown payment channel, and for nothing else. In
particular no move that permission let through is missing from the table of
statuses, the second one of a submission included. -/
theorem refusals_leave_the_request (request : Request) (operation : Operation) (call : Call)
    (office : Office) (fresh : Nat → Identifier) :
    let outcome := request.apply operation call office fresh
    let permission := Permission.decide request.status operation call.caller.actor request
    (∀ reason, outcome.result = .error reason → outcome.request = request) ∧
      (permission = .ok () → ∀ reason, outcome.result = .error reason ↔
        request.Hindrance call office operation reason) ∧
      ∀ denial, outcome.result = .error (.denied denial) ↔ permission = .error denial := by
  intro outcome permission
  refine ⟨?_, ?_, ?_⟩
  · intro reason refused
    exact Request.request_apply_of_error call office fresh refused
  · exact Request.result_apply_of_permitted office fresh
  · intro denial
    exact Request.result_apply_eq_denied_iff

namespace Sample

/-- A request that no run leads to: pending and released at once, with an item of
a cycle that is yet to come. -/
def misfiled : Request :=
  { opened with
    status := .pending
    release := some ⟨⟨0, .pix, none⟩, .pix "", .numbered 1, .newYear2025⟩
    pendencies := ⟨[⟨.numbered 7, 9, "proof of address", .numbered 1, .newYear2025,
      some ⟨.numbered 1, .newYear2025, "seen"⟩⟩], 3⟩ }

end Sample

/-- Resolving an item again is permitted, and refused for that item only. -/
theorem closed_item_leaves_the_request :
    let resolving : Operation := .resolvePendency (.numbered 7) "seen again"
    let outcome := Sample.misfiled.apply resolving Sample.call (.demanding [] []) (.fresh 10)
    Permission.decide Sample.misfiled.status resolving Sample.call.caller.actor Sample.misfiled =
        .ok () ∧
      outcome.result = .error (.pendencyAlreadyResolved (.numbered 7)) ∧
      outcome.request = Sample.misfiled := by
  intro resolving outcome
  have permitted : Permission.decide Sample.misfiled.status resolving Sample.call.caller.actor
      Sample.misfiled = .ok () := by decide +kernel
  obtain ⟨unchanged, hindered, -⟩ := refusals_leave_the_request Sample.misfiled resolving
    Sample.call (.demanding [] []) (.fresh 10)
  have refused : outcome.result = .error (.pendencyAlreadyResolved (.numbered 7)) :=
    (hindered permitted _).mpr (.itemClosed rfl rfl)
  exact ⟨permitted, refused, unchanged _ refused⟩

end BenefitCasework
