import BenefitCasework.Proofs.Permission.Demands
import BenefitCasework.Proofs.Request.Run
import Mathlib.Data.List.Forall2

/-!
Contract: approvals pass the gates of the pinned route, one by one.

Owns:
- `Actor.MayPass` and `Turn.Passes`, who passes a gate, and a turn in which the
  gate that is waited for is passed;
- `Reviewed`, what holds of a request and the turns so far: the approvals name
  the first gates of the route, as many as the status allows, and the turns
  since the last pendencies were raised passed exactly those gates;
- the steps that keep it, and `approval_passes_every_gate`.

Does not own: triage, which is no approval gate.
-/

namespace BenefitCasework

/-- Passing a gate takes a role that approves and, but for an admin, a role of
the gate. -/
def Actor.MayPass (actor : Actor) (gate : Gate) : Prop :=
  (actor.holds .manager = true ∨ actor.holds .technicalReviewer = true ∨
      actor.holds .admin = true) ∧
    (actor.holds .admin = true ∨ ∃ role ∈ gate.roles, actor.holds role = true)

/-- The turn passed the gate that its request waited for. -/
def Turn.Passes (turn : Turn) (gate : Gate) : Prop :=
  turn.before.currentGate? = some gate ∧ turn.actor.MayPass gate

/-- How many of all approval gates may be passed in a status. -/
def Status.GatesFit (status : Status) (passed total : Nat) : Prop :=
  match status with
  | .draft => passed = 0
  | .opened => passed = 0
  | .pending => passed = 0
  | .inAnalysis => passed < total
  | .approved => passed = total
  | .released => passed = total
  | .completed => passed = total
  | .cancelled => passed ≤ total

/-- The approvals of a request are those of its route that the turns since the
last pendencies have passed. -/
structure Reviewed (pinned : Route) (request : Request) (turns : List Turn) : Prop where
  route : request.route = pinned
  names : request.approvals.map GateApproval.gate =
    (pinned.approvalGates.take request.approvals.length).map Gate.name
  fits : request.status.GatesFit request.approvals.length pinned.approvalGates.length
  passed : List.Forall₂ Turn.Passes
    ((sinceLast .pend turns).filter fun turn => turn.acceptedAs .approve)
    (pinned.approvalGates.take request.approvals.length)
  opinion : request.opinion.isSome = true →
    ∃ turn ∈ sinceLast .pend turns, turn.acceptedAs .recordOpinion = true

section Permission

variable {request : Request} {operation : Operation} {actor : Actor}

theorem Permission.inAnalysis_of_approve
    (permitted : decide request.status .approve actor request = .ok ()) :
    request.status = .inAnalysis := by
  have allowed := (decide_eq_ok_iff.mp permitted).1
  simpa [Operation.allowedFrom] using allowed

/-- The layer of roles lets nobody approve who may not pass the gate. -/
theorem Permission.mayPass_of_checkRole {gate : Gate} (waited : request.currentGate? = some gate)
    (checked : checkRole .approve actor request = .ok ()) : actor.MayPass gate := by
  have met := unmet?_eq_none_iff.mp (checkRole_eq_ok_iff.mp checked)
  simp only [Operation.demands, waited] at met
  obtain ⟨table, behind⟩ := List.forall_mem_cons.mp met
  have gateRole := behind _ List.mem_cons_self
  rw [Actor.holdsAny_append, Actor.holdsAny_singleton, Bool.or_eq_true] at gateRole
  refine ⟨?_, gateRole.symm.imp id Actor.holdsAny_iff.mp⟩
  simpa [Operation.permittedRoles, Actor.holdsAny_iff] using table

end Permission

namespace Reviewed

variable {pinned : Route} {reached : Request} {turns : List Turn} {attempt : Attempt}

/-- A turn that neither passes a gate nor raises pendencies. -/
theorem append_other (reviewed : Reviewed pinned reached turns) {next : Request} {turn : Turn}
    (noPend : turn.acceptedAs .pend = false) (noApprove : turn.acceptedAs .approve = false)
    (route : next.route = reached.route) (approvals : next.approvals = reached.approvals)
    (opinion : next.opinion.isSome = true →
      reached.opinion.isSome = true ∨ turn.acceptedAs .recordOpinion = true)
    (fits : next.status.GatesFit reached.approvals.length pinned.approvalGates.length) :
    Reviewed pinned next (turns ++ [turn]) where
  route := route.trans reviewed.route
  names := by rw [approvals, reviewed.names]
  fits := by rw [approvals]; exact fits
  passed := by
    rw [sinceLast_append_of_not_acceptedAs noPend, approvals, List.filter_append,
      List.filter_cons_of_neg (by simp [noApprove]), List.filter_nil, List.append_nil]
    exact reviewed.passed
  opinion := by
    intro present
    rw [sinceLast_append_of_not_acceptedAs noPend]
    rcases opinion present with earlier | now
    · obtain ⟨giver, member, accepted⟩ := reviewed.opinion earlier
      exact ⟨giver, List.mem_append_left _ member, accepted⟩
    · exact ⟨turn, by simp, now⟩

/-- Pendencies start the review over. -/
theorem append_pend (reviewed : Reviewed pinned reached turns)
    (admitted : reached.AdmitsAttempt attempt) (isPend : attempt.operation.name = .pend) :
    Reviewed pinned (reached.carriedOutBy attempt) (turns ++ [⟨reached, attempt⟩]) := by
  obtain ⟨operation, call, office, fresh⟩ := attempt
  cases operation with
  | pend justification items =>
      have restarted : sinceLast .pend (turns ++ [⟨reached, ⟨.pend justification items, call,
          office, fresh⟩⟩]) = [] :=
        sinceLast_append_of_acceptedAs (acceptedAs_iff.mpr ⟨admitted, rfl⟩)
      have approvals : (reached.carriedOut (.pend justification items) call office
          fresh).approvals = [] := Request.approvals_carriedOut _ _ _ _ _
      have opinion : (reached.carriedOut (.pend justification items) call office
          fresh).opinion = none := Request.opinion_carriedOut _ _ _ _ _
      refine ⟨?_, ?_, ?_, ?_, ?_⟩
      · exact (Request.route_carriedOut _ _ _ _ _).trans reviewed.route
      · simp [Request.carriedOutBy, approvals]
      · simp [Request.carriedOutBy, approvals, Request.status_carriedOut, Request.path,
          Status.GatesFit]
      · simp [Request.carriedOutBy, approvals, restarted]
      · simp [Request.carriedOutBy, opinion]
  | _ => cases isPend

/-- In analysis the gate behind those passed is waited for. -/
theorem waits (reviewed : Reviewed pinned reached turns)
    (inAnalysis : reached.status = .inAnalysis) :
    ∃ gate, reached.currentGate? = some gate ∧
      pinned.approvalGates.take (reached.approvals.length + 1) =
        pinned.approvalGates.take reached.approvals.length ++ [gate] := by
  have below := reviewed.fits
  rw [inAnalysis] at below
  refine ⟨pinned.approvalGates[reached.approvals.length], ?_,
    List.take_succ_eq_append_getElem below⟩
  rw [Request.currentGate?, reviewed.route, Route.approvalGate?]
  exact List.getElem?_eq_getElem below

/-- One gate more is passed, and the status says whether it was the last one. -/
theorem gatesFit_approve (reviewed : Reviewed pinned reached turns)
    (inAnalysis : reached.status = .inAnalysis) :
    ((reached.path .approve).getLastD reached.status).GatesFit (reached.approvals.length + 1)
      pinned.approvalGates.length := by
  have below := reviewed.fits
  rw [inAnalysis] at below ⊢
  have behind : reached.hasGateBehind = true ↔
      reached.approvals.length + 1 < pinned.approvalGates.length := by
    simp [Request.hasGateBehind, Route.approvalGate?, reviewed.route]
  by_cases more : reached.approvals.length + 1 < pinned.approvalGates.length
  · rw [Request.path, if_pos (behind.mpr more)]
    exact more
  · rw [Request.path, if_neg (mt behind.mp more)]
    exact Nat.le_antisymm below (Nat.not_lt.mp more)

theorem append_approve (reviewed : Reviewed pinned reached turns)
    (admitted : reached.AdmitsAttempt attempt) (isApprove : attempt.operation.name = .approve) :
    Reviewed pinned (reached.carriedOutBy attempt) (turns ++ [⟨reached, attempt⟩]) := by
  obtain ⟨operation, call, office, fresh⟩ := attempt
  cases operation with
  | approve =>
      have inAnalysis := Permission.inAnalysis_of_approve admitted.1
      obtain ⟨gate, waited, grown⟩ := reviewed.waits inAnalysis
      have role := (Permission.decide_eq_ok_iff.mp admitted.1).2.1
      have mayPass := Permission.mayPass_of_checkRole waited role
      have approvals : (reached.carriedOut .approve call office fresh).approvals =
          reached.approvals ++ [⟨gate.name, call.caller.user, call.moment⟩] := by
        rw [Request.approvals_carriedOut, Request.prepared, Request.gateName, waited]
      have accepted : Turn.acceptedAs ⟨reached, ⟨.approve, call, office, fresh⟩⟩ .approve = true :=
        acceptedAs_iff.mpr ⟨admitted, rfl⟩
      have noPend : Turn.acceptedAs ⟨reached, ⟨.approve, call, office, fresh⟩⟩ .pend = false := by
        simp [Turn.acceptedAs, Operation.name]
      refine ⟨?_, ?_, ?_, ?_, ?_⟩
      · exact (Request.route_carriedOut _ _ _ _ _).trans reviewed.route
      · simp [Request.carriedOutBy, approvals, grown, reviewed.names]
      · rw [Request.carriedOutBy, approvals, Request.status_carriedOut, List.length_append]
        exact reviewed.gatesFit_approve inAnalysis
      · simp only [Request.carriedOutBy, approvals, List.length_append, List.length_singleton,
          grown]
        rw [sinceLast_append_of_not_acceptedAs noPend, List.filter_append,
          List.filter_cons_of_pos (by exact accepted), List.filter_nil]
        exact List.rel_append reviewed.passed (.cons ⟨waited, mayPass⟩ .nil)
      · intro present
        rw [Request.carriedOutBy, Request.opinion_carriedOut] at present
        obtain ⟨giver, member, given⟩ := reviewed.opinion present
        rw [sinceLast_append_of_not_acceptedAs noPend]
        exact ⟨giver, List.mem_append_left _ member, given⟩
  | _ => cases isApprove

/-- Where an operation other than an approval leads, the gates passed so far
still fit. -/
theorem gatesFit_path {operation : Operation} {passed total : Nat} (positive : 0 < total)
    (allowed : reached.status ∈ operation.allowedFrom) (noApprove : operation.name ≠ .approve)
    (noPend : operation.name ≠ .pend) (fits : reached.status.GatesFit passed total) :
    ((reached.path operation).getLastD reached.status).GatesFit passed total := by
  cases operation with
  | approve => exact absurd rfl noApprove
  | pend justification items => exact absurd rfl noPend
  | submit =>
      have draft : reached.status = .draft := by simpa [Operation.allowedFrom] using allowed
      have none : passed = 0 := by rwa [draft] at fits
      by_cases triage : reached.route.hasTriage = true
      · simp [Request.path, triage, Status.GatesFit, none]
      · simp [Request.path, triage, Status.GatesFit, none, positive]
  | sendToAnalysis =>
      have opened : reached.status = .opened := by simpa [Operation.allowedFrom] using allowed
      have none : passed = 0 := by rwa [opened] at fits
      simp [Request.path, Status.GatesFit, none, positive]
  | resubmit =>
      have pending : reached.status = .pending := by simpa [Operation.allowedFrom] using allowed
      have none : passed = 0 := by rwa [pending] at fits
      simp [Request.path, Status.GatesFit, none, positive]
  | reject justification =>
      have inAnalysis : reached.status = .inAnalysis := by
        simpa [Operation.allowedFrom] using allowed
      rw [inAnalysis] at fits
      exact Nat.le_of_lt fits
  | release payment =>
      have approved : reached.status = .approved := by
        simpa [Operation.allowedFrom] using allowed
      rwa [approved] at fits
  | complete note =>
      have released : reached.status = .released := by
        simpa [Operation.allowedFrom] using allowed
      rwa [released] at fits
  | cancel reason =>
      simp only [Operation.allowedFrom, List.mem_cons, List.not_mem_nil, or_false] at allowed
      rcases allowed with same | same | same | same | same <;>
        simp only [same, Status.GatesFit] at fits <;>
        simp only [Request.path, List.getLastD_cons, List.getLastD_nil, Status.GatesFit] <;> omega
  | attachDocument documentType => exact fits
  | recordOpinion text => exact fits
  | resolvePendency pendency note => exact fits

/-- Only approvals and pendencies change the approvals, and besides pendencies
only an opinion changes the opinion. -/
theorem review_prepared {operation : Operation} (call : Call) (office : Office)
    (fresh : Nat → Identifier) (noApprove : operation.name ≠ .approve)
    (noPend : operation.name ≠ .pend) :
    (reached.prepared operation call office fresh).approvals = reached.approvals ∧
      ((reached.prepared operation call office fresh).opinion = reached.opinion ∨
        operation.name = .recordOpinion) := by
  cases operation with
  | approve => exact absurd rfl noApprove
  | pend justification items => exact absurd rfl noPend
  | recordOpinion text => exact ⟨rfl, Or.inr rfl⟩
  | resolvePendency pendency note =>
      simp only [Request.prepared]
      cases reached.pendencies.resolve pendency call.caller.user call.moment note with
      | ok pendencies => exact ⟨rfl, Or.inl rfl⟩
      | error reason => exact ⟨rfl, Or.inl rfl⟩
  | release payment =>
      simp only [Request.prepared]
      cases office.channels.get? reached.beneficiary.citizen with
      | some channel => exact ⟨rfl, Or.inl rfl⟩
      | none => exact ⟨rfl, Or.inl rfl⟩
  | submit => exact ⟨rfl, Or.inl rfl⟩
  | sendToAnalysis => exact ⟨rfl, Or.inl rfl⟩
  | attachDocument documentType => exact ⟨rfl, Or.inl rfl⟩
  | reject justification => exact ⟨rfl, Or.inl rfl⟩
  | resubmit => exact ⟨rfl, Or.inl rfl⟩
  | complete note => exact ⟨rfl, Or.inl rfl⟩
  | cancel reason => exact ⟨rfl, Or.inl rfl⟩

/-- An accepted operation that neither passes a gate nor raises pendencies. -/
theorem append_accepted_other (reviewed : Reviewed pinned reached turns)
    (positive : 0 < pinned.approvalGates.length) (admitted : reached.AdmitsAttempt attempt)
    (noApprove : attempt.operation.name ≠ .approve) (noPend : attempt.operation.name ≠ .pend) :
    Reviewed pinned (reached.carriedOutBy attempt) (turns ++ [⟨reached, attempt⟩]) := by
  have allowed := (Permission.decide_eq_ok_iff.mp admitted.1).1
  obtain ⟨approvals, opinion⟩ :=
    review_prepared attempt.call attempt.office attempt.fresh noApprove noPend
  apply reviewed.append_other
  · simp [Turn.acceptedAs, noPend]
  · simp [Turn.acceptedAs, noApprove]
  · exact Request.route_carriedOut _ _ _ _ _
  · rw [Request.carriedOutBy, Request.approvals_carriedOut, approvals]
  · intro present
    rw [Request.carriedOutBy, Request.opinion_carriedOut] at present
    rcases opinion with same | isOpinion
    · exact Or.inl (same ▸ present)
    · exact Or.inr (acceptedAs_iff.mpr ⟨admitted, isOpinion⟩)
  · rw [Request.carriedOutBy, Request.status_carriedOut]
    exact gatesFit_path positive allowed noApprove noPend reviewed.fits

/-- A refused attempt. -/
theorem append_refused (reviewed : Reviewed pinned reached turns)
    (refused : ¬ reached.AdmitsAttempt attempt) :
    Reviewed pinned reached (turns ++ [⟨reached, attempt⟩]) := by
  have notAccepted (name : OperationName) :
      Turn.acceptedAs ⟨reached, attempt⟩ name = false := by
    rw [Bool.eq_false_iff]
    exact fun accepted => refused (acceptedAs_iff.mp accepted).1
  exact reviewed.append_other (notAccepted .pend) (notAccepted .approve) rfl rfl Or.inl
    reviewed.fits

end Reviewed

/-- What is opened on a route in which nothing is amiss stays reviewed. -/
theorem reviewed_run {request : Request} (fresh : request.status = .draft)
    (unsigned : request.approvals = []) (unread : request.opinion = none)
    (positive : 0 < request.route.approvalGates.length) (attempts : List Attempt) :
    Reviewed request.route (request.after attempts) (request.turns attempts) := by
  apply Request.run_induction
  · exact {
      route := rfl
      names := by simp [unsigned]
      fits := by simp [fresh, unsigned, Status.GatesFit]
      passed := by simp [unsigned, sinceLast]
      opinion := by simp [unread] }
  · intro reached turns attempt reviewed admitted
    by_cases isPend : attempt.operation.name = .pend
    · exact reviewed.append_pend admitted isPend
    · by_cases isApprove : attempt.operation.name = .approve
      · exact reviewed.append_approve admitted isApprove
      · exact reviewed.append_accepted_other positive admitted isApprove isPend
  · intro reached turns attempt reviewed refused
    exact reviewed.append_refused refused

/-- What `begin` opens is a draft without approvals and opinion on a route that
has been checked. -/
theorem Request.begin_configured {changes : List RouteChange} {id eventId : Identifier}
    {new : NewRequest} {call : Call} {request : Request} {events : List Event}
    (opened : Request.begin id new (.configured changes) call eventId = .ok (request, events)) :
    request.status = .draft ∧ request.approvals = [] ∧ request.opinion = none ∧
      0 < request.route.approvalGates.length := by
  obtain ⟨route, resolved, rfl, -⟩ := exists_of_begin opened
  cases offered : (RouteTable.configured changes).get? new.benefitType with
  | none => simp [RouteTable.resolve, offered] at resolved
  | some onOffer =>
      obtain rfl : onOffer = route := by simpa [RouteTable.resolve, offered] using resolved
      have gates := Route.approvalGates_ne_nil (RouteTable.check_of_configured offered)
      exact ⟨rfl, rfl, rfl, List.length_pos_iff.mpr gates⟩

/-- Whoever is permitted to approve finds a gate that is waited for. -/
theorem Reviewed.currentGate_isSome {pinned : Route} {reached : Request} {turns : List Turn}
    (reviewed : Reviewed pinned reached turns) {actor : Actor}
    (permitted : Permission.decide reached.status .approve actor reached = .ok ()) :
    reached.currentGate?.isSome = true := by
  obtain ⟨gate, waited, -⟩ := reviewed.waits (Permission.inAnalysis_of_approve permitted)
  rw [waited]
  rfl

/-- The announcement of an approval names the gates that the approvals name. -/
theorem events_of_approved {reached : Request} {last : Attempt}
    (isApprove : last.operation = .approve)
    (accepted : (reached.outcomeOf last).accepted = true)
    (approved : (reached.outcomeOf last).request.status = .approved) :
    (reached.outcomeOf last).events.map Event.payload =
      [.approved last.call.caller.user
        ((reached.outcomeOf last).request.approvals.map GateApproval.gate)] := by
  obtain ⟨operation, call, office, fresh⟩ := last
  subst isApprove
  have admitted := Request.accepted_outcomeOf_iff.mp accepted
  have inAnalysis := Permission.inAnalysis_of_approve admitted.1
  rw [Request.outcomeOf_of_admits admitted] at approved ⊢
  simp only [Request.carriedOutBy, Request.status_carriedOut, Request.path] at approved
  by_cases behind : reached.hasGateBehind = true
  · rw [if_pos behind, List.getLastD_nil, inAnalysis] at approved
    cases approved
  · simp [Outcome.events, Request.eventsOf, Request.announcement?, behind, Request.carriedOutBy,
      Request.approvals_carriedOut, Request.prepared]

/-- However a request is worked on, it is approved only behind an opinion and
one approval for each gate of its route, in their order, by people who may pass
them; and while it may be approved, a gate is waited for. -/
theorem approval_passes_every_gate {changes : List RouteChange} {id eventId : Identifier}
    {new : NewRequest} {call : Call} {request : Request} {events : List Event}
    (opened : Request.begin id new (.configured changes) call eventId = .ok (request, events))
    (attempts : List Attempt) :
    (request.after attempts).route = request.route ∧
      (request.after attempts).approvals.map GateApproval.gate =
        (request.route.approvalGates.take (request.after attempts).approvals.length).map
          Gate.name ∧
      (request.after attempts).status.GatesFit (request.after attempts).approvals.length
        request.route.approvalGates.length ∧
      (∀ actor, Permission.decide (request.after attempts).status .approve actor
          (request.after attempts) = .ok () →
        (request.after attempts).currentGate?.isSome = true) ∧
      ∀ last : Attempt, last.operation = .approve →
        ((request.after attempts).outcomeOf last).accepted = true →
        ((request.after attempts).outcomeOf last).request.status = .approved →
          (∃ turn ∈ sinceLast .pend (request.turns (attempts ++ [last])),
            turn.acceptedAs .recordOpinion = true) ∧
          List.Forall₂ Turn.Passes
            ((sinceLast .pend (request.turns (attempts ++ [last]))).filter
              fun turn => turn.acceptedAs .approve)
            request.route.approvalGates ∧
          ((request.after attempts).outcomeOf last).events.map Event.payload =
            [.approved last.call.caller.user (request.route.approvalGates.map Gate.name)] := by
  obtain ⟨draft, unsigned, unread, positive⟩ := Request.begin_configured opened
  have always := reviewed_run draft unsigned unread positive
  have reviewed := always attempts
  refine ⟨reviewed.route, reviewed.names, reviewed.fits,
    fun actor permitted => reviewed.currentGate_isSome permitted, ?_⟩
  intro last isApprove accepted approved
  have later := always (attempts ++ [last])
  rw [Request.after_append_singleton] at later
  have all : ((request.after attempts).outcomeOf last).request.approvals.length =
      request.route.approvalGates.length := by
    have fits := later.fits
    rwa [approved] at fits
  have names := later.names
  have passed := later.passed
  rw [all, List.take_length] at names passed
  refine ⟨later.opinion ?_, passed, ?_⟩
  · have admitted := Request.accepted_outcomeOf_iff.mp accepted
    have rule := (Permission.decide_eq_ok_iff.mp admitted.1).2.2
    rw [Request.outcomeOf_of_admits admitted, Request.carriedOutBy, Request.opinion_carriedOut]
    rw [isApprove, Permission.checkRule] at rule
    rw [isApprove, Request.prepared]
    cases present : (request.after attempts).opinion with
    | none => simp [present] at rule
    | some opinion => rfl
  · rw [events_of_approved isApprove accepted approved, names]

/-- A review that was started over ends behind two approvals of its own. -/
theorem second_round_passes_both_gates :
    Request.begin (.numbered 5) Sample.newRequest (.configured Sample.changes) Sample.call
        (.numbered 6) = .ok (Sample.opened, [Sample.opening]) ∧
      ((Sample.opened.after Sample.secondRound).outcomeOf
        (Sample.attempt .approve 40)).accepted = true ∧
      ((Sample.opened.after Sample.secondRound).outcomeOf
        (Sample.attempt .approve 40)).request.status = .approved ∧
      List.Forall₂ Turn.Passes
        ((sinceLast .pend (Sample.opened.turns
          (Sample.secondRound ++ [Sample.attempt .approve 40]))).filter
            fun turn => turn.acceptedAs .approve)
        Sample.gates := by
  have opened : Request.begin (.numbered 5) Sample.newRequest (.configured Sample.changes)
      Sample.call (.numbered 6) = .ok (Sample.opened, [Sample.opening]) := rfl
  have accepted : ((Sample.opened.after Sample.secondRound).outcomeOf
      (Sample.attempt .approve 40)).accepted = true := by decide +kernel
  have approved : ((Sample.opened.after Sample.secondRound).outcomeOf
      (Sample.attempt .approve 40)).request.status = .approved := by decide +kernel
  obtain ⟨-, -, -, -, atEnd⟩ := approval_passes_every_gate opened Sample.secondRound
  exact ⟨opened, accepted, approved, (atEnd _ rfl accepted approved).2.1⟩

end BenefitCasework
