import BenefitCasework.Proofs.Permission.Demands
import BenefitCasework.Request.Lifecycle
import Mathlib.Logic.Function.Iterate

/-!
Contract: what an operation on a request comes to, in one form for all twelve.

Owns:
- `Request.checkOffice`, what documents, pendencies and channels have against
  an operation that is permitted;
- `Request.prepared`, what it writes besides its moves; `Request.path`, the
  statuses it moves through; `Request.announcement?`, what it announces;
- `Request.carriedOut`, the three together;
- `apply_eq`, which says that an operation is either refused and leaves the
  request as it was, or comes to exactly that;
- `toNat_iterate_nextVersion`, how far the version rises.

Does not own: statements about more than one operation.
-/

namespace BenefitCasework

/-- The justification that an operation leaves in the history. -/
def Operation.justification? : Operation → Option String
  | .pend justification _ => some justification
  | .reject justification => some justification
  | .complete note => some note
  | .cancel reason => some reason
  | _ => none

theorem toNat_nextVersion (version : UInt64) :
    (nextVersion version).toNat = min (version.toNat + 1) (UInt64.size - 1) := by
  have small := version.toNat_lt_size
  unfold nextVersion
  by_cases largest : version = UInt64.ofNat (UInt64.size - 1)
  · rw [if_pos largest, largest]
    rfl
  · have below : version.toNat ≠ UInt64.size - 1 := by
      intro equal
      apply largest
      rw [← equal, UInt64.ofNat_toNat]
    have room : version.toNat + 1 < UInt64.size := by omega
    rw [if_neg largest, UInt64.toNat_add, UInt64.toNat_one, Nat.mod_eq_of_lt room]
    omega

theorem toNat_iterate_nextVersion (steps : Nat) (version : UInt64) :
    (nextVersion^[steps] version).toNat = min (version.toNat + steps) (UInt64.size - 1) := by
  induction steps with
  | zero =>
      have small := version.toNat_lt_size
      simp only [Function.iterate_zero, id_eq]
      omega
  | succ steps inductionHypothesis =>
      rw [Function.iterate_succ_apply', toNat_nextVersion, inductionHypothesis]
      omega

namespace Request

/-- What documents, pendencies and channels have against an operation. -/
def checkOffice (request : Request) (operation : Operation) (call : Call) (office : Office) :
    Except RequestError Unit :=
  match operation with
  | .submit => request.checkComplete call office.missing
  | .resolvePendency pendency note =>
      match request.pendencies.resolve pendency call.caller.user call.moment note with
      | .ok _ => .ok ()
      | .error (.notFound id) => .error (.pendencyNotFound id)
      | .error (.alreadyResolved id) => .error (.pendencyAlreadyResolved id)
  | .release _ =>
      match office.channels.get? request.beneficiary.citizen with
      | some _ => .ok ()
      | none => .error (.paymentInfoMissing request.beneficiary.citizen)
  | _ => .ok ()

/-- The name under which the gate that is waited for is signed off. -/
def gateName (request : Request) : String :=
  match request.currentGate? with
  | some gate => gate.name
  | none => "approval"

/-- There is a gate behind the one that is waited for. -/
def hasGateBehind (request : Request) : Bool :=
  (request.route.approvalGate? (request.approvals.length + 1)).isSome

/-- The request with what an operation writes besides its moves. -/
def prepared (request : Request) (operation : Operation) (call : Call) (office : Office)
    (fresh : Nat → Identifier) : Request :=
  match operation with
  | .attachDocument documentType =>
      { request with
        documents := request.documents ++ [⟨documentType, call.caller.user, call.moment⟩] }
  | .recordOpinion text =>
      { request with opinion := some ⟨text, call.caller.user, call.moment⟩ }
  | .approve =>
      { request with
        approvals := request.approvals ++ [⟨request.gateName, call.caller.user, call.moment⟩] }
  | .pend _ items =>
      { request with
        pendencies := request.pendencies.raise fresh items call.caller.user call.moment
        approvals := []
        opinion := none }
  | .resolvePendency pendency note =>
      match request.pendencies.resolve pendency call.caller.user call.moment note with
      | .ok pendencies => { request with pendencies := pendencies }
      | .error _ => request
  | .release payment =>
      match office.channels.get? request.beneficiary.citizen with
      | some channel =>
          { request with release := some ⟨payment, channel, call.caller.user, call.moment⟩ }
      | none => request
  | .complete note => { request with deliveryNote := some note }
  | _ => request

/-- The statuses that an operation moves through. -/
def path (request : Request) : Operation → List Status
  | .submit => if request.route.hasTriage then [.opened] else [.opened, .inAnalysis]
  | .sendToAnalysis => [.inAnalysis]
  | .approve => if request.hasGateBehind then [] else [.approved]
  | .pend _ _ => [.pending]
  | .reject _ => [.cancelled]
  | .resubmit => [.inAnalysis]
  | .release _ => [.released]
  | .complete _ => [.completed]
  | .cancel _ => [.cancelled]
  | .attachDocument _ => []
  | .recordOpinion _ => []
  | .resolvePendency _ _ => []

/-- What an operation announces. -/
def announcement? (request : Request) (operation : Operation) (call : Call) (office : Office)
    (fresh : Nat → Identifier) : Option EventPayload :=
  match operation with
  | .submit => some (.submitted (if request.route.hasTriage then .opened else .inAnalysis))
  | .approve =>
      if request.hasGateBehind then none
      else some (.approved call.caller.user
        ((request.approvals.map GateApproval.gate) ++ [request.gateName]))
  | .pend justification items =>
      let raised := PendencyLog.newItems fresh (request.pendencies.cycle + 1) call.caller.user
        call.moment items
      some (.pended justification (raised.map fun item => ⟨item.id, item.description⟩)
        (request.pendencies.cycle + 1))
  | .reject justification => some (.rejected justification)
  | .resubmit => some (.resubmitted request.pendencies.cycle)
  | .release payment =>
      (office.channels.get? request.beneficiary.citizen).map (.released payment)
  | .complete note => some (.completed note)
  | .cancel reason => some (.cancelled reason request.status)
  | _ => none

/-- The request behind one move. -/
def moved (call : Call) (operation : Operation) (request : Request) (target : Status) : Request :=
  { request with
    history := request.history ++
      [request.entryTo call target operation.name operation.justification?]
    status := target }.touch call.moment

/-- The request behind a row of moves. An operation that moves nothing still
counts as a change. -/
def settled (request : Request) (call : Call) (operation : Operation) : List Status → Request
  | [] => request.touch call.moment
  | path => path.foldl (moved call operation) request

/-- The request that counts the announcement of an operation. -/
def counted (request : Request) : Option EventPayload → Request
  | none => request
  | some _ => { request with eventSequence := request.eventSequence + 1 }

/-- What an accepted operation makes of a request. -/
def carriedOut (request : Request) (operation : Operation) (call : Call) (office : Office)
    (fresh : Nat → Identifier) : Request :=
  ((request.prepared operation call office fresh).settled call operation
    (request.path operation)).counted (request.announcement? operation call office fresh)

/-- The events of an accepted operation. -/
def eventsOf (request : Request) (operation : Operation) (call : Call) (office : Office)
    (fresh : Nat → Identifier) : List Event :=
  match request.announcement? operation call office fresh with
  | none => []
  | some payload => [⟨fresh operation.itemsRaised, request.id, request.eventSequence + 1,
      call.caller.correlation, call.moment, payload⟩]

/-- Permission is given, and nothing else stands against an operation. -/
def Admits (request : Request) (operation : Operation) (call : Call) (office : Office) : Prop :=
  Permission.decide request.status operation call.caller.actor request = .ok () ∧
    request.checkOffice operation call office = .ok ()

/-- What a permitted operation comes to. -/
def consequence (request : Request) (operation : Operation) (call : Call) (office : Office)
    (fresh : Nat → Identifier) : Outcome :=
  match request.checkOffice operation call office with
  | .error reason => .refused request reason
  | .ok () => ⟨request.carriedOut operation call office fresh,
      .ok (request.eventsOf operation call office fresh)⟩

/-! ### One form for all operations -/

section CarryOut

variable {request : Request} (call : Call) (office : Office) (fresh : Nat → Identifier)

theorem moveTo_of_canMoveTo (request : Request) {target : Status}
    (allowed : request.status.canMoveTo target = true) (operation : Operation) :
    request.moveTo call target operation.name operation.justification? =
      .ok (moved call operation request target) := by
  rw [moveTo, if_pos allowed]
  rfl

theorem moveAndAnnounce_of_canMoveTo (request : Request) {target : Status}
    (allowed : request.status.canMoveTo target = true) (operation : Operation) (id : Identifier)
    (payload : Request → EventPayload) :
    request.moveAndAnnounce call target operation.name operation.justification? id payload =
      (moved call operation request target).announce call id
        (payload (moved call operation request target)) := by
  rw [moveAndAnnounce, moveTo_of_canMoveTo call request allowed]

theorem submit_eq (draft : request.status = .draft) :
    request.submit call office.missing (fresh 0) =
      request.consequence .submit call office fresh := by
  have toOpened : request.moveTo call .opened .submit none =
      .ok (moved call .submit request .opened) :=
    moveTo_of_canMoveTo call request (by rw [draft]; rfl) .submit
  have sameRoute : (moved call .submit request .opened).route.hasTriage =
      request.route.hasTriage := rfl
  unfold submit consequence
  rw [show request.checkOffice .submit call office =
    request.checkComplete call office.missing from rfl]
  cases request.checkComplete call office.missing with
  | error reason => rfl
  | ok _ =>
      simp only [toOpened]
      by_cases triage : request.route.hasTriage = true
      · rw [if_pos (sameRoute.trans triage)]
        simp only [carriedOut, eventsOf, announcement?, path, prepared, triage]
        rfl
      · rw [if_neg (sameRoute ▸ triage)]
        simp only [carriedOut, eventsOf, announcement?, path, prepared, triage]
        exact moveAndAnnounce_of_canMoveTo call (moved call .submit request .opened) rfl .submit
          (fresh 0) fun moved => .submitted moved.status

theorem sendToAnalysis_eq (opened : request.status = .opened) :
    request.sendToAnalysis call = request.consequence .sendToAnalysis call office fresh := by
  have toAnalysis : request.moveTo call .inAnalysis .sendToAnalysis none =
      .ok (moved call .sendToAnalysis request .inAnalysis) :=
    moveTo_of_canMoveTo call request (by rw [opened]; rfl) .sendToAnalysis
  rw [sendToAnalysis, toAnalysis]
  rfl

theorem approve_eq (inAnalysis : request.status = .inAnalysis) :
    request.approve call (fresh 0) = request.consequence .approve call office fresh := by
  let signed := request.prepared .approve call office fresh
  have gateBehind : signed.currentGate?.isSome = request.hasGateBehind := by
    simp [signed, prepared, currentGate?, hasGateBehind]
  have unfolded : request.approve call (fresh 0) =
      if signed.currentGate?.isSome then .silent (signed.touch call.moment)
      else signed.moveAndAnnounce call .approved .approve none (fresh 0)
        fun moved => .approved call.caller.user (moved.approvals.map GateApproval.gate) := rfl
  rw [unfolded, gateBehind]
  by_cases behind : request.hasGateBehind = true
  · rw [if_pos behind]
    simp [consequence, checkOffice, carriedOut, eventsOf, announcement?, path, behind, settled,
      counted, Outcome.silent, signed]
  · rw [if_neg behind]
    have toApproved : signed.status.canMoveTo .approved = true := by
      rw [show signed.status = request.status from rfl, inAnalysis]
      rfl
    refine (moveAndAnnounce_of_canMoveTo call signed toApproved .approve (fresh 0) _).trans ?_
    simp [consequence, checkOffice, carriedOut, eventsOf, announcement?, path, behind, settled,
      counted, announce, signed, moved, touch, prepared, Operation.itemsRaised]

theorem pend_eq (inAnalysis : request.status = .inAnalysis) (justification : String)
    (items : List String) :
    request.pend call justification items fresh =
      request.consequence (.pend justification items) call office fresh := by
  let reset := request.prepared (.pend justification items) call office fresh
  have toPending : reset.status.canMoveTo .pending = true := by
    rw [show reset.status = request.status from rfl, inAnalysis]
    rfl
  exact moveAndAnnounce_of_canMoveTo call reset toPending (.pend justification items)
    (fresh items.length) _

theorem resolvePendency_eq (pendency : Identifier) (note : String) :
    request.resolvePendency call pendency note =
      request.consequence (.resolvePendency pendency note) call office fresh := by
  simp only [resolvePendency, consequence, checkOffice, carriedOut, eventsOf, announcement?, path,
    prepared]
  cases request.pendencies.resolve pendency call.caller.user call.moment note with
  | ok pendencies => rfl
  | error reason => cases reason <;> rfl

theorem payOut_eq (approved : request.status = .approved) (payment : Payment) :
    request.payOut call payment office.channels (fresh 0) =
      request.consequence (.release payment) call office fresh := by
  cases found : office.channels.get? request.beneficiary.citizen with
  | none => simp [payOut, consequence, checkOffice, found]
  | some channel =>
      let paid := { request with
        release := some ⟨payment, channel, call.caller.user, call.moment⟩ }
      have toReleased : paid.status.canMoveTo .released = true := by
        rw [show paid.status = request.status from rfl, approved]
        rfl
      have announced := moveAndAnnounce_of_canMoveTo call paid toReleased (.release payment)
        (fresh 0) fun _ => .released payment channel
      simp only [payOut, consequence, checkOffice, carriedOut, eventsOf, announcement?, path,
        prepared, found]
      exact announced

/-- A permitted operation comes to its consequence. -/
theorem carryOut_eq (operation : Operation) (allowed : request.status ∈ operation.allowedFrom) :
    request.carryOut operation call office fresh =
      request.consequence operation call office fresh := by
  cases operation with
  | submit => exact submit_eq call office fresh (by simpa [Operation.allowedFrom] using allowed)
  | sendToAnalysis =>
      exact sendToAnalysis_eq call office fresh (by simpa [Operation.allowedFrom] using allowed)
  | attachDocument documentType => rfl
  | recordOpinion text => rfl
  | approve => exact approve_eq call office fresh (by simpa [Operation.allowedFrom] using allowed)
  | pend justification items =>
      exact pend_eq call office fresh (by simpa [Operation.allowedFrom] using allowed)
        justification items
  | reject justification =>
      have inAnalysis : request.status = .inAnalysis := by
        simpa [Operation.allowedFrom] using allowed
      exact moveAndAnnounce_of_canMoveTo call request (by rw [inAnalysis]; rfl)
        (.reject justification) (fresh 0) _
  | resolvePendency pendency note => exact resolvePendency_eq call office fresh pendency note
  | resubmit =>
      have pending : request.status = .pending := by simpa [Operation.allowedFrom] using allowed
      exact moveAndAnnounce_of_canMoveTo call request (by rw [pending]; rfl) .resubmit (fresh 0) _
  | release payment =>
      exact payOut_eq call office fresh (by simpa [Operation.allowedFrom] using allowed) payment
  | complete note =>
      have released : request.status = .released := by simpa [Operation.allowedFrom] using allowed
      let delivered := request.prepared (.complete note) call office fresh
      have toCompleted : delivered.status.canMoveTo .completed = true := by
        rw [show delivered.status = request.status from rfl, released]
        rfl
      exact moveAndAnnounce_of_canMoveTo call delivered toCompleted (.complete note) (fresh 0) _
  | cancel reason =>
      have toCancelled : request.status.canMoveTo .cancelled = true := by
        simp only [Operation.allowedFrom, List.mem_cons, List.not_mem_nil, or_false] at allowed
        rcases allowed with same | same | same | same | same <;> rw [same] <;> rfl
      exact moveAndAnnounce_of_canMoveTo call request toCancelled (.cancel reason) (fresh 0) _

/-- An operation is denied, or it comes to its consequence. -/
theorem apply_eq (operation : Operation) :
    request.apply operation call office fresh =
      match Permission.decide request.status operation call.caller.actor request with
      | .error denial => .refused request (.denied denial)
      | .ok () => request.consequence operation call office fresh := by
  unfold apply
  cases permitted : Permission.decide request.status operation call.caller.actor request with
  | error denial => rfl
  | ok _ =>
      have allowed := (Permission.decide_eq_ok_iff.mp permitted).1
      exact carryOut_eq call office fresh operation allowed

theorem apply_of_admits {operation : Operation} (admitted : request.Admits operation call office) :
    request.apply operation call office fresh =
      ⟨request.carriedOut operation call office fresh,
        .ok (request.eventsOf operation call office fresh)⟩ := by
  rw [apply_eq, admitted.1]
  simp only [consequence, admitted.2]

/-- What is refused leaves the request as it was. -/
theorem apply_of_not_admits {operation : Operation}
    (refused : ¬ request.Admits operation call office) :
    ∃ reason, request.apply operation call office fresh = .refused request reason := by
  rw [apply_eq]
  cases permitted : Permission.decide request.status operation call.caller.actor request with
  | error denial => exact ⟨.denied denial, rfl⟩
  | ok _ =>
      cases checked : request.checkOffice operation call office with
      | error reason => exact ⟨reason, by simp only [consequence, checked]⟩
      | ok _ => exact absurd ⟨permitted, checked⟩ refused

theorem accepted_apply_iff {operation : Operation} :
    (request.apply operation call office fresh).accepted = true ↔
      request.Admits operation call office := by
  by_cases admitted : request.Admits operation call office
  · simp [apply_of_admits call office fresh admitted, Outcome.accepted, admitted]
  · obtain ⟨reason, refused⟩ := apply_of_not_admits call office fresh admitted
    simp [refused, Outcome.refused, Outcome.accepted, admitted]

end CarryOut

/-! ### What stays, and what moves -/

section Parts

variable {α : Type} (part : Request → α) (request : Request) (operation : Operation) (call : Call)
  (office : Office) (fresh : Nat → Identifier)

/-- A part of a request that moves and announcements leave alone. -/
def Unmoved (part : Request → α) : Prop :=
  ∀ (request : Request) history status version moment sequence,
    part { request with
      history := history
      status := status
      version := version
      updatedAt := moment
      eventSequence := sequence } = part request

/-- A part of a request that operations change by moves and announcements only. -/
def Unwritten (part : Request → α) : Prop :=
  ∀ (request : Request) documents opinion approvals pendencies release deliveryNote,
    part { request with
      documents := documents
      opinion := opinion
      approvals := approvals
      pendencies := pendencies
      release := release
      deliveryNote := deliveryNote } = part request

theorem part_settled (unmoved : Unmoved part) (path : List Status) :
    part (request.settled call operation path) = part request := by
  have walked (path : List Status) (start : Request) :
      part (path.foldl (moved call operation) start) = part start := by
    induction path generalizing start with
    | nil => rfl
    | cons target rest inductionHypothesis =>
        rw [List.foldl_cons, inductionHypothesis]
        exact unmoved start _ _ _ _ start.eventSequence
  cases path with
  | nil => exact unmoved request request.history request.status _ _ request.eventSequence
  | cons target rest => exact walked (target :: rest) request

theorem part_counted (unmoved : Unmoved part) (announcement : Option EventPayload) :
    part (request.counted announcement) = part request := by
  cases announcement with
  | none => rfl
  | some payload =>
      exact unmoved request request.history request.status request.version request.updatedAt _

/-- What moves leave alone is as it was prepared. -/
theorem part_carriedOut (unmoved : Unmoved part) :
    part (request.carriedOut operation call office fresh) =
      part (request.prepared operation call office fresh) := by
  rw [carriedOut, part_counted part _ unmoved, part_settled part _ _ _ unmoved]

theorem part_prepared (unwritten : Unwritten part) :
    part (request.prepared operation call office fresh) = part request := by
  have same (documents opinion approvals pendencies release deliveryNote) :=
    unwritten request documents opinion approvals pendencies release deliveryNote
  cases operation with
  | attachDocument documentType =>
      exact same _ request.opinion request.approvals request.pendencies request.release
        request.deliveryNote
  | recordOpinion text =>
      exact same request.documents _ request.approvals request.pendencies request.release
        request.deliveryNote
  | approve =>
      exact same request.documents request.opinion _ request.pendencies request.release
        request.deliveryNote
  | pend justification items =>
      exact same request.documents _ _ _ request.release request.deliveryNote
  | resolvePendency pendency note =>
      simp only [prepared]
      cases request.pendencies.resolve pendency call.caller.user call.moment note with
      | ok pendencies =>
          exact same request.documents request.opinion request.approvals pendencies
            request.release request.deliveryNote
      | error reason => rfl
  | release payment =>
      simp only [prepared]
      cases office.channels.get? request.beneficiary.citizen with
      | some channel =>
          exact same request.documents request.opinion request.approvals request.pendencies _
            request.deliveryNote
      | none => rfl
  | complete note =>
      exact same request.documents request.opinion request.approvals request.pendencies
        request.release _
  | submit => rfl
  | sendToAnalysis => rfl
  | reject justification => rfl
  | resubmit => rfl
  | cancel reason => rfl

@[simp]
theorem id_carriedOut : (request.carriedOut operation call office fresh).id = request.id := by
  rw [part_carriedOut Request.id _ _ _ _ _ fun _ _ _ _ _ _ => rfl,
    part_prepared Request.id _ _ _ _ _ fun _ _ _ _ _ _ _ => rfl]

@[simp]
theorem route_carriedOut :
    (request.carriedOut operation call office fresh).route = request.route := by
  rw [part_carriedOut Request.route _ _ _ _ _ fun _ _ _ _ _ _ => rfl,
    part_prepared Request.route _ _ _ _ _ fun _ _ _ _ _ _ _ => rfl]

@[simp]
theorem beneficiary_carriedOut :
    (request.carriedOut operation call office fresh).beneficiary = request.beneficiary := by
  rw [part_carriedOut Request.beneficiary _ _ _ _ _ fun _ _ _ _ _ _ => rfl,
    part_prepared Request.beneficiary _ _ _ _ _ fun _ _ _ _ _ _ _ => rfl]

@[simp]
theorem createdBy_carriedOut :
    (request.carriedOut operation call office fresh).createdBy = request.createdBy := by
  rw [part_carriedOut Request.createdBy _ _ _ _ _ fun _ _ _ _ _ _ => rfl,
    part_prepared Request.createdBy _ _ _ _ _ fun _ _ _ _ _ _ _ => rfl]

theorem approvals_carriedOut :
    (request.carriedOut operation call office fresh).approvals =
      (request.prepared operation call office fresh).approvals :=
  part_carriedOut Request.approvals _ _ _ _ _ fun _ _ _ _ _ _ => rfl

theorem opinion_carriedOut :
    (request.carriedOut operation call office fresh).opinion =
      (request.prepared operation call office fresh).opinion :=
  part_carriedOut Request.opinion _ _ _ _ _ fun _ _ _ _ _ _ => rfl

theorem pendencies_carriedOut :
    (request.carriedOut operation call office fresh).pendencies =
      (request.prepared operation call office fresh).pendencies :=
  part_carriedOut Request.pendencies _ _ _ _ _ fun _ _ _ _ _ _ => rfl

theorem release_carriedOut :
    (request.carriedOut operation call office fresh).release =
      (request.prepared operation call office fresh).release :=
  part_carriedOut Request.release _ _ _ _ _ fun _ _ _ _ _ _ => rfl

theorem deliveryNote_carriedOut :
    (request.carriedOut operation call office fresh).deliveryNote =
      (request.prepared operation call office fresh).deliveryNote :=
  part_carriedOut Request.deliveryNote _ _ _ _ _ fun _ _ _ _ _ _ => rfl

/-- Announcements are counted, and moves are not. -/
theorem eventSequence_carriedOut :
    (request.carriedOut operation call office fresh).eventSequence =
      match request.announcement? operation call office fresh with
      | none => request.eventSequence
      | some _ => request.eventSequence + 1 := by
  have walked (path : List Status) (start : Request) :
      (path.foldl (moved call operation) start).eventSequence = start.eventSequence := by
    induction path generalizing start with
    | nil => rfl
    | cons target rest inductionHypothesis =>
        rw [List.foldl_cons, inductionHypothesis]
        rfl
  have settled : ((request.prepared operation call office fresh).settled call operation
      (request.path operation)).eventSequence = request.eventSequence := by
    rw [← part_prepared Request.eventSequence request operation call office fresh
      fun _ _ _ _ _ _ _ => rfl]
    cases request.path operation with
    | nil => rfl
    | cons target rest => exact walked (target :: rest) _
  unfold carriedOut
  cases request.announcement? operation call office fresh with
  | none => exact settled
  | some payload => exact congrArg (· + 1) settled

/-- An operation ends in the last status of its path. -/
theorem status_carriedOut :
    (request.carriedOut operation call office fresh).status =
      (request.path operation).getLastD request.status := by
  have walked (path : List Status) (start : Request) :
      (path.foldl (moved call operation) start).status = path.getLastD start.status := by
    induction path generalizing start with
    | nil => rfl
    | cons target rest inductionHypothesis =>
        rw [List.foldl_cons, inductionHypothesis, List.getLastD_cons]
        rfl
  have prepared := part_prepared Request.status request operation call office fresh
    fun _ _ _ _ _ _ _ => rfl
  unfold carriedOut counted
  have settled : ((request.prepared operation call office fresh).settled call operation
      (request.path operation)).status = (request.path operation).getLastD request.status := by
    rw [← prepared]
    cases request.path operation with
    | nil => rfl
    | cons target rest => exact walked (target :: rest) _
  split <;> exact settled

/-- The version rises once for each move, and once where nothing moves. -/
theorem version_carriedOut :
    (request.carriedOut operation call office fresh).version =
      nextVersion^[max 1 (request.path operation).length] request.version := by
  have walked (path : List Status) (start : Request) :
      (path.foldl (moved call operation) start).version =
        nextVersion^[path.length] start.version := by
    induction path generalizing start with
    | nil => rfl
    | cons target rest inductionHypothesis =>
        rw [List.foldl_cons, inductionHypothesis]
        rfl
  have prepared := part_prepared Request.version request operation call office fresh
    fun _ _ _ _ _ _ _ => rfl
  unfold carriedOut counted
  have settled : ((request.prepared operation call office fresh).settled call operation
      (request.path operation)).version =
        nextVersion^[max 1 (request.path operation).length] request.version := by
    rw [← prepared]
    cases request.path operation with
    | nil => rfl
    | cons target rest =>
        rw [Nat.max_eq_right (by simp)]
        exact walked (target :: rest) _
  split <;> exact settled

end Parts

end Request

end BenefitCasework
