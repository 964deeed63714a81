import BenefitCasework.Proofs.Request.Run
import BenefitCasework.Proofs.RouteShape

/-!
Contract: routes change, and each request keeps the one it was opened on.

Owns:
- `OfficeMove`, a change of the routes on offer, the opening of a request and an
  operation on one, in any order;
- `Casework`, the routes on offer and the requests, with what was answered to each
  change;
- `Request.asOpened`, all of a request that is settled when it is opened, and that
  no operation changes it;
- `Casework.nextRevision_run`, revisions count the accepted changes;
- `requests_keep_their_route`.

Does not own: which gate lists make a route, and what operations do change.
-/

namespace BenefitCasework

/-! ### What is settled by the opening -/

/-- What is settled when a request is opened. -/
structure OpenedAs where
  id : Identifier
  beneficiary : Beneficiary
  requester : Requester
  benefitType : String
  origin : Origin
  route : Route
  createdBy : Identifier
  createdAt : Instant

namespace Request

def asOpened (request : Request) : OpenedAs :=
  { id := request.id
    beneficiary := request.beneficiary
    requester := request.requester
    benefitType := request.benefitType
    origin := request.origin
    route := request.route
    createdBy := request.createdBy
    createdAt := request.createdAt }

theorem asOpened_carriedOut (request : Request) (operation : Operation) (call : Call)
    (office : Office) (fresh : Nat → Identifier) :
    (request.carriedOut operation call office fresh).asOpened = request.asOpened := by
  rw [part_carriedOut asOpened _ _ _ _ _ fun _ _ _ _ _ _ => rfl,
    part_prepared asOpened _ _ _ _ _ fun _ _ _ _ _ _ _ => rfl]

/-- Whatever is attempted, a request stays as it was opened. -/
theorem asOpened_outcomeOf (request : Request) (attempt : Attempt) :
    (request.outcomeOf attempt).request.asOpened = request.asOpened := by
  by_cases admitted : request.AdmitsAttempt attempt
  · rw [outcomeOf_of_admits admitted]
    exact asOpened_carriedOut ..
  · rw [request_outcomeOf_of_not_admits admitted]

end Request

/-! ### An office at work -/

/-- What may happen in an office: a change of the routes on offer, the opening of a
request, or an operation on the request at a place. -/
inductive OfficeMove where
  | configure (change : RouteChange)
  | begin (id : Identifier) (new : NewRequest) (call : Call) (eventId : Identifier)
  | attempt (place : Nat) (attempt : Attempt)

def OfficeMove.change? : OfficeMove → Option RouteChange
  | .configure change => some change
  | _ => none

/-- The routes on offer, what was answered to the changes of them, and the requests
in the order of their opening. -/
structure Casework where
  routes : RouteTable
  answers : List (RouteChange × Except RouteError UInt32)
  requests : List Request

namespace Casework

def start : Casework := ⟨[], [], []⟩

/-- The answer to a change: its revision, or why it is refused. -/
def answer (casework : Casework) (change : RouteChange) : Except RouteError UInt32 :=
  (casework.routes.configure change.benefitType change.gates).map Prod.fst

def move (casework : Casework) : OfficeMove → Casework
  | .configure change =>
      { casework with
        routes := casework.routes.changedBy change
        answers := casework.answers ++ [(change, casework.answer change)] }
  | .begin id new call eventId =>
      match Request.begin id new casework.routes call eventId with
      | .ok (request, _) => { casework with requests := casework.requests ++ [request] }
      | .error _ => casework
  | .attempt place attempt =>
      { casework with
        requests := casework.requests.modify place fun request =>
          (request.outcomeOf attempt).request }

/-- What a row of moves does. -/
def run (casework : Casework) (moves : List OfficeMove) : Casework := moves.foldl move casework

/-- How many changes of a type of benefit were asked for. -/
def asked (casework : Casework) (benefitType : String) : Nat :=
  casework.answers.countP fun answered => answered.1.benefitType == benefitType

/-- How many changes of a type of benefit were accepted. -/
def accepted (casework : Casework) (benefitType : String) : Nat :=
  casework.answers.countP fun answered =>
    answered.1.benefitType == benefitType && answered.2.isOk

theorem accepted_le_asked (casework : Casework) (benefitType : String) :
    casework.accepted benefitType ≤ casework.asked benefitType :=
  List.countP_mono_left fun _ _ both => (Bool.and_eq_true_iff.mp both).1

theorem run_append_singleton (casework : Casework) (moves : List OfficeMove) (last : OfficeMove) :
    casework.run (moves ++ [last]) = (casework.run moves).move last := by
  simp [run]

/-! ### Changes of the routes on offer -/

section Changes

variable {casework : Casework} {change : RouteChange}

theorem answer_of_makeRoute (made : MakeRoute change.gates) :
    casework.answer change = .ok (casework.routes.nextRevision change.benefitType) := by
  rw [answer, RouteTable.configure_of_makeRoute casework.routes made]
  rfl

/-- A change is accepted exactly when its gates make a route. -/
theorem isOk_answer_iff : (casework.answer change).isOk = true ↔ MakeRoute change.gates := by
  by_cases made : MakeRoute change.gates
  · rw [answer_of_makeRoute made]
    exact iff_of_true rfl made
  · obtain ⟨reason, refused⟩ := RouteTable.configure_of_not_makeRoute casework.routes made
    rw [answer, refused]
    exact iff_of_false Bool.false_ne_true made

theorem accepted_configure (casework : Casework) (change : RouteChange) (benefitType : String) :
    (casework.move (.configure change)).accepted benefitType =
      casework.accepted benefitType +
        if change.benefitType = benefitType ∧ (casework.answer change).isOk then 1 else 0 := by
  simp only [accepted, move, List.countP_append, List.countP_singleton, Bool.and_eq_true,
    beq_iff_eq]

/-- An accepted change of a type raises its next revision, and nothing else does. -/
theorem nextRevision_move {step : OfficeMove} {benefitType : String}
    (counted : casework.routes.nextRevision benefitType =
      UInt32.ofNat (casework.accepted benefitType + 1)) :
    (casework.move step).routes.nextRevision benefitType =
      UInt32.ofNat ((casework.move step).accepted benefitType + 1) := by
  cases step with
  | configure change =>
      rw [accepted_configure]
      simp only [move]
      by_cases own : change.benefitType = benefitType
      · subst own
        by_cases made : MakeRoute change.gates
        · rw [RouteTable.nextRevision_changedBy_self _ made, counted,
            if_pos ⟨rfl, isOk_answer_iff.mpr made⟩, UInt32.ofNat_add (_ + 1)]
          rfl
        · rw [RouteTable.changedBy_of_not_makeRoute _ made, counted,
            if_neg fun both => made (isOk_answer_iff.mp both.2)]
      · rw [RouteTable.nextRevision_changedBy_of_ne _ (Ne.symm own), counted,
          if_neg fun both => own both.1]
  | begin id new call eventId =>
      simp only [move]
      split <;> exact counted
  | attempt place attempt => exact counted

/-- Revisions count the accepted changes. They are words, so the count may come
round. -/
theorem nextRevision_run (moves : List OfficeMove) (benefitType : String) :
    (start.run moves).routes.nextRevision benefitType =
      UInt32.ofNat ((start.run moves).accepted benefitType + 1) := by
  induction moves using List.reverseRecOn with
  | nil => rfl
  | append_singleton moves last inductionHypothesis =>
      rw [run_append_singleton]
      exact nextRevision_move inductionHypothesis

/-- The routes on offer come from the changes alone. -/
theorem routes_run (moves : List OfficeMove) :
    (start.run moves).routes = .configured (moves.filterMap OfficeMove.change?) := by
  induction moves using List.reverseRecOn with
  | nil => rfl
  | append_singleton moves last inductionHypothesis =>
      rw [run_append_singleton, List.filterMap_append]
      cases last with
      | configure change =>
          rw [show [OfficeMove.configure change].filterMap OfficeMove.change? = [change] from rfl,
            RouteTable.configured_append_singleton, ← inductionHypothesis]
          rfl
      | begin id new call eventId =>
          have silent : [OfficeMove.begin id new call eventId].filterMap OfficeMove.change? = [] :=
            rfl
          rw [silent, List.append_nil, ← inductionHypothesis]
          simp only [move]
          split <;> rfl
      | attempt place attempt =>
          rw [show [OfficeMove.attempt place attempt].filterMap OfficeMove.change? = [] from rfl,
            List.append_nil, ← inductionHypothesis]
          rfl

/-- What is on offer makes a route. -/
theorem makeRoute_of_resolve {moves : List OfficeMove} {benefitType : String} {route : Route}
    (offered : (start.run moves).routes.resolve benefitType = .ok route) :
    MakeRoute route.gates := by
  have stored : (start.run moves).routes.get? benefitType = some route := by
    unfold RouteTable.resolve at offered
    split at offered
    · rename_i found
      cases offered
      exact found
    · cases offered
  rw [routes_run] at stored
  exact Route.check_eq_ok_iff.mp (RouteTable.check_of_configured stored)

/-- Below the largest word the revision of an accepted change is the number of those
accepted so far, with it. -/
theorem revision_of_answer {moves : List OfficeMove} {revision : UInt32}
    (few : (start.run moves).asked change.benefitType + 1 < UInt32.size)
    (accepted : (start.run moves).answer change = .ok revision) :
    revision.toNat = (start.run moves).accepted change.benefitType + 1 := by
  have notMore := (start.run moves).accepted_le_asked change.benefitType
  rw [answer_of_makeRoute (isOk_answer_iff.mp (congrArg Except.isOk accepted)),
    nextRevision_run] at accepted
  obtain rfl := Except.ok.inj accepted
  exact UInt32.toNat_ofNat_of_lt' (by omega)

/-- An accepted change puts its gates on offer. -/
theorem resolve_of_answer {revision : UInt32} (accepted : casework.answer change = .ok revision) :
    (casework.move (.configure change)).routes.resolve change.benefitType =
      .ok ⟨change.benefitType, revision, change.gates, none⟩ := by
  have made : MakeRoute change.gates := isOk_answer_iff.mp (congrArg Except.isOk accepted)
  rw [answer_of_makeRoute made] at accepted
  obtain rfl := Except.ok.inj accepted
  simp only [move, RouteTable.changedBy_of_makeRoute _ made, RouteTable.resolve,
    Table.get?_set_self, RouteTable.offer]

theorem resolve_configure_of_ne {other : String} (different : other ≠ change.benefitType) :
    (casework.move (.configure change)).routes.resolve other = casework.routes.resolve other := by
  simp only [move, RouteTable.resolve, RouteTable.get?_changedBy_of_ne _ different]

/-- A refused change changes nothing. -/
theorem routes_configure_of_error {reason : RouteError}
    (refused : casework.answer change = .error reason) :
    (casework.move (.configure change)).routes = casework.routes := by
  refine RouteTable.changedBy_of_not_makeRoute _ fun made => ?_
  rw [answer_of_makeRoute made] at refused
  cases refused

end Changes

/-! ### Requests -/

section Requests

variable {casework : Casework} {place : Nat} {request : Request}

/-- A request stays in its place, as it was opened. -/
theorem exists_asOpened_move (found : casework.requests[place]? = some request)
    (step : OfficeMove) :
    ∃ kept, (casework.move step).requests[place]? = some kept ∧
      kept.asOpened = request.asOpened := by
  cases step with
  | configure change => exact ⟨request, found, rfl⟩
  | begin id new call eventId =>
      simp only [move]
      split
      · rename_i opened opening _
        have inPlace : (casework.requests ++ [opened])[place]? = some request := by
          rw [List.getElem?_append_left (List.getElem?_eq_some_iff.mp found).1, found]
        exact ⟨request, inPlace, rfl⟩
      · exact ⟨request, found, rfl⟩
  | attempt worked attempt =>
      simp only [move]
      by_cases same : worked = place
      · subst same
        refine ⟨(request.outcomeOf attempt).request, ?_, request.asOpened_outcomeOf attempt⟩
        rw [List.getElem?_modify_eq, found]
        rfl
      · exact ⟨request, by rw [List.getElem?_modify_ne _ _ same, found], rfl⟩

theorem exists_asOpened_run (found : casework.requests[place]? = some request)
    (moves : List OfficeMove) :
    ∃ kept, (casework.run moves).requests[place]? = some kept ∧
      kept.asOpened = request.asOpened := by
  induction moves generalizing casework request with
  | nil => exact ⟨request, found, rfl⟩
  | cons step rest inductionHypothesis =>
      obtain ⟨next, inPlace, same⟩ := exists_asOpened_move found step
      obtain ⟨kept, inPlaceLater, sameLater⟩ := inductionHypothesis inPlace
      exact ⟨kept, inPlaceLater, sameLater.trans same⟩

/-- A request that is opened is filed behind the others and stays as it was opened. -/
theorem exists_asOpened_begin {id eventId : Identifier} {new : NewRequest} {call : Call}
    {opening : List Event}
    (opened : Request.begin id new casework.routes call eventId = .ok (request, opening)) :
    ∃ route, casework.routes.resolve new.benefitType = .ok route ∧
      ∀ later, ∃ kept, ((casework.move (.begin id new call eventId)).run later).requests[
          casework.requests.length]? = some kept ∧
        kept.asOpened = ⟨id, new.beneficiary, new.requester, new.benefitType, new.origin,
          route.pinned call.moment, call.caller.user, call.moment⟩ := by
  obtain ⟨route, offered, asDraft, -⟩ := Request.exists_of_begin opened
  refine ⟨route, offered, fun later => ?_⟩
  have filed : (casework.move (.begin id new call eventId)).requests[casework.requests.length]? =
      some request := by
    simp only [move, opened, List.getElem?_concat_length]
  obtain ⟨kept, inPlace, same⟩ := exists_asOpened_run filed later
  exact ⟨kept, inPlace, same.trans (congrArg Request.asOpened asDraft)⟩

end Requests

end Casework

/-- In an office at work a change of a route is accepted exactly when its gates make
one; it then gets the number behind the changes accepted before it for its type and
is what is on offer for that type alone, and a refused one changes nothing. What is on
offer has at most one triage gate, and its approval gates stand behind it in a row.
A request keeps the route that was on offer when it was opened, and all else that it
was opened with, whatever is configured or attempted later. -/
theorem requests_keep_their_route (moves : List OfficeMove) :
    let office := Casework.start.run moves
    (∀ change : RouteChange, office.asked change.benefitType + 1 < UInt32.size →
      let after := office.move (.configure change)
      ((office.answer change).isOk = true ↔ MakeRoute change.gates) ∧
        (∀ revision, office.answer change = .ok revision →
          revision.toNat = office.accepted change.benefitType + 1 ∧
            after.routes.resolve change.benefitType =
              .ok ⟨change.benefitType, revision, change.gates, none⟩ ∧
            ∀ other, other ≠ change.benefitType →
              after.routes.resolve other = office.routes.resolve other) ∧
        ∀ reason, office.answer change = .error reason → after.routes = office.routes) ∧
    (∀ benefitType route, office.routes.resolve benefitType = .ok route →
      (∃ (triage : Option Gate) (approvals : List Gate), route.gates = triage.toList ++ approvals ∧
        (∀ gate ∈ triage, gate.kind = .triage) ∧
        (∀ gate ∈ approvals, gate.kind = .approval) ∧ approvals ≠ []) ∧
      ∀ place, route.approvalGate? place =
        if route.hasTriage then route.gates[place + 1]? else route.gates[place]?) ∧
    ∀ id new call eventId request opening,
      Request.begin id new office.routes call eventId = .ok (request, opening) →
        ∃ route, office.routes.resolve new.benefitType = .ok route ∧
          ∀ later, ∃ kept,
            ((office.move (.begin id new call eventId)).run later).requests[
              office.requests.length]? = some kept ∧
            kept.asOpened = ⟨id, new.beneficiary, new.requester, new.benefitType, new.origin,
              route.pinned call.moment, call.caller.user, call.moment⟩ := by
  intro office
  refine ⟨fun change few => ⟨Casework.isOk_answer_iff, fun revision accepted => ?_, ?_⟩, ?_, ?_⟩
  · exact ⟨Casework.revision_of_answer few accepted, Casework.resolve_of_answer accepted,
      fun other different => Casework.resolve_configure_of_ne different⟩
  · intro reason refused
    exact Casework.routes_configure_of_error refused
  · intro benefitType route offered
    have made := Casework.makeRoute_of_resolve offered
    exact ⟨made.shape, made.approvalGate?_eq⟩
  · intro id new call eventId request opening opened
    exact Casework.exists_asOpened_begin opened

namespace Sample

/-- The changes of one benefit type, of which the second is refused. -/
def configuring : List OfficeMove := changes.map .configure

/-- A triage gate in front of the gates. -/
def triaged : RouteChange := ⟨"food_basket", ⟨"reception", .triage, [.unitTechnician]⟩ :: gates⟩

/-- The route is changed behind the opening, and the request is worked on. -/
def worked : List OfficeMove := .configure triaged :: secondRound.map (.attempt 0)

end Sample

/-- The third change of a route is the second that is accepted, and the request that
was opened before it keeps the first. -/
theorem open_request_keeps_the_first_route :
    let office := Casework.start.run Sample.configuring
    let later := (office.move (.begin (.numbered 5) Sample.newRequest Sample.call
      (.numbered 6))).run Sample.worked
    office.asked "food_basket" = 2 ∧
      office.answer Sample.triaged = .ok 2 ∧
      (office.move (.configure Sample.triaged)).routes.resolve "food_basket" =
        .ok ⟨"food_basket", 2, Sample.triaged.gates, none⟩ ∧
      Request.begin (.numbered 5) Sample.newRequest office.routes Sample.call (.numbered 6) =
        .ok (Sample.opened, [Sample.opening]) ∧
      ∃ kept, later.requests[0]? = some kept ∧ kept.status = .inAnalysis ∧
        kept.route = ⟨"food_basket", 1, Sample.gates, some .newYear2025⟩ := by
  intro office later
  have asked : office.asked "food_basket" = 2 := by decide +kernel
  have few : office.asked Sample.triaged.benefitType + 1 < UInt32.size := by decide +kernel
  have answered : office.answer Sample.triaged = .ok 2 := by decide +kernel
  have opened : Request.begin (.numbered 5) Sample.newRequest office.routes Sample.call
      (.numbered 6) = .ok (Sample.opened, [Sample.opening]) := rfl
  have first : office.routes.resolve "food_basket" =
      .ok ⟨"food_basket", 1, Sample.gates, none⟩ := rfl
  obtain ⟨changed, -, opens⟩ := requests_keep_their_route Sample.configuring
  obtain ⟨-, accepted, -⟩ := changed Sample.triaged few
  obtain ⟨-, onOffer, -⟩ := accepted 2 answered
  obtain ⟨route, offered, keeps⟩ := opens _ _ _ _ _ _ opened
  obtain ⟨kept, inPlace, asOpened⟩ := keeps Sample.worked
  have filed : later.requests[0]? = some kept := inPlace
  have reviewed : later.requests[0]?.map Request.status = some .inAnalysis := by decide +kernel
  rw [filed] at reviewed
  obtain rfl : _ = route := Except.ok.inj (first.symm.trans offered)
  exact ⟨asked, answered, onOffer, opened, kept, filed, Option.some.inj reviewed,
    congrArg OpenedAs.route asOpened⟩

end BenefitCasework
