import BenefitCasework.Proofs.Request.Consequence
import BenefitCasework.Proofs.RouteOffers
import Mathlib.Data.List.DropRight
import Mathlib.Data.List.Induction

/-!
Contract: runs of operations on one request.

Owns:
- `Attempt`, an operation with the call, the collaborators and the identifiers
  that it meets, and `Turn`, an attempt with the request that it met;
- `Request.after` and `Request.turns`, the request and the turns of a run in
  which attempts are made one after the other, accepted or refused;
- `exists_of_begin`, what a run starts from;
- `run_induction`, which carries a statement about request and turns through a
  run, one case for accepted and one for refused attempts.

It ends with a small case, `Sample`, on which statements can be tried. Does not
own: what runs keep.
-/

namespace BenefitCasework

/-- An operation that is asked for, with all that it meets besides the request. -/
structure Attempt where
  operation : Operation
  call : Call
  office : Office
  fresh : Nat → Identifier

/-- An attempt with the request that it met. -/
structure Turn where
  before : Request
  attempt : Attempt

namespace Request

/-- What an attempt leads to. -/
def outcomeOf (request : Request) (attempt : Attempt) : Outcome :=
  request.apply attempt.operation attempt.call attempt.office attempt.fresh

/-- The request after attempts, one after the other. -/
def after (request : Request) (attempts : List Attempt) : Request :=
  attempts.foldl (fun reached attempt => (reached.outcomeOf attempt).request) request

/-- The attempts, each with the request that it met. -/
def turns (request : Request) : List Attempt → List Turn
  | [] => []
  | attempt :: rest => ⟨request, attempt⟩ :: (request.outcomeOf attempt).request.turns rest

end Request

namespace Turn

/-- What the turn led to. -/
def outcome (turn : Turn) : Outcome := turn.before.outcomeOf turn.attempt

/-- The turn is an accepted operation of the name. -/
def acceptedAs (turn : Turn) (name : OperationName) : Bool :=
  turn.outcome.accepted && decide (turn.attempt.operation.name = name)

/-- Who made the attempt. -/
def actor (turn : Turn) : Actor := turn.attempt.call.caller.actor

end Turn

/-- The turns behind the last accepted operation of a name, or all of them. -/
def sinceLast (name : OperationName) (turns : List Turn) : List Turn :=
  turns.rtakeWhile fun turn => !turn.acceptedAs name

namespace Request

/-- Nothing stands against an attempt. -/
def AdmitsAttempt (request : Request) (attempt : Attempt) : Prop :=
  request.Admits attempt.operation attempt.call attempt.office

/-- What an accepted attempt makes of a request. -/
def carriedOutBy (request : Request) (attempt : Attempt) : Request :=
  request.carriedOut attempt.operation attempt.call attempt.office attempt.fresh

theorem outcomeOf_of_admits {request : Request} {attempt : Attempt}
    (admitted : request.AdmitsAttempt attempt) :
    request.outcomeOf attempt = ⟨request.carriedOutBy attempt,
      .ok (request.eventsOf attempt.operation attempt.call attempt.office attempt.fresh)⟩ :=
  apply_of_admits attempt.call attempt.office attempt.fresh admitted

theorem accepted_outcomeOf_iff {request : Request} {attempt : Attempt} :
    (request.outcomeOf attempt).accepted = true ↔ request.AdmitsAttempt attempt :=
  accepted_apply_iff attempt.call attempt.office attempt.fresh

theorem request_outcomeOf_of_not_admits {request : Request} {attempt : Attempt}
    (refused : ¬ request.AdmitsAttempt attempt) :
    (request.outcomeOf attempt).request = request := by
  obtain ⟨reason, equal⟩ :=
    apply_of_not_admits attempt.call attempt.office attempt.fresh refused
  rw [outcomeOf, equal]
  rfl

@[simp]
theorem after_append_singleton (request : Request) (attempts : List Attempt) (last : Attempt) :
    request.after (attempts ++ [last]) = ((request.after attempts).outcomeOf last).request := by
  simp [after]

@[simp]
theorem turns_append_singleton (request : Request) (attempts : List Attempt) (last : Attempt) :
    request.turns (attempts ++ [last]) =
      request.turns attempts ++ [⟨request.after attempts, last⟩] := by
  induction attempts generalizing request with
  | nil => rfl
  | cons attempt rest inductionHypothesis =>
      simp only [List.cons_append, turns, inductionHypothesis]
      rfl

/-- What `begin` opens is a draft on the route that is on offer, and its opening is
all that has been announced. -/
theorem exists_of_begin {routes : RouteTable} {id eventId : Identifier} {new : NewRequest}
    {call : Call} {request : Request} {opening : List Event}
    (opened : begin id new routes call eventId = .ok (request, opening)) :
    ∃ route, routes.resolve new.benefitType = .ok route ∧
      request = { draft id new route call with eventSequence := 1 } ∧
      opening = [⟨eventId, id, 1, call.caller.correlation, call.moment,
        .created new.benefitType new.beneficiary new.requester new.origin route.revision⟩] := by
  unfold begin at opened
  split at opened
  · cases opened
  · split at opened
    · cases opened
    · rename_i route offered
      cases opened
      exact ⟨route, offered, rfl, rfl⟩

/-- Carries a statement about the request and the turns so far through a run. -/
theorem run_induction {holds : Request → List Turn → Prop} {request : Request}
    (start : holds request [])
    (accepted : ∀ reached turns attempt, holds reached turns → reached.AdmitsAttempt attempt →
      holds (reached.carriedOutBy attempt) (turns ++ [⟨reached, attempt⟩]))
    (refused : ∀ reached turns attempt, holds reached turns → ¬ reached.AdmitsAttempt attempt →
      holds reached (turns ++ [⟨reached, attempt⟩]))
    (attempts : List Attempt) : holds (request.after attempts) (request.turns attempts) := by
  induction attempts using List.reverseRecOn with
  | nil => exact start
  | append_singleton attempts last inductionHypothesis =>
      rw [after_append_singleton, turns_append_singleton]
      by_cases admitted : (request.after attempts).AdmitsAttempt last
      · rw [outcomeOf_of_admits admitted]
        exact accepted _ _ last inductionHypothesis admitted
      · rw [request_outcomeOf_of_not_admits admitted]
        exact refused _ _ last inductionHypothesis admitted

end Request

section SinceLast

variable {turns : List Turn} {turn : Turn} {name : OperationName}

theorem acceptedAs_iff : turn.acceptedAs name = true ↔
    turn.before.AdmitsAttempt turn.attempt ∧ turn.attempt.operation.name = name := by
  simp [Turn.acceptedAs, Turn.outcome, Request.accepted_outcomeOf_iff]

theorem sinceLast_append_of_acceptedAs (last : turn.acceptedAs name = true) :
    sinceLast name (turns ++ [turn]) = [] := by
  simp [sinceLast, last]

theorem sinceLast_append_of_not_acceptedAs (other : turn.acceptedAs name = false) :
    sinceLast name (turns ++ [turn]) = sinceLast name turns ++ [turn] := by
  simp [sinceLast, other]

end SinceLast

/-! ### A small case -/

namespace Sample

/-- An admin calls. -/
def call : Call :=
  ⟨⟨⟨.numbered 1, .ofList [.admin], .numbered 2⟩, none, none, .numbered 3⟩, .newYear2025⟩

/-- A grown person asks for a benefit. -/
def newRequest : NewRequest :=
  ⟨⟨.numbered 4, "Ana", ⟨1980, 5, 1, by decide⟩⟩, ⟨.numbered 4, none⟩, "food_basket", .inPerson⟩

/-- Two approval gates. -/
def gates : List Gate :=
  [⟨"review", .approval, [.technicalReviewer]⟩, ⟨"board", .approval, [.manager]⟩]

/-- One benefit type is configured, the second time in vain. -/
def changes : List RouteChange := [⟨"food_basket", gates⟩, ⟨"food_basket", []⟩]

/-- The request opened on the route of that type. -/
def opened : Request :=
  { Request.draft (.numbered 5) newRequest ⟨"food_basket", 1, gates, none⟩ call with
    eventSequence := 1 }

/-- The announcement of the opening. -/
def opening : Event :=
  ⟨.numbered 6, .numbered 5, 1, .numbered 3, .newYear2025,
    .created "food_basket" newRequest.beneficiary newRequest.requester .inPerson 1⟩

/-- An attempt by the admin; no document is demanded and no channel on record. -/
def attempt (operation : Operation) (drawn : Nat) : Attempt :=
  ⟨operation, call, .demanding [] [], .fresh drawn⟩

/-- A review that is started over, up to the first of two approvals. -/
def secondRound : List Attempt :=
  [attempt .submit 10, attempt .approve 11, attempt (.recordOpinion "plausible") 12,
    attempt .approve 13, attempt (.pend "unclear" ["proof of address"]) 20, attempt .resubmit 30,
    attempt (.resolvePendency (.fresh 20 0) "seen") 31, attempt .resubmit 32,
    attempt (.recordOpinion "confirmed") 33, attempt .approve 34]

end Sample

end BenefitCasework
