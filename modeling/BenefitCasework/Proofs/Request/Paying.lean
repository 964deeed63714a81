import BenefitCasework.Proofs.Request.Announcements
import BenefitCasework.Proofs.Request.Walk
import Mathlib.Data.List.Forall2

/-!
Contract: a request is paid out once, and what was paid is not taken back.

Owns:
- `Turn.Pays`, a turn that paid out what a record says;
- `releasesTold`, the payments that events tell of;
- `Paid`, what holds of a request, its turns and its events: the record, the
  status, the accepted releases and the announcements say the same;
- the steps that keep it, and `paid_out_at_most_once`.

Payment channels come and go between the turns, since each attempt meets its own
office. Does not own: who may release.
-/

namespace BenefitCasework

/-- Money has been handed over in this status. -/
def Status.isPaid : Status → Bool
  | .released => true
  | .completed => true
  | _ => false

theorem Status.isPaid_iff {status : Status} :
    status.isPaid = true ↔ status = .released ∨ status = .completed := by
  cases status <;> simp [isPaid]

theorem Status.ne_completed_of_unpaid {status : Status} (unpaid : status.isPaid = false) :
    status ≠ .completed := by
  rintro rfl
  cases unpaid

def EventPayload.release? : EventPayload → Option (Payment × PaymentChannel)
  | .released payment channel => some (payment, channel)
  | _ => none

/-- The payments that events tell of, each with its channel. -/
def releasesTold (events : List Event) : List (Payment × PaymentChannel) :=
  events.filterMap fun event => event.payload.release?

/-- The turn paid out what the record says: more than nothing, and to the channel
that was then on record for the citizen. -/
structure Turn.Pays (citizen : Identifier) (turn : Turn) (record : Release) : Prop where
  asked : turn.attempt.operation = .release record.payment
  positive : 0 < record.payment.cents.toNat
  channel : turn.attempt.office.channels.get? citizen = some record.channel
  user : record.user = turn.attempt.call.caller.user
  moment : record.moment = turn.attempt.call.moment
  written : turn.outcome.request.release = some record
  told : turn.outcome.events.map Event.payload = [.released record.payment record.channel]

/-- Turns that released something. -/
def releasesOf (turns : List Turn) : List Turn :=
  turns.filter fun turn => turn.acceptedAs .release

/-- Record, status, turns and events of a request agree on what was paid. -/
structure Paid (citizen : Identifier) (request : Request) (turns : List Turn)
    (events : List Event) : Prop where
  beneficiary : request.beneficiary.citizen = citizen
  recorded : request.release.isSome = request.status.isPaid
  delivered : request.deliveryNote.isSome = decide (request.status = .completed)
  turns : List.Forall₂ (Turn.Pays citizen) (releasesOf turns) request.release.toList
  events : releasesTold events =
    request.release.toList.map fun record => (record.payment, record.channel)

/-! ### One operation -/

namespace Request

variable {request : Request} {operation : Operation}

/-- Only a release writes the record of a release. -/
theorem release_prepared (other : operation.name ≠ .release) (call : Call) (office : Office)
    (fresh : Nat → Identifier) :
    (request.prepared operation call office fresh).release = request.release := by
  cases operation with
  | release payment => exact absurd rfl other
  | resolvePendency pendency note =>
      simp only [prepared]
      split <;> rfl
  | _ => rfl

/-- Only a completion notes the delivery. -/
theorem deliveryNote_prepared (other : operation.name ≠ .complete) (call : Call) (office : Office)
    (fresh : Nat → Identifier) :
    (request.prepared operation call office fresh).deliveryNote = request.deliveryNote := by
  cases operation with
  | complete note => exact absurd rfl other
  | resolvePendency pendency note =>
      simp only [prepared]
      split <;> rfl
  | release payment =>
      simp only [prepared]
      split <;> rfl
  | _ => rfl

/-- A release pays an approved request and a completion ends a released one. All
other operations stay where nothing has been paid. -/
theorem isPaid_path (allowed : request.status ∈ operation.allowedFrom) :
    match operation.name with
    | .release => request.status = .approved ∧
        (request.path operation).getLastD request.status = .released
    | .complete => request.status = .released ∧
        (request.path operation).getLastD request.status = .completed
    | _ => request.status.isPaid = false ∧
        ((request.path operation).getLastD request.status).isPaid = false := by
  cases operation with
  | submit =>
      simp only [Operation.allowedFrom, List.mem_singleton] at allowed
      simp only [Operation.name, path, allowed]
      split <;> exact ⟨rfl, rfl⟩
  | approve =>
      simp only [Operation.allowedFrom, List.mem_singleton] at allowed
      simp only [Operation.name, path, allowed]
      split <;> exact ⟨rfl, rfl⟩
  | cancel reason =>
      simp only [Operation.allowedFrom, List.mem_cons, List.not_mem_nil, or_false] at allowed
      rcases allowed with same | same | same | same | same <;> simp only [same] <;>
        exact ⟨rfl, rfl⟩
  | attachDocument documentType =>
      simp only [Operation.allowedFrom, List.mem_cons, List.not_mem_nil, or_false] at allowed
      rcases allowed with same | same | same | same <;> rw [path, List.getLastD_nil, same] <;>
        exact ⟨rfl, rfl⟩
  | release payment => exact ⟨by simpa [Operation.allowedFrom] using allowed, rfl⟩
  | complete note => exact ⟨by simpa [Operation.allowedFrom] using allowed, rfl⟩
  | _ =>
      simp only [Operation.allowedFrom, List.mem_singleton] at allowed
      simp only [allowed]
      exact ⟨rfl, rfl⟩

end Request

/-! ### All turns -/

theorem releasesTold_append (front back : List Event) :
    releasesTold (front ++ back) = releasesTold front ++ releasesTold back :=
  List.filterMap_append

theorem releasesTold_eq (events : List Event) :
    releasesTold events = (events.map Event.payload).filterMap EventPayload.release? := by
  rw [List.filterMap_map]
  rfl

theorem releasesOf_append_of_accepted {turns : List Turn} {last : Turn}
    (released : last.acceptedAs .release = true) :
    releasesOf (turns ++ [last]) = releasesOf turns ++ [last] := by
  simp [releasesOf, released]

theorem releasesOf_append_of_not_accepted {turns : List Turn} {last : Turn}
    (other : last.acceptedAs .release = false) :
    releasesOf (turns ++ [last]) = releasesOf turns := by
  simp [releasesOf, other]

/-- Only a release is announced as one. -/
theorem Request.releasesTold_eventsOf {request : Request} {operation : Operation}
    (other : operation.name ≠ .release) (call : Call) (office : Office)
    (fresh : Nat → Identifier) :
    releasesTold (request.eventsOf operation call office fresh) = [] := by
  unfold eventsOf
  split
  · rfl
  · rename_i payload told
    have inverted := operation_of_announcement told
    cases payload with
    | released payment channel => exact absurd (congrArg Operation.name inverted) other
    | _ => rfl

/-- An accepted release writes and announces a record of what it paid. -/
theorem Turn.pays_of_admits {reached : Request} {payment : Payment} {call : Call}
    {office : Office} {fresh : Nat → Identifier}
    (admitted : reached.Admits (.release payment) call office) :
    ∃ record,
      (reached.carriedOut (.release payment) call office fresh).release = some record ∧
      Turn.Pays reached.beneficiary.citizen ⟨reached, ⟨.release payment, call, office, fresh⟩⟩
        record := by
  obtain ⟨channel, found⟩ : ∃ channel,
      office.channels.get? reached.beneficiary.citizen = some channel := by
    have checked := admitted.2
    cases found : office.channels.get? reached.beneficiary.citizen with
    | some channel => exact ⟨channel, rfl⟩
    | none => simp [Request.checkOffice, found] at checked
  have outcome : Turn.outcome ⟨reached, ⟨.release payment, call, office, fresh⟩⟩ =
      ⟨reached.carriedOut (.release payment) call office fresh,
        .ok (reached.eventsOf (.release payment) call office fresh)⟩ :=
    Request.apply_of_admits call office fresh admitted
  have written : (reached.carriedOut (.release payment) call office fresh).release =
      some ⟨payment, channel, call.caller.user, call.moment⟩ := by
    rw [Request.release_carriedOut, Request.prepared, found]
  refine ⟨_, written, rfl, ?_, found, rfl, rfl, by rw [outcome]; exact written, ?_⟩
  · have rule := (Permission.decide_eq_ok_iff.mp admitted.1).2.2
    simp only [Permission.checkRule] at rule
    split at rule
    · cases rule
    · rename_i some
      exact Nat.pos_of_ne_zero fun none => some (UInt64.toNat_inj.mp none)
  · rw [outcome]
    simp [Outcome.events, Request.eventsOf, Request.announcement?, found]

namespace Paid

variable {citizen : Identifier} {reached : Request} {turns : List Turn} {events : List Event}
  {attempt : Attempt}

/-- In a status in which nothing has been paid, nothing was released. -/
theorem release_eq_none (paid : Paid citizen reached turns events)
    (unpaid : reached.status.isPaid = false) : reached.release = none := by
  have recorded := paid.recorded
  rw [unpaid] at recorded
  exact Option.isSome_eq_false_iff.mp recorded |> Option.isNone_iff_eq_none.mp

/-- An accepted release, the first one. -/
theorem append_release (paid : Paid citizen reached turns events)
    (admitted : reached.AdmitsAttempt attempt) {payment : Payment}
    (asked : attempt.operation = .release payment) :
    Paid citizen (reached.carriedOutBy attempt) (turns ++ [⟨reached, attempt⟩])
      (events ++ (Turn.outcome ⟨reached, attempt⟩).events) := by
  have accepted : Turn.acceptedAs ⟨reached, attempt⟩ .release = true :=
    acceptedAs_iff.mpr ⟨admitted, by rw [asked]; rfl⟩
  obtain ⟨operation, call, office, fresh⟩ := attempt
  obtain rfl : operation = .release payment := asked
  obtain ⟨approved, released⟩ :=
    Request.isPaid_path (Permission.decide_eq_ok_iff.mp admitted.1).1
  have status : (reached.carriedOut (.release payment) call office fresh).status = .released :=
    (Request.status_carriedOut ..).trans released
  obtain ⟨record, written, pays⟩ := Turn.pays_of_admits admitted
  have nothingTold := paid.events
  have noTurn := paid.turns
  have undelivered := paid.delivered
  rw [paid.release_eq_none (by rw [approved]; rfl)] at nothingTold noTurn
  rw [approved] at undelivered
  refine ⟨(Request.beneficiary_carriedOut ..).symm ▸ paid.beneficiary, ?_, ?_, ?_, ?_⟩
  · rw [Request.carriedOutBy, written, status]
    rfl
  · rw [Request.carriedOutBy, Request.deliveryNote_carriedOut,
      Request.deliveryNote_prepared (by simp [Operation.name]), undelivered, status]
    rfl
  · rw [releasesOf_append_of_accepted accepted, List.forall₂_nil_right_iff.mp noTurn,
      Request.carriedOutBy, written]
    exact .cons (paid.beneficiary ▸ pays) .nil
  · rw [releasesTold_append, nothingTold, Request.carriedOutBy, written, releasesTold_eq, pays.told]
    rfl

/-- A turn that releases nothing. -/
theorem append_other (paid : Paid citizen reached turns events) {next : Request} {turn : Turn}
    (other : turn.acceptedAs .release = false) (silent : releasesTold turn.outcome.events = [])
    (beneficiary : next.beneficiary = reached.beneficiary) (record : next.release = reached.release)
    (status : next.status.isPaid = reached.status.isPaid)
    (delivered : next.deliveryNote.isSome = decide (next.status = .completed)) :
    Paid citizen next (turns ++ [turn]) (events ++ turn.outcome.events) where
  beneficiary := by rw [beneficiary, paid.beneficiary]
  recorded := by rw [record, status, paid.recorded]
  delivered := delivered
  turns := by
    rw [releasesOf_append_of_not_accepted other, record]
    exact paid.turns
  events := by rw [releasesTold_append, silent, List.append_nil, record, paid.events]

/-- An accepted completion, behind the release. -/
theorem append_complete (paid : Paid citizen reached turns events)
    (admitted : reached.AdmitsAttempt attempt) {note : String}
    (asked : attempt.operation = .complete note) :
    Paid citizen (reached.carriedOutBy attempt) (turns ++ [⟨reached, attempt⟩])
      (events ++ (Turn.outcome ⟨reached, attempt⟩).events) := by
  obtain ⟨operation, call, office, fresh⟩ := attempt
  obtain rfl : operation = .complete note := asked
  obtain ⟨released, completed⟩ :=
    Request.isPaid_path (Permission.decide_eq_ok_iff.mp admitted.1).1
  have status : (reached.carriedOut (.complete note) call office fresh).status = .completed :=
    (Request.status_carriedOut ..).trans completed
  apply paid.append_other
  · exact Bool.eq_false_iff.mpr fun accepted => nomatch (acceptedAs_iff.mp accepted).2
  · rw [Turn.events_outcome_of_admits admitted]
    rfl
  · exact Request.beneficiary_carriedOut ..
  · exact Request.release_carriedOut ..
  · rw [Request.carriedOutBy, status, released]
    rfl
  · rw [Request.carriedOutBy, status, Request.deliveryNote_carriedOut]
    rfl

/-- An accepted operation that neither releases nor completes. -/
theorem append_unpaid (paid : Paid citizen reached turns events)
    (admitted : reached.AdmitsAttempt attempt) (noRelease : attempt.operation.name ≠ .release)
    (noComplete : attempt.operation.name ≠ .complete) :
    Paid citizen (reached.carriedOutBy attempt) (turns ++ [⟨reached, attempt⟩])
      (events ++ (Turn.outcome ⟨reached, attempt⟩).events) := by
  obtain ⟨before, behind⟩ : reached.status.isPaid = false ∧
      (reached.carriedOutBy attempt).status.isPaid = false := by
    have path := Request.isPaid_path (Permission.decide_eq_ok_iff.mp admitted.1).1
    rw [Request.carriedOutBy, Request.status_carriedOut]
    split at path
    · exact absurd ‹_› noRelease
    · exact absurd ‹_› noComplete
    · exact path
  apply paid.append_other
  · exact Bool.eq_false_iff.mpr fun accepted => noRelease (acceptedAs_iff.mp accepted).2
  · rw [Turn.events_outcome_of_admits admitted]
    exact Request.releasesTold_eventsOf noRelease ..
  · exact Request.beneficiary_carriedOut ..
  · rw [Request.carriedOutBy, Request.release_carriedOut, Request.release_prepared noRelease]
  · rw [before, behind]
  · rw [Request.carriedOutBy, Request.deliveryNote_carriedOut,
      Request.deliveryNote_prepared noComplete, paid.delivered, ← Request.carriedOutBy,
      decide_eq_false (Status.ne_completed_of_unpaid before),
      decide_eq_false (Status.ne_completed_of_unpaid behind)]

theorem append_refused (paid : Paid citizen reached turns events)
    (refused : ¬ reached.AdmitsAttempt attempt) :
    Paid citizen reached (turns ++ [⟨reached, attempt⟩])
      (events ++ (Turn.outcome ⟨reached, attempt⟩).events) := by
  apply paid.append_other _ _ rfl rfl rfl paid.delivered
  · exact Bool.eq_false_iff.mpr fun accepted => refused (acceptedAs_iff.mp accepted).1
  · rw [Turn.events_outcome_of_not_admits refused]
    rfl

end Paid

/-- What `begin` opens has paid nothing. -/
theorem paid_begin {routes : RouteTable} {id eventId : Identifier} {new : NewRequest}
    {call : Call} {request : Request} {opening : List Event}
    (opened : Request.begin id new routes call eventId = .ok (request, opening)) :
    Paid new.beneficiary.citizen request [] opening := by
  obtain ⟨route, -, rfl, rfl⟩ := Request.exists_of_begin opened
  exact ⟨rfl, rfl, rfl, .nil, rfl⟩

theorem paid_run {routes : RouteTable} {id eventId : Identifier} {new : NewRequest}
    {call : Call} {request : Request} {opening : List Event}
    (opened : Request.begin id new routes call eventId = .ok (request, opening))
    (attempts : List Attempt) :
    Paid new.beneficiary.citizen (request.after attempts) (request.turns attempts)
      (opening ++ announced (request.turns attempts)) := by
  refine @Request.run_induction
    (fun reached turns => Paid new.beneficiary.citizen reached turns (opening ++ announced turns))
    _ ?_ ?_ ?_ attempts
  · simpa [announced] using paid_begin opened
  · intro reached turns attempt paid admitted
    rw [announced_append_singleton, ← List.append_assoc]
    cases asked : attempt.operation with
    | release payment => exact paid.append_release admitted asked
    | complete note => exact paid.append_complete admitted asked
    | _ =>
        exact paid.append_unpaid admitted (by simp [asked, Operation.name])
          (by simp [asked, Operation.name])
  · intro reached turns attempt paid refused
    rw [announced_append_singleton, ← List.append_assoc]
    exact paid.append_refused refused

/-! ### After the release -/

namespace Request

variable {request : Request}

/-- Where money has been handed over, only the delivery is left to be confirmed. -/
theorem name_eq_complete_of_isPaid {operation : Operation} (paid : request.status.isPaid = true)
    (allowed : request.status ∈ operation.allowedFrom) : operation.name = .complete := by
  have path := isPaid_path allowed
  split at path
  · rw [path.1] at paid
    cases paid
  · assumption
  · rw [path.1] at paid
    cases paid

/-- The record of a release stays as it is. -/
theorem release_after {record : Release} (released : request.release = some record)
    (paid : request.status.isPaid = true) (attempts : List Attempt) :
    (request.after attempts).release = some record := by
  refine (@run_induction (fun reached _ => reached.release = some record ∧
    reached.status.isPaid = true) request ⟨released, paid⟩ ?_ ?_ attempts).1
  · intro reached turns attempt kept admitted
    have allowed := (Permission.decide_eq_ok_iff.mp admitted.1).1
    have isComplete := name_eq_complete_of_isPaid kept.2 allowed
    have path := isPaid_path allowed
    rw [isComplete] at path
    refine ⟨?_, ?_⟩
    · rw [carriedOutBy, release_carriedOut, release_prepared (by simp [isComplete])]
      exact kept.1
    · rw [carriedOutBy, status_carriedOut, path.2]
      rfl
  · intro reached turns attempt kept refused
    exact kept

theorem decide_complete_eq_ok_iff {note : String} {actor : Actor} :
    Permission.decide .released (.complete note) actor request = .ok () ↔
      actor.holdsAny (Operation.complete note).permittedRoles = true ∧
        Text.isBlank note = false := by
  rw [Permission.decide_eq_ok_iff_of_onlyTable rfl]
  simp [Operation.allowedFrom, Permission.checkRule, Permission.checkNote]

/-- A released request can be completed, by whoever may and with a note that says
something, and nothing else can be done with it. -/
theorem accepted_of_released_iff (released : request.status = .released) {attempt : Attempt} :
    (request.outcomeOf attempt).accepted = true ↔
      ∃ note, attempt.operation = .complete note ∧
        attempt.call.caller.actor.holdsAny (Operation.complete note).permittedRoles = true ∧
        Text.isBlank note = false := by
  obtain ⟨operation, call, office, fresh⟩ := attempt
  rw [accepted_outcomeOf_iff]
  constructor
  · intro admitted
    have permitted := admitted.1
    have isComplete := name_eq_complete_of_isPaid (by rw [released]; rfl)
      (Permission.decide_eq_ok_iff.mp permitted).1
    cases operation with
    | complete note =>
        rw [released] at permitted
        exact ⟨note, rfl, decide_complete_eq_ok_iff.mp permitted⟩
    | _ => cases isComplete
  · rintro ⟨note, rfl, permitted⟩
    refine ⟨?_, rfl⟩
    rw [released]
    exact decide_complete_eq_ok_iff.mpr permitted

end Request

/-- However a request is worked on, and whatever channels come and go, it is
released once at most. The record is there exactly where the request is released
or completed and exactly where one event tells of a release; it says what the
accepted release asked for, more than nothing, with the channel then on record;
and it stays. From then on the request can only be completed, and the delivery is
noted exactly where it is. -/
theorem paid_out_at_most_once {routes : RouteTable} {id eventId : Identifier} {new : NewRequest}
    {call : Call} {request : Request} {opening : List Event}
    (opened : Request.begin id new routes call eventId = .ok (request, opening))
    (attempts : List Attempt) :
    let reached := request.after attempts
    let turns := request.turns attempts
    let events := opening ++ announced turns
    (releasesOf turns).length ≤ 1 ∧ (releasesTold events).length ≤ 1 ∧
      (reached.release.isSome = true ↔
        reached.status = .released ∨ reached.status = .completed) ∧
      (reached.release.isSome = true ↔ (releasesTold events).length = 1) ∧
      (∀ record, reached.release = some record →
        (∃ turn, releasesOf turns = [turn] ∧ turn.Pays new.beneficiary.citizen record) ∧
        releasesTold events = [(record.payment, record.channel)] ∧
        (∀ later, (reached.after later).release = some record) ∧
        ∀ attempt, (reached.outcomeOf attempt).accepted = true →
          attempt.operation.name = .complete) ∧
      (reached.deliveryNote.isSome = true ↔ reached.status = .completed) ∧
      (reached.status = .released → ∀ attempt, (reached.outcomeOf attempt).accepted = true ↔
        ∃ note, attempt.operation = .complete note ∧
          attempt.call.caller.actor.holdsAny [.unitTechnician, .manager, .admin] = true ∧
          Text.isBlank note = false) := by
  intro reached turns events
  have paid : Paid new.beneficiary.citizen reached turns events := paid_run opened attempts
  have few : reached.release.toList.length ≤ 1 := by
    cases reached.release <;> simp
  have told : (releasesTold events).length = reached.release.toList.length := by
    rw [paid.events, List.length_map]
  refine ⟨?_, ?_, ?_, ?_, ?_, ?_, fun released attempt => ?_⟩
  · rw [paid.turns.length_eq]
    exact few
  · rw [told]
    exact few
  · rw [paid.recorded, Status.isPaid_iff]
  · rw [told]
    cases reached.release <;> simp
  · intro record released
    have isPaid : reached.status.isPaid = true := by
      rw [← paid.recorded, released]
      rfl
    have turnsOf := paid.turns
    have eventsOf := paid.events
    rw [released] at turnsOf eventsOf
    refine ⟨?_, eventsOf, Request.release_after released isPaid, fun attempt accepted => ?_⟩
    · obtain ⟨turn, rest, pays, none, same⟩ := List.forall₂_cons_right_iff.mp turnsOf
      rw [List.forall₂_nil_right_iff.mp none] at same
      exact ⟨turn, same, pays⟩
    · have admitted := Request.accepted_outcomeOf_iff.mp accepted
      exact Request.name_eq_complete_of_isPaid isPaid
        (Permission.decide_eq_ok_iff.mp admitted.1).1
  · rw [paid.delivered, decide_eq_true_iff]
  · exact Request.accepted_of_released_iff released

namespace Sample

/-- A release while a channel is on record for the beneficiary. -/
def payment (drawn : Nat) : Attempt :=
  ⟨.release ⟨5000, .pix, none⟩, call, .demanding [] (Table.set (.numbered 4) (.pix "ana") []),
    .fresh drawn⟩

/-- A release in vain, for want of a channel, and one that is accepted. -/
def untilPaid : List Attempt :=
  [attempt .submit 10, attempt (.recordOpinion "plausible") 11, attempt .approve 12,
    attempt .approve 13, attempt (.release ⟨5000, .pix, none⟩) 14, payment 15]

end Sample

/-- Neither a second release nor a cancellation takes the payment back. -/
theorem second_release_is_refused :
    Request.begin (.numbered 5) Sample.newRequest (.configured Sample.changes) Sample.call
        (.numbered 6) = .ok (Sample.opened, [Sample.opening]) ∧
      let reached := Sample.opened.after Sample.untilPaid
      let record : Release :=
        ⟨⟨5000, .pix, none⟩, .pix "ana", .numbered 1, .newYear2025⟩
      reached.release = some record ∧ reached.status = .released ∧
        releasesTold ([Sample.opening] ++ announced (Sample.opened.turns Sample.untilPaid)) =
          [(record.payment, record.channel)] ∧
        (reached.outcomeOf (Sample.payment 20)).accepted = false ∧
        (reached.outcomeOf (Sample.attempt (.cancel "regret") 20)).accepted = false ∧
        (reached.outcomeOf (Sample.attempt (.complete "handed over") 20)).accepted = true ∧
        (reached.after [Sample.payment 20, Sample.attempt (.cancel "regret") 21]).release =
          some record := by
  have opened : Request.begin (.numbered 5) Sample.newRequest (.configured Sample.changes)
      Sample.call (.numbered 6) = .ok (Sample.opened, [Sample.opening]) := rfl
  obtain ⟨-, -, -, -, recorded, -, onlyCompleted⟩ :=
    paid_out_at_most_once opened Sample.untilPaid
  have released : (Sample.opened.after Sample.untilPaid).status = .released := by decide +kernel
  have record : (Sample.opened.after Sample.untilPaid).release =
      some ⟨⟨5000, .pix, none⟩, .pix "ana", .numbered 1, .newYear2025⟩ := by decide +kernel
  obtain ⟨-, told, stays, -⟩ := recorded _ record
  refine ⟨opened, record, released, told, ?_, ?_, ?_, stays _⟩
  · rw [Bool.eq_false_iff, ne_eq, onlyCompleted released]
    rintro ⟨note, same, -⟩
    cases same
  · rw [Bool.eq_false_iff, ne_eq, onlyCompleted released]
    rintro ⟨note, same, -⟩
    cases same
  · exact (onlyCompleted released _).mpr ⟨"handed over", rfl, by decide +kernel, by decide +kernel⟩

end BenefitCasework
