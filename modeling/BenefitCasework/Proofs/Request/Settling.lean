import BenefitCasework.Proofs.Request.Announcements
import BenefitCasework.Proofs.Request.Refusing
import BenefitCasework.Proofs.Request.Walk
import Mathlib.Data.List.Nodup

/-!
Contract: items are raised, settled one by one, and only then handed in again.

Owns:
- `Turn.raised` and `Turn.settlement?`, the items that a turn raised and the one
  that it settled;
- `Tidy`, what holds of the items of every request that is reached: an open one
  is of the current cycle, and there is none unless somebody still has to do
  with it;
- `UnderWay`, what holds between raising items and handing in again: the items
  that were raised, settled as far as accepted resolutions have settled them;
- the steps that keep both, and `items_are_settled_before_resubmission`.

Does not own: what is announced of items.
-/

namespace BenefitCasework

/-- The identifiers that a turn has drawn for the items that it raised. -/
def Turn.raised (turn : Turn) : List Identifier :=
  if turn.outcome.accepted then
    (List.range turn.attempt.operation.itemsRaised).map turn.attempt.fresh
  else []

/-- The resolution that a turn has set, with the identifier of its item. -/
def Turn.settlement? (turn : Turn) : Option (Identifier × Resolution) :=
  match turn.attempt.operation with
  | .resolvePendency pendency note =>
      if turn.outcome.accepted then
        some (pendency, ⟨turn.attempt.call.caller.user, turn.attempt.call.moment, note⟩)
      else none
  | _ => none

/-- The resolutions that were set in some turns, one for each accepted one. -/
def settledIn (turns : List Turn) : List (Identifier × Resolution) :=
  turns.filterMap Turn.settlement?

/-- No open item is left behind in an earlier cycle, none where nobody can settle
it, and what is pending waits for something. -/
structure Tidy (request : Request) : Prop where
  current : ∀ item ∈ request.pendencies.items, item.isOpen = true →
    item.cycle = request.pendencies.cycle
  awaited : ∀ item ∈ request.pendencies.items, item.isOpen = true →
    request.status = .pending ∨ request.status = .cancelled
  raised : request.status = .pending →
    ∃ item ∈ request.pendencies.items, item.cycle = request.pendencies.cycle

/-- A request that has to be put right since a turn raised items: behind the items
of before, which are all closed, stand those of that turn, and those of them
that are closed were closed by the turns behind it, each by one. -/
structure UnderWay (request : Request) (raising : Turn) (behind : List Turn)
    (items : List Pendency) : Prop where
  pending : request.status = .pending
  placed : request.pendencies.items = raising.before.pendencies.items ++ items
  closedBefore : ∀ item ∈ raising.before.pendencies.items, item.isOpen = false
  current : ∀ item ∈ items, item.cycle = request.pendencies.cycle
  raised : items.map Pendency.id = raising.raised
  settled : (settlements items).Perm (settledIn behind)

/-! ### One operation -/

namespace Request

variable {request : Request} {operation : Operation} {call : Call} {office : Office}
  {fresh : Nat → Identifier}

/-- Only raising and resolving change the items. -/
theorem pendencies_prepared (noPend : operation.name ≠ .pend)
    (noResolve : operation.name ≠ .resolvePendency) (call : Call) (office : Office)
    (fresh : Nat → Identifier) :
    (request.prepared operation call office fresh).pendencies = request.pendencies := by
  cases operation with
  | pend justification items => exact absurd rfl noPend
  | resolvePendency pendency note => exact absurd rfl noResolve
  | release payment =>
      simp only [prepared]
      split <;> rfl
  | _ => rfl

/-- A request is only sent back with something to put right. -/
theorem ne_nil_of_admits {justification : String} {descriptions : List String}
    (admitted : request.Admits (.pend justification descriptions) call office) :
    descriptions ≠ [] := by
  rintro rfl
  cases (Permission.decide_eq_ok_iff.mp admitted.1).2.2

/-- Resolving sets the resolution of one item that was open. -/
theorem resolveItems_of_admits {pendency : Identifier} {note : String}
    (admitted : request.Admits (.resolvePendency pendency note) call office)
    (fresh : Nat → Identifier) :
    PendencyLog.resolveItems pendency ⟨call.caller.user, call.moment, note⟩
        request.pendencies.items =
      .ok (request.carriedOut (.resolvePendency pendency note) call office fresh).pendencies.items ∧
    (request.carriedOut (.resolvePendency pendency note) call office fresh).pendencies.cycle =
      request.pendencies.cycle := by
  have checked := admitted.2
  rw [pendencies_carriedOut]
  simp only [checkOffice] at checked
  simp only [prepared]
  split at checked
  · rename_i next resolved
    simp only [resolved]
    exact PendencyLog.resolve_eq_ok_iff.mp resolved
  · cases checked
  · cases checked

/-- Only raising leads into the pending status. -/
theorem pending_of_path (noPend : operation.name ≠ .pend)
    (ends : (request.path operation).getLastD request.status = .pending) :
    request.status = .pending := by
  cases operation with
  | pend justification items => exact absurd rfl noPend
  | submit =>
      simp only [path] at ends
      split at ends <;> cases ends
  | approve =>
      simp only [path] at ends
      split at ends
      · exact ends
      · cases ends
  | attachDocument documentType => exact ends
  | recordOpinion text => exact ends
  | resolvePendency pendency note => exact ends
  | _ => cases ends

theorem growInto_carriedOut (admitted : request.Admits operation call office)
    (fresh : Nat → Identifier) :
    GrowInto request.pendencies.items
      (request.carriedOut operation call office fresh).pendencies.items := by
  cases operation with
  | pend justification items =>
      rw [pendencies_carriedOut]
      exact growInto_append _ _
  | resolvePendency pendency note =>
      obtain ⟨front, item, back, whole, -, isOpen, resolved⟩ :=
        PendencyLog.exists_of_resolveItems (resolveItems_of_admits admitted fresh).1
      rw [whole, resolved]
      exact growInto_resolved isOpen _ front back
  | _ =>
      rw [pendencies_carriedOut, pendencies_prepared (by simp [Operation.name])
        (by simp [Operation.name])]
      exact .refl _

end Request

/-- However a request is worked on, no item goes, and none changes but for one
resolution that an open one is given. -/
theorem growInto_after (request : Request) (attempts : List Attempt) :
    GrowInto request.pendencies.items (request.after attempts).pendencies.items := by
  refine @Request.run_induction
    (fun reached _ => GrowInto request.pendencies.items reached.pendencies.items)
    request (.refl _) ?_ ?_ attempts
  · intro reached turns attempt grown admitted
    exact grown.trans (Request.growInto_carriedOut admitted _)
  · intro reached turns attempt grown refused
    exact grown

namespace Tidy

variable {reached : Request} {attempt : Attempt}

/-- Where nothing is awaited, no item is open. -/
theorem closed (tidy : Tidy reached) (notPending : reached.status ≠ .pending)
    (notCancelled : reached.status ≠ .cancelled) :
    ∀ item ∈ reached.pendencies.items, item.isOpen = false := by
  intro item member
  rw [Bool.eq_false_iff]
  intro isOpen
  rcases tidy.awaited item member isOpen with pending | cancelled
  · exact notPending pending
  · exact notCancelled cancelled

/-- What is sent back has no open item from before. -/
theorem closed_of_pend (tidy : Tidy reached) {justification : String} {descriptions : List String}
    {call : Call} {office : Office}
    (admitted : reached.Admits (.pend justification descriptions) call office) :
    ∀ item ∈ reached.pendencies.items, item.isOpen = false := by
  have inAnalysis : reached.status = .inAnalysis := by
    simpa [Operation.allowedFrom] using (Permission.decide_eq_ok_iff.mp admitted.1).1
  exact tidy.closed (by simp [inAnalysis]) (by simp [inAnalysis])

/-- The open items are those of the current cycle. -/
theorem openItems_eq (tidy : Tidy reached) :
    reached.pendencies.openItems = reached.pendencies.items.filter Pendency.isOpen := by
  apply List.filter_congr
  intro item member
  cases isOpen : item.isOpen with
  | false => rw [Bool.and_false]
  | true => simp [tidy.current item member isOpen]

/-- What is handed in again has no open item left. -/
theorem closed_of_resubmit (tidy : Tidy reached)
    (rule : Permission.checkRule .resubmit reached = .ok ()) :
    ∀ item ∈ reached.pendencies.items, item.isOpen = false := by
  simp only [Permission.checkRule] at rule
  split at rule
  · rename_i none
    rw [List.isEmpty_iff, tidy.openItems_eq, List.filter_eq_nil_iff] at none
    exact fun item member => Bool.eq_false_iff.mpr (none item member)
  · cases rule

/-- Raising opens a cycle of its own. -/
theorem raise (tidy : Tidy reached) {justification : String} {descriptions : List String}
    {call : Call} {office : Office} (fresh : Nat → Identifier)
    (admitted : reached.Admits (.pend justification descriptions) call office) :
    Tidy (reached.carriedOut (.pend justification descriptions) call office fresh) := by
  have status : (reached.carriedOut (.pend justification descriptions) call office fresh).status =
      .pending := Request.status_carriedOut ..
  have log : (reached.carriedOut (.pend justification descriptions) call office
      fresh).pendencies = reached.pendencies.raise fresh descriptions call.caller.user
        call.moment := Request.pendencies_carriedOut ..
  refine ⟨?_, fun _ _ _ => .inl status, fun _ => ?_⟩
  · rw [log]
    intro item member isOpen
    rcases List.mem_append.mp member with earlier | now
    · rw [tidy.closed_of_pend admitted item earlier] at isOpen
      cases isOpen
    · exact (isOpen_of_mem_newItems now).1
  · rw [log]
    obtain ⟨first, rest, rfl⟩ := List.exists_cons_of_ne_nil (Request.ne_nil_of_admits admitted)
    let item : Pendency :=
      ⟨fresh 0, reached.pendencies.cycle + 1, first, call.caller.user, call.moment, none⟩
    have raised : item ∈ PendencyLog.newItems fresh (reached.pendencies.cycle + 1)
        call.caller.user call.moment (first :: rest) := by
      rw [PendencyLog.newItems, List.mapIdx_cons]
      exact List.mem_cons_self
    exact ⟨item, List.mem_append_right _ raised, rfl⟩

/-- Resolving closes an item and opens none. -/
theorem resolve (tidy : Tidy reached) {pendency : Identifier} {note : String} {call : Call}
    {office : Office} (fresh : Nat → Identifier)
    (admitted : reached.Admits (.resolvePendency pendency note) call office) :
    Tidy (reached.carriedOut (.resolvePendency pendency note) call office fresh) := by
  have status : (reached.carriedOut (.resolvePendency pendency note) call office fresh).status =
      reached.status := Request.status_carriedOut ..
  obtain ⟨done, cycle⟩ := Request.resolveItems_of_admits admitted fresh
  obtain ⟨front, item, back, whole, -, -, resolved⟩ := PendencyLog.exists_of_resolveItems done
  have wasThere (other : Pendency) (isOpen : other.isOpen = true)
      (member : other ∈ (reached.carriedOut (.resolvePendency pendency note) call office
        fresh).pendencies.items) : other ∈ reached.pendencies.items := by
    rw [resolved] at member
    rw [whole]
    rcases mem_of_mem_resolved member with rfl | before
    · cases isOpen
    · exact before
  refine ⟨?_, ?_, ?_⟩
  · intro other member isOpen
    rw [cycle]
    exact tidy.current other (wasThere other isOpen member) isOpen
  · intro other member isOpen
    rw [status]
    exact tidy.awaited other (wasThere other isOpen member) isOpen
  · intro pending
    rw [status] at pending
    obtain ⟨other, raised, current⟩ := tidy.raised pending
    obtain ⟨after, member, becomes⟩ :=
      (Request.growInto_carriedOut admitted fresh).exists_of_mem raised
    exact ⟨after, member, by rw [becomes.cycle_eq, current, cycle]⟩

/-- What neither raises nor resolves leaves an open item only where it is awaited. -/
theorem other (tidy : Tidy reached) (admitted : reached.AdmitsAttempt attempt)
    (noPend : attempt.operation.name ≠ .pend)
    (noResolve : attempt.operation.name ≠ .resolvePendency) :
    Tidy (reached.carriedOutBy attempt) := by
  obtain ⟨operation, call, office, fresh⟩ := attempt
  obtain ⟨allowed, -, rule⟩ := Permission.decide_eq_ok_iff.mp admitted.1
  have log : (reached.carriedOut operation call office fresh).pendencies = reached.pendencies := by
    rw [Request.pendencies_carriedOut, Request.pendencies_prepared noPend noResolve]
  have status : (reached.carriedOut operation call office fresh).status =
      (reached.path operation).getLastD reached.status := Request.status_carriedOut ..
  refine ⟨by rw [Request.carriedOutBy, log]; exact tidy.current, ?_, ?_⟩
  · rw [Request.carriedOutBy, log, status]
    intro item member isOpen
    rcases tidy.awaited item member isOpen with pending | cancelled
    · rw [pending] at allowed ⊢
      cases operation with
      | attachDocument documentType => exact .inl rfl
      | cancel reason => exact .inr rfl
      | resubmit =>
          rw [tidy.closed_of_resubmit rule item member] at isOpen
          cases isOpen
      | resolvePendency pendency note => exact absurd rfl noResolve
      | _ => simp [Operation.allowedFrom] at allowed
    · have terminal : reached.status.isTerminal = true := by
        rw [cancelled]
        rfl
      exact absurd allowed (Request.not_mem_allowedFrom_of_isTerminal terminal)
  · rw [Request.carriedOutBy, log, status]
    exact fun ends => tidy.raised (Request.pending_of_path noPend ends)

theorem carriedOutBy (tidy : Tidy reached) (admitted : reached.AdmitsAttempt attempt) :
    Tidy (reached.carriedOutBy attempt) := by
  obtain ⟨operation, call, office, fresh⟩ := attempt
  cases operation with
  | pend justification descriptions => exact tidy.raise fresh admitted
  | resolvePendency pendency note => exact tidy.resolve fresh admitted
  | _ => exact tidy.other admitted (by simp [Operation.name]) (by simp [Operation.name])

end Tidy

/-! ### From raising items to handing in again -/

theorem Turn.raised_of_admits {turn : Turn} (admitted : turn.before.AdmitsAttempt turn.attempt) :
    turn.raised =
      (List.range turn.attempt.operation.itemsRaised).map turn.attempt.fresh := by
  have accepted : turn.outcome.accepted = true := Request.accepted_outcomeOf_iff.mpr admitted
  rw [raised, if_pos accepted]

theorem Turn.settlement?_of_admits {turn : Turn} {pendency : Identifier} {note : String}
    (admitted : turn.before.AdmitsAttempt turn.attempt)
    (asked : turn.attempt.operation = .resolvePendency pendency note) :
    turn.settlement? =
      some (pendency, ⟨turn.attempt.call.caller.user, turn.attempt.call.moment, note⟩) := by
  rw [settlement?, asked]
  exact if_pos (Request.accepted_outcomeOf_iff.mpr admitted)

theorem Turn.settlement?_of_not_admits {turn : Turn}
    (refused : ¬ turn.before.AdmitsAttempt turn.attempt) : turn.settlement? = none := by
  have notAccepted : ¬ turn.outcome.accepted = true :=
    fun accepted => refused (Request.accepted_outcomeOf_iff.mp accepted)
  unfold settlement?
  split
  · rw [if_neg notAccepted]
  · rfl

theorem settledIn_append_singleton (turns : List Turn) (last : Turn) :
    settledIn (turns ++ [last]) = settledIn turns ++ last.settlement?.toList := by
  rw [settledIn, List.filterMap_append]
  rfl

theorem map_id_newItems (fresh : Nat → Identifier) (cycle : UInt32) (user : Identifier)
    (moment : Instant) (descriptions : List String) :
    (PendencyLog.newItems fresh cycle user moment descriptions).map Pendency.id =
      (List.range descriptions.length).map fresh := by
  apply List.ext_getElem
  · simp [PendencyLog.newItems]
  · intro place _ _
    simp [PendencyLog.newItems]

/-- An accepted turn that sends a request back raises something. -/
theorem Turn.itemsRaised_pos {turn : Turn} (pended : turn.acceptedAs .pend = true) :
    0 < turn.attempt.operation.itemsRaised := by
  obtain ⟨admitted, isPend⟩ := acceptedAs_iff.mp pended
  obtain ⟨before, operation, call, office, fresh⟩ := turn
  cases operation with
  | pend justification descriptions =>
      exact List.length_pos_iff.mpr (Request.ne_nil_of_admits admitted)
  | _ => cases isPend

section UnderWay

variable {reached : Request} {raising : Turn} {behind : List Turn} {items : List Pendency}
  {attempt : Attempt}

/-- Raising items puts them under way. -/
theorem underWay_raise (tidy : Tidy reached) {justification : String} {descriptions : List String}
    {call : Call} {office : Office} {fresh : Nat → Identifier}
    (admitted : reached.Admits (.pend justification descriptions) call office) :
    UnderWay (reached.carriedOut (.pend justification descriptions) call office fresh)
      ⟨reached, ⟨.pend justification descriptions, call, office, fresh⟩⟩ []
      (PendencyLog.newItems fresh (reached.pendencies.cycle + 1) call.caller.user call.moment
        descriptions) := by
  have log : (reached.carriedOut (.pend justification descriptions) call office
      fresh).pendencies = reached.pendencies.raise fresh descriptions call.caller.user
        call.moment := Request.pendencies_carriedOut ..
  refine ⟨Request.status_carriedOut .., by rw [log]; rfl, tidy.closed_of_pend admitted,
    ?_, ?_, ?_⟩
  · rw [log]
    exact fun item member => (isOpen_of_mem_newItems member).1
  · have raised : Turn.raised
        ⟨reached, ⟨.pend justification descriptions, call, office, fresh⟩⟩ =
          (List.range descriptions.length).map fresh := Turn.raised_of_admits admitted
    rw [map_id_newItems, raised]
  · rw [settlements_of_open fun item member => (isOpen_of_mem_newItems member).2]
    exact .refl _

/-- A turn that leaves status and items alone. -/
theorem UnderWay.append_idle (underWay : UnderWay reached raising behind items) {next : Request}
    {turn : Turn} (status : next.status = reached.status)
    (pendencies : next.pendencies = reached.pendencies) (idle : turn.settlement? = none) :
    UnderWay next raising (behind ++ [turn]) items where
  pending := status.trans underWay.pending
  placed := by rw [pendencies, underWay.placed]
  closedBefore := underWay.closedBefore
  current := by rw [pendencies]; exact underWay.current
  raised := underWay.raised
  settled := by
    rw [settledIn_append_singleton, idle, Option.toList_none, List.append_nil]
    exact underWay.settled

/-- An accepted resolution closes one of the items that were raised. -/
theorem UnderWay.append_resolve (underWay : UnderWay reached raising behind items)
    {pendency : Identifier} {note : String} {call : Call} {office : Office}
    {fresh : Nat → Identifier}
    (admitted : reached.Admits (.resolvePendency pendency note) call office) :
    ∃ later, UnderWay (reached.carriedOut (.resolvePendency pendency note) call office fresh)
      raising (behind ++ [⟨reached, ⟨.resolvePendency pendency note, call, office, fresh⟩⟩])
      later := by
  obtain ⟨done, cycle⟩ := Request.resolveItems_of_admits admitted fresh
  rw [underWay.placed] at done
  obtain ⟨later, doneNow, whole⟩ :=
    PendencyLog.resolveItems_append_of_closed underWay.closedBefore done
  obtain ⟨front, item, back, rfl, sameId, isOpen, rfl⟩ :=
    PendencyLog.exists_of_resolveItems doneNow
  have settlement : Turn.settlement?
      ⟨reached, ⟨.resolvePendency pendency note, call, office, fresh⟩⟩ =
        some (pendency, ⟨call.caller.user, call.moment, note⟩) :=
    Turn.settlement?_of_admits admitted rfl
  refine ⟨_, (Request.status_carriedOut ..).trans underWay.pending, whole,
    underWay.closedBefore, ?_, ?_, ?_⟩
  · rw [cycle]
    intro other member
    rcases mem_of_mem_resolved member with rfl | before
    · exact underWay.current item (List.mem_append_right _ List.mem_cons_self)
    · exact underWay.current other before
  · have raised := underWay.raised
    rw [List.map_append, List.map_cons] at raised ⊢
    exact raised
  · rw [settledIn_append_singleton, settlement, ← sameId]
    exact (perm_settlements_resolved isOpen _ front back).trans
      (underWay.settled.append_right _)

/-- Until the request is handed in again or cancelled, items stay under way. -/
theorem UnderWay.append_accepted (underWay : UnderWay reached raising behind items)
    (admitted : reached.AdmitsAttempt attempt) (noResubmit : attempt.operation.name ≠ .resubmit)
    (noCancel : attempt.operation.name ≠ .cancel) :
    ∃ later, UnderWay (reached.carriedOutBy attempt) raising
      (behind ++ [⟨reached, attempt⟩]) later := by
  obtain ⟨operation, call, office, fresh⟩ := attempt
  have allowed := (Permission.decide_eq_ok_iff.mp admitted.1).1
  rw [underWay.pending] at allowed
  cases operation with
  | attachDocument documentType =>
      exact ⟨items, underWay.append_idle (Request.status_carriedOut ..)
        (Request.pendencies_carriedOut ..) rfl⟩
  | resolvePendency pendency note => exact underWay.append_resolve admitted
  | resubmit => exact absurd rfl noResubmit
  | cancel reason => exact absurd rfl noCancel
  | _ => simp [Operation.allowedFrom] at allowed

theorem UnderWay.append_refused (underWay : UnderWay reached raising behind items)
    (refused : ¬ reached.AdmitsAttempt attempt) :
    UnderWay reached raising (behind ++ [⟨reached, attempt⟩]) items :=
  underWay.append_idle rfl rfl (Turn.settlement?_of_not_admits refused)

/-- Each of the items is open, or it is one of those that were settled. -/
theorem UnderWay.length_openItems (underWay : UnderWay reached raising behind items)
    (tidy : Tidy reached) :
    reached.pendencies.openItems.length + (settledIn behind).length = raising.raised.length := by
  have none : raising.before.pendencies.items.filter Pendency.isOpen = [] :=
    List.filter_eq_nil_iff.mpr fun item member =>
      Bool.eq_false_iff.mp (underWay.closedBefore item member)
  rw [tidy.openItems_eq, underWay.placed, List.filter_append, none, List.nil_append,
    ← underWay.settled.length_eq, length_open_add_length_settlements, ← underWay.raised,
    List.length_map]

/-- Where none is left open, each was settled by one resolution. -/
theorem UnderWay.count_settledIn (underWay : UnderWay reached raising behind items)
    (drawn : raising.raised.Nodup)
    (closed : ∀ item ∈ reached.pendencies.items, item.isOpen = false) {id : Identifier}
    (member : id ∈ raising.raised) : ((settledIn behind).map Prod.fst).count id = 1 := by
  rw [underWay.placed] at closed
  have ids := map_fst_settlements_of_closed fun item member =>
    closed item (List.mem_append_right _ member)
  rw [← (underWay.settled.map Prod.fst).count_eq, ids, underWay.raised]
  exact List.count_eq_one_of_mem drawn member

end UnderWay

/-! ### All turns -/

/-- What holds of a request and of the turns that led to it: its items are tidy,
and those that were raised last are under way, unless the request was handed in
again since, or cancelled. -/
structure Settling (reached : Request) (turns : List Turn) : Prop where
  tidy : Tidy reached
  underWay : ∀ front raising behind, turns = front ++ raising :: behind →
    raising.acceptedAs .pend = true →
    (∀ turn ∈ behind, turn.acceptedAs .resubmit = false) →
    reached.status ≠ .cancelled →
    ∃ items, UnderWay reached raising behind items

section Settling

variable {reached : Request} {turns : List Turn} {attempt : Attempt}

/-- A turn more, which is either the one that raises items or comes behind it. -/
theorem Settling.append {next : Request} {last : Turn} (tidy : Tidy next)
    (raises : last.acceptedAs .pend = true → ∃ items, UnderWay next last [] items)
    (follows : ∀ front raising behind, turns = front ++ raising :: behind →
      raising.acceptedAs .pend = true →
      (∀ turn ∈ behind ++ [last], turn.acceptedAs .resubmit = false) →
      next.status ≠ .cancelled → ∃ items, UnderWay next raising (behind ++ [last]) items) :
    Settling next (turns ++ [last]) := by
  refine ⟨tidy, fun front raising behind split pended noResubmit notCancelled => ?_⟩
  cases behind using List.reverseRecOn with
  | nil =>
      obtain ⟨-, same⟩ := List.append_inj' split rfl
      cases same
      exact raises pended
  | append_singleton behind final =>
      rw [← List.cons_append, ← List.append_assoc] at split
      obtain ⟨sameTurns, same⟩ := List.append_inj' split rfl
      cases same
      exact follows front raising behind sameTurns pended noResubmit notCancelled

theorem Settling.append_accepted (settling : Settling reached turns)
    (admitted : reached.AdmitsAttempt attempt) :
    Settling (reached.carriedOutBy attempt) (turns ++ [⟨reached, attempt⟩]) := by
  refine .append (settling.tidy.carriedOutBy admitted) ?_ ?_
  · intro pended
    obtain ⟨operation, call, office, fresh⟩ := attempt
    have isPend := (acceptedAs_iff.mp pended).2
    cases operation with
    | pend justification descriptions => exact ⟨_, underWay_raise settling.tidy admitted⟩
    | _ => cases isPend
  · intro front raising behind split pended noResubmit notCancelled
    have allowed := (Permission.decide_eq_ok_iff.mp admitted.1).1
    have wasNotCancelled : reached.status ≠ .cancelled := fun cancelled =>
      Request.not_mem_allowedFrom_of_isTerminal (by rw [cancelled]; rfl) allowed
    obtain ⟨items, underWay⟩ := settling.underWay front raising behind split pended
      (fun turn member => noResubmit turn (List.mem_append_left _ member)) wasNotCancelled
    refine underWay.append_accepted admitted ?_ ?_
    · intro isResubmit
      have other := noResubmit ⟨reached, attempt⟩ (List.mem_append_right _ List.mem_cons_self)
      rw [acceptedAs_iff.mpr ⟨admitted, isResubmit⟩] at other
      cases other
    · intro isCancel
      apply notCancelled
      rw [Request.carriedOutBy, Request.status_carriedOut]
      cases asked : attempt.operation with
      | cancel reason => rfl
      | _ =>
          rw [asked] at isCancel
          cases isCancel

theorem Settling.append_refused (settling : Settling reached turns)
    (refused : ¬ reached.AdmitsAttempt attempt) :
    Settling reached (turns ++ [⟨reached, attempt⟩]) := by
  refine .append settling.tidy ?_ ?_
  · intro pended
    exact absurd (acceptedAs_iff.mp pended).1 refused
  · intro front raising behind split pended noResubmit notCancelled
    obtain ⟨items, underWay⟩ := settling.underWay front raising behind split pended
      (fun turn member => noResubmit turn (List.mem_append_left _ member)) notCancelled
    exact ⟨items, underWay.append_refused refused⟩

end Settling

/-- What `begin` opens has no items. -/
theorem settling_begin {routes : RouteTable} {id eventId : Identifier} {new : NewRequest}
    {call : Call} {request : Request} {opening : List Event}
    (opened : Request.begin id new routes call eventId = .ok (request, opening)) :
    Settling request [] := by
  have nothing (front behind : List Turn) (raising : Turn) :
      [] ≠ front ++ raising :: behind := by simp
  obtain ⟨route, -, rfl, -⟩ := Request.exists_of_begin opened
  refine ⟨⟨?_, ?_, ?_⟩, fun front raising behind split =>
    absurd split (nothing front behind raising)⟩
  · intro item member
    cases member
  · intro item member
    cases member
  · intro pending
    cases pending

theorem settling_run {routes : RouteTable} {id eventId : Identifier} {new : NewRequest}
    {call : Call} {request : Request} {opening : List Event}
    (opened : Request.begin id new routes call eventId = .ok (request, opening))
    (attempts : List Attempt) :
    Settling (request.after attempts) (request.turns attempts) :=
  Request.run_induction (settling_begin opened)
    (fun _ _ _ settling admitted => settling.append_accepted admitted)
    (fun _ _ _ settling refused => settling.append_refused refused) attempts

/-! ### Handing in again -/

/-- Whoever may hand a pending request in again is only kept from it by open
items of the current cycle. -/
theorem Permission.decide_resubmit {request : Request} (pending : request.status = .pending)
    {actor : Actor} (permitted : actor.holdsAny Operation.resubmit.permittedRoles = true) :
    Permission.decide request.status .resubmit actor request =
      if request.pendencies.openItems.isEmpty then .ok ()
      else .error (.ruleViolated (.openPendencies request.pendencies.openItems.length)) := by
  have allowed : request.status ∈ Operation.resubmit.allowedFrom := by
    rw [pending]
    exact List.mem_cons_self
  rw [decide_of_onlyTable rfl allowed, if_pos permitted, checkRule]
  cases request.pendencies.openItems.isEmpty <;> rfl

theorem Request.outcomeOf_resubmit {request : Request} (pending : request.status = .pending)
    {attempt : Attempt} (isResubmit : attempt.operation = .resubmit)
    (permitted : attempt.call.caller.actor.holdsAny Operation.resubmit.permittedRoles = true) :
    (0 < request.pendencies.openItems.length → (request.outcomeOf attempt).result =
      .error (.denied (.ruleViolated (.openPendencies request.pendencies.openItems.length)))) ∧
    (request.pendencies.openItems.length = 0 → (request.outcomeOf attempt).accepted = true) := by
  have decision := Permission.decide_resubmit pending permitted
  obtain ⟨operation, call, office, fresh⟩ := attempt
  obtain rfl : operation = .resubmit := isResubmit
  refine ⟨fun some => ?_, fun none => ?_⟩
  · rw [List.isEmpty_eq_false_iff.mpr (List.ne_nil_of_length_pos some)] at decision
    exact result_apply_eq_denied_iff.mpr decision
  · rw [List.isEmpty_iff_length_eq_zero.mpr none] at decision
    exact accepted_outcomeOf_iff.mpr ⟨decision, rfl⟩

/-- However a request is worked on, its items only grow in number, and change but
for one resolution each. None is left open in an earlier cycle, and none where
nobody waits for it. Since items were raised, and until the request is handed in
again, each of them is settled by one accepted resolution, and the request cannot
be handed in as long as some are open, which the refusal counts, but it can be
once there are none. -/
theorem items_are_settled_before_resubmission {routes : RouteTable} {id eventId : Identifier}
    {new : NewRequest} {call : Call} {request : Request} {opening : List Event}
    (opened : Request.begin id new routes call eventId = .ok (request, opening))
    (attempts : List Attempt)
    (drawn : ((request.turns attempts).flatMap Turn.raised).Nodup) :
    let reached := request.after attempts
    let turns := request.turns attempts
    Tidy reached ∧
      (∀ later, GrowInto reached.pendencies.items (reached.after later).pendencies.items) ∧
      ∀ front raising behind, turns = front ++ raising :: behind →
        raising.acceptedAs .pend = true →
        (∀ turn ∈ behind, turn.acceptedAs .resubmit = false) →
        reached.status ≠ .cancelled →
        let raised := raising.attempt.operation.itemsRaised
        let settled := (settledIn behind).length
        0 < raised ∧ settled ≤ raised ∧ (∃ items, UnderWay reached raising behind items) ∧
          ∀ attempt, attempt.operation = .resubmit →
            (attempt.call.caller.actor.holdsAny [.unitTechnician, .manager, .admin] = true →
              (0 < raised - settled → (reached.outcomeOf attempt).result =
                .error (.denied (.ruleViolated (.openPendencies (raised - settled))))) ∧
              (raised - settled = 0 → (reached.outcomeOf attempt).accepted = true)) ∧
            ((reached.outcomeOf attempt).accepted = true → ∀ id ∈ raising.raised,
              ((settledIn behind).map Prod.fst).count id = 1) := by
  intro reached turns
  have settling : Settling reached turns := settling_run opened attempts
  refine ⟨settling.tidy, growInto_after reached, ?_⟩
  intro front raising behind split pended noResubmit notCancelled raised settled
  obtain ⟨items, underWay⟩ :=
    settling.underWay front raising behind split pended noResubmit notCancelled
  obtain ⟨admitted, isPend⟩ := acceptedAs_iff.mp pended
  have drawnNow : raising.raised.length = raised := by
    rw [Turn.raised_of_admits admitted, List.length_map, List.length_range]
  have balance := underWay.length_openItems settling.tidy
  rw [drawnNow] at balance
  have left : reached.pendencies.openItems.length = raised - settled := by omega
  refine ⟨Turn.itemsRaised_pos pended, by omega, ⟨items, underWay⟩,
    fun attempt isResubmit => ⟨fun permitted => ?_, fun accepted id member => ?_⟩⟩
  · rw [← left]
    exact Request.outcomeOf_resubmit underWay.pending isResubmit permitted
  · have permission := (Request.accepted_outcomeOf_iff.mp accepted).1
    rw [isResubmit] at permission
    have closed := settling.tidy.closed_of_resubmit
      (Permission.decide_eq_ok_iff.mp permission).2.2
    have isTurn : raising ∈ turns := by
      rw [split]
      exact List.mem_append_right _ List.mem_cons_self
    exact underWay.count_settledIn ((List.nodup_flatMap.mp drawn).1 raising isTurn) closed member

namespace Sample

/-- A request is sent back with two items, and handed in too early. -/
def sentBack : List Attempt :=
  [attempt .submit 10, attempt (.pend "unclear" ["proof of address", "proof of income"]) 20,
    attempt .resubmit 30]

/-- One of the two is settled. -/
def halfSettled : List Attempt :=
  sentBack ++ [attempt (.resolvePendency (.fresh 20 0) "seen") 31]

/-- And so is the other one. -/
def allSettled : List Attempt :=
  halfSettled ++ [attempt (.resolvePendency (.fresh 20 1) "seen") 32]

end Sample

/-- With one of two items left, handing in is refused for that one; with none left,
it is accepted, and each of the two was settled once. -/
theorem second_item_is_waited_for :
    Request.begin (.numbered 5) Sample.newRequest (.configured Sample.changes) Sample.call
        (.numbered 6) = .ok (Sample.opened, [Sample.opening]) ∧
      let again := Sample.attempt .resubmit 40
      ((Sample.opened.turns Sample.allSettled).flatMap Turn.raised).Nodup ∧
        ((Sample.opened.after Sample.halfSettled).outcomeOf again).result =
          .error (.denied (.ruleViolated (.openPendencies 1))) ∧
        ((Sample.opened.after Sample.allSettled).outcomeOf again).accepted = true ∧
        ∀ id ∈ [Identifier.fresh 20 0, .fresh 20 1],
          ((settledIn (Sample.opened.turns Sample.allSettled)).map Prod.fst).count id = 1 := by
  have opened : Request.begin (.numbered 5) Sample.newRequest (.configured Sample.changes)
      Sample.call (.numbered 6) = .ok (Sample.opened, [Sample.opening]) := rfl
  let submitting : Turn := ⟨Sample.opened, Sample.attempt .submit 10⟩
  let raising : Turn := ⟨Sample.opened.after [submitting.attempt],
    Sample.attempt (.pend "unclear" ["proof of address", "proof of income"]) 20⟩
  have half : ((Sample.opened.turns Sample.halfSettled).flatMap Turn.raised).Nodup := by
    decide +kernel
  have all : ((Sample.opened.turns Sample.allSettled).flatMap Turn.raised).Nodup := by
    decide +kernel
  obtain ⟨-, -, waiting⟩ := items_are_settled_before_resubmission opened Sample.halfSettled half
  obtain ⟨-, -, settled⟩ := items_are_settled_before_resubmission opened Sample.allSettled all
  obtain ⟨-, -, -, refused⟩ := waiting [submitting] raising
    ((Sample.opened.turns Sample.halfSettled).drop 2) rfl (by decide +kernel) (by decide +kernel)
    (by decide +kernel)
  obtain ⟨-, -, -, counted⟩ := settled [submitting] raising
    ((Sample.opened.turns Sample.allSettled).drop 2) rfl (by decide +kernel) (by decide +kernel)
    (by decide +kernel)
  have accepted := ((counted (Sample.attempt .resubmit 40) rfl).1 (by decide +kernel)).2
    (by decide +kernel)
  refine ⟨opened, all, ?_, accepted, (counted _ rfl).2 accepted⟩
  exact ((refused (Sample.attempt .resubmit 40) rfl).1 (by decide +kernel)).1 (by decide +kernel)

end BenefitCasework
