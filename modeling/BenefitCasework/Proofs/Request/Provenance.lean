import BenefitCasework.Proofs.Permission.Demands
import BenefitCasework.Proofs.Request.Settling

/-!
Contract: who wrote what in a request, and that no text in it is blank.

Owns:
- `HistoryEntry.AccountedFor`, a history entry that an accepted turn wrote: one of
  the moves of its operation, by its actor, who was entitled to it, and with a
  reason where the operation gives one;
- `Operation.texts`, the texts that an operation brings along, and
  `Request.Worded`, a request of which no text is blank;
- the steps that keep both, and `history_is_accounted_for`.

Does not own: in which order the entries stand, which is the walk through the
table.
-/

namespace BenefitCasework

/-- The texts that an operation brings along. -/
def Operation.texts : Operation → List String
  | .recordOpinion text => [text]
  | .pend justification items => justification :: items
  | .reject justification => [justification]
  | .resolvePendency _ note => [note]
  | .complete note => [note]
  | .cancel reason => [reason]
  | _ => []

/-- Which operations have to be justified. -/
def OperationName.isJustified (name : OperationName) : Prop :=
  name ∈ [.pend, .reject, .complete, .cancel]

/-- The entry was written by an accepted turn: it is a move of the operation, its
actor was permitted to make it, and it tells why where that has to be told. -/
structure HistoryEntry.AccountedFor (creator : Identifier) (turn : Turn) (entry : HistoryEntry) :
    Prop where
  accepted : turn.outcome.accepted = true
  operation : entry.operation = turn.attempt.operation.name.text
  move : turn.attempt.operation.name.Makes entry.source entry.target
  actor : entry.actor = turn.actor
  moment : entry.moment = turn.attempt.call.moment
  entitled : entry.actor.holdsAny turn.attempt.operation.permittedRoles = true ∨
    turn.attempt.operation.name = .cancel ∧ entry.actor.user = creator
  justified : entry.justification.isSome = true ↔ turn.attempt.operation.name.isJustified
  worded : ∀ text ∈ entry.justification, Text.isBlank text = false

/-- Neither what an item asks for nor how it was put right is blank. -/
structure Pendency.Worded (item : Pendency) : Prop where
  description : Text.isBlank item.description = false
  resolution : ∀ resolution ∈ item.resolution, Text.isBlank resolution.note = false

/-- No text of a request is blank. -/
structure Request.Worded (request : Request) : Prop where
  opinion : ∀ opinion ∈ request.opinion, Text.isBlank opinion.text = false
  items : ∀ item ∈ request.pendencies.items, item.Worded
  deliveryNote : ∀ note ∈ request.deliveryNote, Text.isBlank note = false

/-! ### What an operation says -/

namespace Permission

theorem checkNote_eq_ok_iff {field : NoteField} {note : String} :
    checkNote field note = .ok () ↔ Text.isBlank note = false := by
  simp [checkNote]

theorem checkJustification_eq_ok_iff {justification : String} :
    checkJustification justification = .ok () ↔ Text.isBlank justification = false := by
  simp [checkJustification]

/-- Whatever passes the rules says something wherever it says anything. -/
theorem isBlank_of_checkRule {operation : Operation} {request : Request}
    (checked : checkRule operation request = .ok ()) :
    ∀ text ∈ operation.texts, Text.isBlank text = false := by
  cases operation with
  | recordOpinion text => exact List.forall_mem_singleton.mpr (checkNote_eq_ok_iff.mp checked)
  | pend justification items =>
      simp only [checkRule] at checked
      split at checked
      · cases checked
      · split at checked
        · cases checked
        · rename_i described
          refine List.forall_mem_cons.mpr ⟨checkJustification_eq_ok_iff.mp checked, ?_⟩
          simpa using described
  | reject justification =>
      exact List.forall_mem_singleton.mpr (checkJustification_eq_ok_iff.mp checked)
  | resolvePendency pendency note =>
      exact List.forall_mem_singleton.mpr (checkNote_eq_ok_iff.mp checked)
  | complete note => exact List.forall_mem_singleton.mpr (checkNote_eq_ok_iff.mp checked)
  | cancel reason => exact List.forall_mem_singleton.mpr (checkJustification_eq_ok_iff.mp checked)
  | _ => exact List.forall_mem_nil _

end Permission

theorem Operation.isSome_justification?_iff (operation : Operation) :
    operation.justification?.isSome = true ↔ operation.name.isJustified := by
  cases operation <;> simp [justification?, name, OperationName.isJustified]

theorem Operation.mem_texts_of_justification? {operation : Operation} {text : String}
    (given : text ∈ operation.justification?) : text ∈ operation.texts := by
  cases operation <;> simp_all [justification?, texts]

/-! ### One operation -/

namespace Request

variable {request : Request} {operation : Operation} {call : Call} {office : Office}
  {fresh : Nat → Identifier}

/-- The entries of a path are its moves, by the caller and with what justifies the
operation. -/
theorem of_mem_entriesAlong {makes : Status → Status → Prop} {source : Status} {path : List Status}
    (allowed : (source :: path).IsChain makes) {entry : HistoryEntry}
    (member : entry ∈ entriesAlong call operation source path) :
    makes entry.source entry.target ∧
      entry = ⟨entry.source, entry.target, operation.name.text, call.caller.actor, call.moment,
        operation.justification?, call.caller.correlation⟩ := by
  induction path generalizing source with
  | nil => cases member
  | cons target rest inductionHypothesis =>
      obtain ⟨first, others⟩ := List.isChain_cons_cons.mp allowed
      rcases List.mem_cons.mp member with rfl | later
      · exact ⟨first, rfl⟩
      · exact inductionHypothesis others later

namespace Worded

/-- Raising items that are described. -/
theorem raise (worded : request.Worded) {items : List String} (cycle : UInt32) (user : Identifier)
    (moment : Instant) (fresh : Nat → Identifier)
    (described : ∀ description ∈ items, Text.isBlank description = false) :
    ∀ item ∈ request.pendencies.items ++ PendencyLog.newItems fresh cycle user moment items,
      item.Worded := by
  intro item member
  rcases List.mem_append.mp member with earlier | now
  · exact worded.items item earlier
  · obtain ⟨place, below, rfl⟩ := List.mem_mapIdx.mp now
    exact ⟨described _ (List.getElem_mem _), by simp⟩

/-- Resolving an item with a note. -/
theorem resolve (worded : request.Worded) {pendency user : Identifier} {moment : Instant}
    {note : String} {next : PendencyLog}
    (resolved : request.pendencies.resolve pendency user moment note = .ok next)
    (noted : Text.isBlank note = false) : ∀ item ∈ next.items, item.Worded := by
  intro other member
  obtain ⟨front, item, back, whole, -, -, behind⟩ :=
    PendencyLog.exists_of_resolveItems (PendencyLog.resolve_eq_ok_iff.mp resolved).1
  rw [behind] at member
  rcases mem_of_mem_resolved member with rfl | earlier
  · have wasThere : item ∈ request.pendencies.items := by
      rw [whole]
      exact List.mem_append_right _ List.mem_cons_self
    exact ⟨(worded.items item wasThere).description, by simpa using noted⟩
  · rw [← whole] at earlier
    exact worded.items other earlier

/-- What an operation writes is as worded as what it says. -/
theorem prepared (worded : request.Worded)
    (said : ∀ text ∈ operation.texts, Text.isBlank text = false) :
    (request.prepared operation call office fresh).Worded := by
  have ⟨opinion, items, deliveryNote⟩ := worded
  cases operation with
  | recordOpinion text =>
      exact ⟨by simpa [Request.prepared, Operation.texts] using said, items, deliveryNote⟩
  | pend justification descriptions =>
      exact ⟨by simp [Request.prepared], worded.raise _ _ _ fresh fun description member =>
        said description (List.mem_cons_of_mem _ member), deliveryNote⟩
  | resolvePendency pendency note =>
      simp only [Request.prepared]
      split
      · rename_i next resolved
        exact ⟨opinion, worded.resolve resolved (said note List.mem_cons_self), deliveryNote⟩
      · exact worded
  | release payment =>
      simp only [Request.prepared]
      split
      · exact ⟨opinion, items, deliveryNote⟩
      · exact worded
  | complete note =>
      exact ⟨opinion, items, by simpa [Request.prepared, Operation.texts] using said⟩
  | _ => exact ⟨opinion, items, deliveryNote⟩

theorem carriedOut (worded : request.Worded) (admitted : request.Admits operation call office)
    (fresh : Nat → Identifier) : (request.carriedOut operation call office fresh).Worded := by
  have said := Permission.isBlank_of_checkRule (Permission.decide_eq_ok_iff.mp admitted.1).2.2
  have written : (request.prepared operation call office fresh).Worded := worded.prepared said
  constructor
  · rw [opinion_carriedOut]
    exact written.opinion
  · rw [pendencies_carriedOut]
    exact written.items
  · rw [deliveryNote_carriedOut]
    exact written.deliveryNote

end Worded

/-- What an accepted attempt adds to the history, its turn accounts for. -/
theorem accountedFor_of_admits {attempt : Attempt} (admitted : request.AdmitsAttempt attempt)
    {entry : HistoryEntry}
    (member : entry ∈ entriesAlong attempt.call attempt.operation request.status
      (request.path attempt.operation)) :
    entry.AccountedFor request.createdBy ⟨request, attempt⟩ := by
  obtain ⟨allowed, roles, rule⟩ := Permission.decide_eq_ok_iff.mp admitted.1
  obtain ⟨move, written⟩ := of_mem_entriesAlong (request.isChain_path allowed) member
  constructor
  · exact accepted_outcomeOf_iff.mpr admitted
  · rw [written]
  · exact move
  · rw [written]
    rfl
  · rw [written]
  · rw [written]
    exact Permission.entitled_of_checkRole roles
  · rw [written]
    exact attempt.operation.isSome_justification?_iff
  · rw [written]
    intro text given
    exact Permission.isBlank_of_checkRule rule text (Operation.mem_texts_of_justification? given)

end Request

/-! ### All turns -/

/-- A run keeps the creator, and with it that all entries are accounted for and no
text is blank. -/
theorem accountedFor_run {request : Request} (unmoved : request.history = [])
    (worded : request.Worded) (attempts : List Attempt) :
    (request.after attempts).createdBy = request.createdBy ∧
      (∀ entry ∈ (request.after attempts).history,
        ∃ turn ∈ request.turns attempts, entry.AccountedFor request.createdBy turn) ∧
      (request.after attempts).Worded := by
  refine @Request.run_induction
    (fun reached turns => reached.createdBy = request.createdBy ∧
      (∀ entry ∈ reached.history, ∃ turn ∈ turns, entry.AccountedFor request.createdBy turn) ∧
      reached.Worded) request ?_ ?_ ?_ attempts
  · refine ⟨rfl, ?_, worded⟩
    rw [unmoved]
    exact List.forall_mem_nil _
  · rintro reached turns attempt ⟨creator, accounted, worded⟩ admitted
    refine ⟨?_, ?_, worded.carriedOut admitted attempt.fresh⟩
    · rw [Request.carriedOutBy, Request.createdBy_carriedOut, creator]
    · intro entry member
      rw [Request.carriedOutBy, Request.history_carriedOut] at member
      rcases List.mem_append.mp member with earlier | now
      · obtain ⟨turn, taken, accountedFor⟩ := accounted entry earlier
        exact ⟨turn, List.mem_append_left _ taken, accountedFor⟩
      · refine ⟨⟨reached, attempt⟩, by simp, ?_⟩
        rw [← creator]
        exact Request.accountedFor_of_admits admitted now
  · rintro reached turns attempt ⟨creator, accounted, worded⟩ refused
    refine ⟨creator, fun entry member => ?_, worded⟩
    obtain ⟨turn, taken, accountedFor⟩ := accounted entry member
    exact ⟨turn, List.mem_append_left _ taken, accountedFor⟩

/-- What `begin` opens belongs to its caller and says nothing yet. -/
theorem Request.begin_worded {routes : RouteTable} {id eventId : Identifier} {new : NewRequest}
    {call : Call} {request : Request} {events : List Event}
    (opened : Request.begin id new routes call eventId = .ok (request, events)) :
    request.createdBy = call.caller.user ∧ request.Worded := by
  obtain ⟨route, -, rfl, -⟩ := exists_of_begin opened
  refine ⟨rfl, ?_, List.forall_mem_nil _, ?_⟩
  · simp [draft]
  · simp [draft]

/-- However a request is worked on, each entry of its history was written by an
accepted operation: it is one of the moves of that operation, its actor held a
role that the table permits or, cancelling, had created the request, and it is
justified exactly where sending back, rejecting, completing and cancelling are,
and then not by a blank. Nor is any other text of the request ever blank. -/
theorem history_is_accounted_for {routes : RouteTable} {id eventId : Identifier} {new : NewRequest}
    {call : Call} {request : Request} {events : List Event}
    (opened : Request.begin id new routes call eventId = .ok (request, events))
    (attempts : List Attempt) :
    let reached := request.after attempts
    reached.createdBy = call.caller.user ∧
      (∀ entry ∈ reached.history,
        ∃ turn ∈ request.turns attempts, entry.AccountedFor reached.createdBy turn) ∧
      reached.Worded := by
  intro reached
  obtain ⟨-, unmoved⟩ := Request.begin_unmoved opened
  obtain ⟨opener, unworded⟩ := Request.begin_worded opened
  obtain ⟨creator, accounted, worded⟩ := accountedFor_run unmoved unworded attempts
  have sameCreator : reached.createdBy = request.createdBy := creator
  rw [sameCreator]
  exact ⟨opener, accounted, worded⟩

/-- The four moves of a review that was started over are accounted for, among them
the one by which it was sent back. -/
theorem second_round_is_accounted_for :
    Request.begin (.numbered 5) Sample.newRequest (.configured Sample.changes) Sample.call
        (.numbered 6) = .ok (Sample.opened, [Sample.opening]) ∧
      let reached := Sample.opened.after Sample.secondRound
      let sentBack : HistoryEntry := ⟨.inAnalysis, .pending, "pend", Sample.call.caller.actor,
        .newYear2025, some "unclear", .numbered 3⟩
      reached.history.length = 4 ∧ sentBack ∈ reached.history ∧
        (∃ turn ∈ Sample.opened.turns Sample.secondRound,
          sentBack.AccountedFor (.numbered 1) turn) ∧
        reached.Worded := by
  have opened : Request.begin (.numbered 5) Sample.newRequest (.configured Sample.changes)
      Sample.call (.numbered 6) = .ok (Sample.opened, [Sample.opening]) := rfl
  refine ⟨opened, ?_⟩
  intro reached sentBack
  have four : reached.history.length = 4 := by decide +kernel
  have member : sentBack ∈ reached.history := by decide +kernel
  obtain ⟨creator, accounted, worded⟩ := history_is_accounted_for opened Sample.secondRound
  have written := accounted sentBack member
  rw [creator] at written
  exact ⟨four, member, written, worded⟩

end BenefitCasework
