import BenefitCasework.Proofs.Request.Run

/-!
Contract: the history of a request is a walk through the table of statuses.

Owns:
- `Walks`, history entries that lead from one status to another, each by a move
  of the table;
- `OperationName.Makes`, the moves that an operation makes, all of which the table
  of statuses has;
- `Request.entriesFor`, how many entries an accepted operation adds;
- `Request.isChain_path`, which says that a permitted operation makes no other
  moves;
- `history_walks_the_table`.

Does not own: who made the moves, and what is announced of them.
-/

namespace BenefitCasework

/-- The moves that operations make, by name. -/
inductive OperationName.Makes : OperationName → Status → Status → Prop where
  | submit : Makes .submit .draft .opened
  | submitOnward : Makes .submit .opened .inAnalysis
  | sendToAnalysis : Makes .sendToAnalysis .opened .inAnalysis
  | approve : Makes .approve .inAnalysis .approved
  | pend : Makes .pend .inAnalysis .pending
  | reject : Makes .reject .inAnalysis .cancelled
  | resubmit : Makes .resubmit .pending .inAnalysis
  | release : Makes .release .approved .released
  | complete : Makes .complete .released .completed
  | cancel {source : Status}
      (unpaid : source ∈ [Status.draft, .opened, .inAnalysis, .pending, .approved]) :
      Makes .cancel source .cancelled

/-- The table of statuses has every move that an operation makes. -/
theorem OperationName.Makes.reaches {name : OperationName} {source target : Status}
    (made : name.Makes source target) : source.Reaches target := by
  cases made with
  | cancel unpaid =>
      simp only [List.mem_cons, List.not_mem_nil, or_false] at unpaid
      rcases unpaid with rfl | rfl | rfl | rfl | rfl <;> simp [Status.Reaches, Status.targets]
  | _ => simp [Status.Reaches, Status.targets]

/-- Entries lead from a status to another: the first starts there, each starts
where the one before it ends, and each is a move of the table. -/
inductive Walks : Status → List HistoryEntry → Status → Prop where
  | stay (status : Status) : Walks status [] status
  | move {entry : HistoryEntry} {behind : List HistoryEntry} {finish : Status}
      (allowed : entry.source.Reaches entry.target) (rest : Walks entry.target behind finish) :
      Walks entry.source (entry :: behind) finish

theorem Walks.append {start middle finish : Status} {front back : List HistoryEntry}
    (first : Walks start front middle) (second : Walks middle back finish) :
    Walks start (front ++ back) finish := by
  induction first with
  | stay status => exact second
  | move allowed rest inductionHypothesis => exact .move allowed (inductionHypothesis second)

namespace Request

/-- How many entries an operation adds to the history once it is accepted. -/
def entriesFor (request : Request) : Operation → Nat
  | .submit => if request.route.hasTriage then 1 else 2
  | .attachDocument _ => 0
  | .recordOpinion _ => 0
  | .resolvePendency _ _ => 0
  | .approve => if request.approvals.length + 1 < request.route.approvalGates.length then 0 else 1
  | _ => 1

/-- The entries of moves along a path. -/
def entriesAlong (call : Call) (operation : Operation) : Status → List Status → List HistoryEntry
  | _, [] => []
  | source, target :: path =>
      ⟨source, target, operation.name.text, call.caller.actor, call.moment,
        operation.justification?, call.caller.correlation⟩ ::
        entriesAlong call operation target path

section Path

variable (request : Request) (operation : Operation) (call : Call)

theorem length_entriesAlong (source : Status) (path : List Status) :
    (entriesAlong call operation source path).length = path.length := by
  induction path generalizing source with
  | nil => rfl
  | cons target rest inductionHypothesis =>
      rw [entriesAlong, List.length_cons, List.length_cons, inductionHypothesis]

theorem walks_entriesAlong {source : Status} {path : List Status}
    (allowed : (source :: path).IsChain Status.Reaches) :
    Walks source (entriesAlong call operation source path) (path.getLastD source) := by
  induction path generalizing source with
  | nil => exact .stay source
  | cons target rest inductionHypothesis =>
      obtain ⟨first, others⟩ := List.isChain_cons_cons.mp allowed
      rw [List.getLastD_cons]
      exact @Walks.move ⟨source, target, _, _, _, _, _⟩ _ _ first (inductionHypothesis others)

theorem length_path : (request.path operation).length = request.entriesFor operation := by
  cases operation with
  | submit =>
      simp only [path, entriesFor]
      split <;> rfl
  | approve =>
      simp only [path, entriesFor, hasGateBehind, Route.approvalGate?, isSome_getElem?]
      split <;> rfl
  | _ => rfl

variable {operation}

/-- A permitted operation makes its own moves. -/
theorem isChain_path (allowed : request.status ∈ operation.allowedFrom) :
    (request.status :: request.path operation).IsChain operation.name.Makes := by
  cases operation with
  | submit =>
      simp only [Operation.allowedFrom, List.mem_singleton] at allowed
      rw [allowed, path]
      split
      · exact .cons_cons .submit (.singleton _)
      · exact .cons_cons .submit (.cons_cons .submitOnward (.singleton _))
  | approve =>
      simp only [Operation.allowedFrom, List.mem_singleton] at allowed
      rw [allowed, path]
      split
      · exact .singleton _
      · exact .cons_cons .approve (.singleton _)
  | attachDocument documentType => exact .singleton _
  | recordOpinion text => exact .singleton _
  | resolvePendency pendency note => exact .singleton _
  | cancel reason => exact .cons_cons (.cancel allowed) (.singleton _)
  | _ =>
      -- One status to start from and one move.
      simp only [Operation.allowedFrom, List.mem_singleton] at allowed
      rw [allowed]
      exact .cons_cons (by constructor) (.singleton _)

/-- No operation is allowed where the table ends. -/
theorem not_mem_allowedFrom_of_isTerminal {status : Status} (terminal : status.isTerminal = true) :
    status ∉ operation.allowedFrom := by
  cases status with
  | completed => cases operation <;> simp [Operation.allowedFrom]
  | cancelled => cases operation <;> simp [Operation.allowedFrom]
  | _ => cases terminal

end Path

/-- The history grows by the entries of the path. -/
theorem history_carriedOut (request : Request) (operation : Operation) (call : Call)
    (office : Office) (fresh : Nat → Identifier) :
    (request.carriedOut operation call office fresh).history =
      request.history ++ entriesAlong call operation request.status (request.path operation) := by
  have walked (path : List Status) (start : Request) :
      (path.foldl (moved call operation) start).history =
        start.history ++ entriesAlong call operation start.status path := by
    induction path generalizing start with
    | nil => rw [entriesAlong, List.append_nil, List.foldl_nil]
    | cons target rest inductionHypothesis =>
        rw [List.foldl_cons, inductionHypothesis, entriesAlong]
        exact List.append_assoc _ _ _
  have status := part_prepared Request.status request operation call office fresh
    fun _ _ _ _ _ _ _ => rfl
  have history := part_prepared Request.history request operation call office fresh
    fun _ _ _ _ _ _ _ => rfl
  have settled : ((request.prepared operation call office fresh).settled call operation
      (request.path operation)).history =
        request.history ++ entriesAlong call operation request.status (request.path operation) := by
    rw [← status, ← history]
    cases request.path operation with
    | nil => exact (List.append_nil _).symm
    | cons target rest => exact walked (target :: rest) _
  unfold carriedOut counted
  split <;> exact settled

end Request

section Step

variable {reached : Request} {attempt : Attempt}

/-- An accepted operation adds its entries behind the history, and they lead on. -/
theorem Request.history_carriedOutBy (admitted : reached.AdmitsAttempt attempt) :
    ∃ added, (reached.carriedOutBy attempt).history = reached.history ++ added ∧
      added.length = reached.entriesFor attempt.operation ∧
      Walks reached.status added (reached.carriedOutBy attempt).status := by
  have allowed := (Permission.decide_eq_ok_iff.mp admitted.1).1
  refine ⟨_, history_carriedOut .., ?_, ?_⟩
  · rw [length_entriesAlong, length_path]
  · rw [carriedOutBy, status_carriedOut]
    exact walks_entriesAlong _ _ ((reached.isChain_path allowed).imp fun _ _ made => made.reaches)

/-- The version rises by one, or by the number of entries if there are more. -/
theorem Request.version_carriedOutBy
    (room : reached.version.toNat + max 1 (reached.entriesFor attempt.operation) <
      UInt64.size) :
    (reached.carriedOutBy attempt).version.toNat =
      reached.version.toNat + max 1 (reached.entriesFor attempt.operation) := by
  rw [carriedOutBy, version_carriedOut, toNat_iterate_nextVersion, length_path]
  omega

end Step

theorem walks_run {request : Request} (fresh : request.status = .draft)
    (unmoved : request.history = []) (attempts : List Attempt) :
    Walks .draft (request.after attempts).history (request.after attempts).status := by
  refine @Request.run_induction (fun reached _ => Walks .draft reached.history reached.status)
    request ?_ ?_ ?_ attempts
  · rw [fresh, unmoved]
    exact .stay .draft
  · intro reached _ attempt walked admitted
    obtain ⟨added, grown, -, onward⟩ := Request.history_carriedOutBy admitted
    rw [grown]
    exact walked.append onward
  · intro reached _ attempt walked refused
    exact walked

/-- What `begin` opens is a draft that has not moved. -/
theorem Request.begin_unmoved {routes : RouteTable} {id eventId : Identifier} {new : NewRequest}
    {call : Call} {request : Request} {events : List Event}
    (opened : Request.begin id new routes call eventId = .ok (request, events)) :
    request.status = .draft ∧ request.history = [] := by
  obtain ⟨route, -, rfl, -⟩ := exists_of_begin opened
  exact ⟨rfl, rfl⟩

/-- However a request is worked on, its history walks the table of statuses from
the draft to where the request stands. Whatever is attempted then only adds to
it: an accepted operation its number of entries, raising the version by as many
and by one at least, a refused one nothing. In a status that is final nothing is
accepted. -/
theorem history_walks_the_table {routes : RouteTable} {id eventId : Identifier} {new : NewRequest}
    {call : Call} {request : Request} {events : List Event}
    (opened : Request.begin id new routes call eventId = .ok (request, events))
    (attempts : List Attempt) :
    let reached := request.after attempts
    Walks .draft reached.history reached.status ∧
      ∀ attempt : Attempt,
        let outcome := reached.outcomeOf attempt
        let entries := reached.entriesFor attempt.operation
        (∃ added, outcome.request.history = reached.history ++ added ∧
          added.length = if outcome.accepted then entries else 0) ∧
        (outcome.accepted = true → reached.version.toNat + max 1 entries < UInt64.size →
          outcome.request.version.toNat = reached.version.toNat + max 1 entries) ∧
        (outcome.accepted = false → outcome.request = reached) ∧
        (reached.status = .completed ∨ reached.status = .cancelled →
          outcome.accepted = false) := by
  intro reached
  obtain ⟨draft, unmoved⟩ := Request.begin_unmoved opened
  refine ⟨walks_run draft unmoved attempts, fun attempt => ?_⟩
  intro outcome entries
  by_cases admitted : reached.AdmitsAttempt attempt
  · have accepted : outcome.accepted = true := Request.accepted_outcomeOf_iff.mpr admitted
    have carriedOut : outcome.request = reached.carriedOutBy attempt := by
      rw [show outcome = _ from Request.outcomeOf_of_admits admitted]
    obtain ⟨added, grown, counted, -⟩ := Request.history_carriedOutBy admitted
    rw [accepted, carriedOut]
    refine ⟨⟨added, grown, counted⟩, fun _ room => Request.version_carriedOutBy room,
      fun refused => absurd refused (by decide), fun final => ?_⟩
    have allowed := (Permission.decide_eq_ok_iff.mp admitted.1).1
    have terminal : reached.status.isTerminal = true := by
      rcases final with same | same <;> rw [same] <;> rfl
    exact absurd allowed (Request.not_mem_allowedFrom_of_isTerminal terminal)
  · have refused : outcome.accepted = false := by
      rw [Bool.eq_false_iff]
      exact fun accepted => admitted (Request.accepted_outcomeOf_iff.mp accepted)
    have unchanged : outcome.request = reached :=
      Request.request_outcomeOf_of_not_admits admitted
    rw [refused, unchanged]
    exact ⟨⟨[], (List.append_nil _).symm, rfl⟩, fun accepted => absurd accepted (by decide),
      fun _ => rfl, fun _ => rfl⟩

/-- A review that was started over has walked four moves, and the approval that
ends it is the fifth. -/
theorem second_round_walks_the_table :
    Request.begin (.numbered 5) Sample.newRequest (.configured Sample.changes) Sample.call
        (.numbered 6) = .ok (Sample.opened, [Sample.opening]) ∧
      let reached := Sample.opened.after Sample.secondRound
      let outcome := reached.outcomeOf (Sample.attempt .approve 40)
      Walks .draft reached.history .inAnalysis ∧
        reached.history.length = 4 ∧
        reached.version = 9 ∧
        (∃ added, outcome.request.history = reached.history ++ added ∧ added.length = 1) ∧
        outcome.request.version.toNat = 10 := by
  have opened : Request.begin (.numbered 5) Sample.newRequest (.configured Sample.changes)
      Sample.call (.numbered 6) = .ok (Sample.opened, [Sample.opening]) := rfl
  have inAnalysis : (Sample.opened.after Sample.secondRound).status = .inAnalysis := by
    decide +kernel
  have four : (Sample.opened.after Sample.secondRound).history.length = 4 := by decide +kernel
  have nine : (Sample.opened.after Sample.secondRound).version = 9 := by decide +kernel
  have one : (Sample.opened.after Sample.secondRound).entriesFor .approve = 1 := by decide +kernel
  have accepted : ((Sample.opened.after Sample.secondRound).outcomeOf
      (Sample.attempt .approve 40)).accepted = true := by decide +kernel
  obtain ⟨walked, onward⟩ := history_walks_the_table opened Sample.secondRound
  obtain ⟨added, raised, -⟩ := onward (Sample.attempt .approve 40)
  rw [show (Sample.attempt .approve 40).operation = .approve from rfl, one] at added raised
  rw [accepted, if_pos rfl] at added
  rw [nine] at raised
  rw [inAnalysis] at walked
  exact ⟨opened, walked, four, nine, added, raised accepted (by decide)⟩

end BenefitCasework
