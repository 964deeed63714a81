import BenefitCasework.Proofs.Audit.Differences
import BenefitCasework.Proofs.Desk.Serving
import BenefitCasework.Proofs.Stream

/-!
Contract: the audit trail of a request tells how it came to be.

Owns:
- `Demand.Unheard`, that nothing is recorded of a request before it is created;
- `Filing` and `Worked`, a desk at work with the requests that it filed one
  after the other;
- `Desk.changesAlong`, the changes from version to version of a request;
- `Retraced`, what every desk at work keeps: the trail holds just those changes;
- `replay`, what a trail makes of an empty record, and
  `trail_retraces_request`.

The log may tell of other requests from the start, and between two calls everything
may change but the requests on file and the entries about them. Does not own: seals,
and the chain of entries.
-/

namespace BenefitCasework

/-- A request as it was filed. -/
structure Filing where
  id : Identifier
  request : Request

/-- What was filed of one request, one version after the other. -/
def versionsOf (id : Identifier) (filings : List Filing) : List Request :=
  (filings.filter fun filing => decide (filing.id = id)).map Filing.request

/-- What a call has filed. -/
def Reply.filings (reply : Reply) (id : Identifier) : List Filing :=
  match reply.result with
  | .ok (request, _) => [⟨id, request⟩]
  | .error _ => []

/-- Nothing is recorded of the request that is to be created. -/
def Demand.Unheard (demand : Demand) (desk : Desk) (fresh : Nat → Identifier) : Prop :=
  match demand with
  | .create _ => desk.trail (fresh 0) = []
  | .perform _ _ _ => True

/-- A desk at work. It starts with nothing on file; between its calls anything may
happen that leaves alone what is on file and what is recorded of it. -/
inductive Worked : List Filing → Desk → Prop where
  | start {desk : Desk} (nothing : desk.register = []) : Worked [] desk
  | serve {filings : List Filing} {desk : Desk} (before : Worked filings desk) (call : Call)
      (demand : Demand) (fresh : Nat → Identifier) (vacant : demand.Vacant desk.register fresh)
      (unheard : demand.Unheard desk fresh) :
      Worked (filings ++ (desk.serve call demand fresh).filings (demand.subject fresh))
        (desk.serve call demand fresh).desk
  | rearrange {filings : List Filing} {desk after : Desk} (before : Worked filings desk)
      (sameRegister : after.register = desk.register)
      (sameTrails : ∀ id stored, desk.register.get? id = some stored →
        after.trail id = desk.trail id) : Worked filings after

section Versions

variable {id other : Identifier} {filings : List Filing} {request : Request}

theorem versionsOf_append_self :
    versionsOf id (filings ++ [⟨id, request⟩]) = versionsOf id filings ++ [request] := by
  simp [versionsOf]

theorem versionsOf_append_other (different : other ≠ id) :
    versionsOf id (filings ++ [⟨other, request⟩]) = versionsOf id filings := by
  simp [versionsOf, different]

end Versions

namespace Desk

/-! ### Changes from version to version -/

/-- The changes along some versions that follow another one, or nothing. -/
def changesAlong (before : Option Request) : List Request → List Changes
  | [] => []
  | version :: rest => changes before version :: changesAlong (some version) rest

theorem length_changesAlong (before : Option Request) (versions : List Request) :
    (changesAlong before versions).length = versions.length := by
  induction versions generalizing before with
  | nil => rfl
  | cons version rest inductionHypothesis =>
      rw [changesAlong, List.length_cons, List.length_cons, inductionHypothesis]

theorem changesAlong_append (before : Option Request) (front back : List Request) :
    changesAlong before (front ++ back) =
      changesAlong before front ++ changesAlong (front.getLast?.or before) back := by
  induction front generalizing before with
  | nil => rfl
  | cons version rest inductionHypothesis =>
      have last : (version :: rest).getLast?.or before = rest.getLast?.or (some version) := by
        rw [List.getLast?_cons]
        cases rest.getLast? <;> rfl
      rw [List.cons_append, changesAlong, changesAlong, inductionHypothesis, last, List.cons_append]

/-- The changes at a place are those from the version before it. -/
theorem changesAlong_at {versions : List Request} {place : Nat} (below : place < versions.length) :
    (changesAlong none versions)[place]? =
        some (changes (versions.take place).getLast? versions[place]) ∧
      (changesAlong none versions).take place = changesAlong none (versions.take place) := by
  have split : versions = versions.take place ++ versions[place] :: versions.drop (place + 1) := by
    rw [← List.drop_eq_getElem_cons below, List.take_append_drop]
  have rows := changesAlong_append none (versions.take place)
    (versions[place] :: versions.drop (place + 1))
  rw [← split, Option.or_none, changesAlong] at rows
  have full : (changesAlong none (versions.take place)).length = place := by
    rw [length_changesAlong, List.length_take_of_le (Nat.le_of_lt below)]
  rw [rows]
  exact ⟨by simp [full], List.take_left' full⟩

/-- The fields of a request that are audited, and nothing where there is none. -/
def auditedOf (version : Option Request) : Json := (version.map audited).getD nothing

/-- The changes along some versions make the last one of an empty record. -/
theorem replayed_changesAlong (versions : List Request) (name : String) :
    (Changes.replayed (changesAlong none versions)).fieldOrNull name =
      (auditedOf versions.getLast?).sorted.fieldOrNull name := by
  induction versions using List.reverseRecOn with
  | nil => rfl
  | append_singleton versions last inductionHypothesis =>
      have added : changesAlong none (versions ++ [last]) =
          changesAlong none versions ++
            [Changes.between (auditedOf versions.getLast?) (audited last)] := by
        rw [changesAlong_append, Option.or_none]
        rfl
      rw [added, Changes.replayed_append_singleton, List.getLast?_concat, Changes.get?_between]
      rw [Json.fieldOrNull_sorted] at inductionHypothesis
      split
      · rename_i change read
        split at read
        · cases read
        · cases read
          exact (Json.fieldOrNull_sorted ..).symm
      · rename_i read
        split at read
        · rename_i same
          rw [inductionHypothesis, same]
          exact (Json.fieldOrNull_sorted ..).symm
        · cases read

/-! ### Entries about one request -/

section Extended

variable {desk after : Desk} {call : Call} {name : OperationName} {subject id : Identifier}
  {request : Request} {events : List Event} {entryId : Identifier}

theorem trail_of_untouched (untouched : Untouched desk after) :
    after.trail id = desk.trail id := by
  rw [trail, trail, untouched.chain.log]

/-- An entry about a request shows in the trail of that request alone. -/
theorem trail_of_committed
    (committed : Committed desk after subject (desk.entryFor call name subject request entryId)
      request events) :
    after.trail id = if subject = id
      then desk.trail id ++ [desk.entryFor call name subject request entryId]
      else desk.trail id := by
  have told : (desk.entryFor call name subject request entryId).subjectId = subject.text := rfl
  have kind : (desk.entryFor call name subject request entryId).subjectType = subjectType := rfl
  rw [trail, trail, committed.chain.log, AuditLog.trail, List.filter_append]
  split
  · rename_i same
    subst same
    simp [kind, told, AuditLog.trail]
  · rename_i different
    have other : ¬ subject.text = id.text := fun equal =>
      different (Identifier.text_injective equal)
    simp [kind, told, other, AuditLog.trail]

end Extended

/-- What is filed for the first time was created. -/
theorem unheard_of_proposed {desk : Desk} {call : Call} {demand : Demand}
    {fresh : Nat → Identifier} {proposal : Proposal} (unheard : demand.Unheard desk fresh)
    (proposed : desk.propose call demand fresh = .ok proposal)
    (absent : desk.register.get? (demand.subject fresh) = none) :
    desk.trail (demand.subject fresh) = [] := by
  cases demand with
  | create new => exact unheard
  | perform id expected operation =>
      have unknown : desk.register.get? id = none := absent
      simp only [propose, unknown] at proposed
      cases proposed

/-- Of each request, the last version is on file, and its trail tells the
changes from version to version. -/
structure Retraced (filings : List Filing) (desk : Desk) : Prop where
  onFile : ∀ id, desk.register.get? id = (versionsOf id filings).getLast?
  told : ∀ id stored, desk.register.get? id = some stored →
    (desk.trail id).map AuditEntry.changes = changesAlong none (versionsOf id filings)

namespace Retraced

variable {filings : List Filing} {desk after : Desk}

theorem keep (retraced : Retraced filings desk) (sameRegister : after.register = desk.register)
    (sameTrails : ∀ id stored, desk.register.get? id = some stored →
      after.trail id = desk.trail id) : Retraced filings after := by
  refine ⟨fun id => by rw [sameRegister, retraced.onFile id], fun id stored found => ?_⟩
  rw [sameRegister] at found
  rw [sameTrails id stored found, retraced.told id stored found]

/-- What is to be filed anew has no trail, and everything else has its own. -/
theorem told_or_unheard (retraced : Retraced filings desk) {subject : Identifier}
    (unheard : desk.register.get? subject = none → desk.trail subject = []) :
    (desk.trail subject).map AuditEntry.changes =
      changesAlong none (versionsOf subject filings) := by
  cases found : desk.register.get? subject with
  | some stored => exact retraced.told subject stored found
  | none =>
      have nothing : versionsOf subject filings = [] :=
        List.getLast?_eq_none_iff.mp ((retraced.onFile subject).symm.trans found)
      rw [unheard found, nothing]
      rfl

/-- One more version is filed, and the entry tells what it changes. -/
theorem append (retraced : Retraced filings desk) {subject entryId : Identifier} {call : Call}
    {name : OperationName} {request : Request} {events : List Event}
    (unheard : desk.register.get? subject = none → desk.trail subject = [])
    (committed : Committed desk after subject (desk.entryFor call name subject request entryId)
      request events) :
    Retraced (filings ++ [⟨subject, request⟩]) after := by
  constructor
  · intro id
    rw [committed.register]
    by_cases same : subject = id
    · subst same
      rw [Table.get?_set_self, versionsOf_append_self, List.getLast?_concat]
    · rw [Table.get?_set_of_ne (Ne.symm same), versionsOf_append_other same, retraced.onFile id]
  · intro id stored found
    rw [trail_of_committed committed]
    by_cases same : subject = id
    · subst same
      have before : desk.register.get? subject = (versionsOf subject filings).getLast? :=
        retraced.onFile subject
      rw [if_pos rfl, versionsOf_append_self, changesAlong_append, Option.or_none, ← before,
        List.map_append, retraced.told_or_unheard unheard]
      rfl
    · rw [committed.register, Table.get?_set_of_ne (Ne.symm same)] at found
      rw [if_neg same, versionsOf_append_other same, retraced.told id stored found]

theorem serve (retraced : Retraced filings desk) {call : Call} {demand : Demand}
    {fresh : Nat → Identifier} (vacant : demand.Vacant desk.register fresh)
    (unheard : demand.Unheard desk fresh) :
    Retraced (filings ++ (desk.serve call demand fresh).filings (demand.subject fresh))
      (desk.serve call demand fresh).desk := by
  rcases serve_cases vacant with ⟨reason, answer, untouched⟩ |
    ⟨proposal, proposed, answer, committed⟩
  · rw [Reply.filings, answer, List.append_nil]
    exact retraced.keep untouched.register fun id stored found => trail_of_untouched untouched
  · rw [Reply.filings, answer]
    exact retraced.append (unheard_of_proposed unheard proposed) committed

end Retraced

theorem retraced_worked {filings : List Filing} {desk : Desk} (worked : Worked filings desk) :
    Retraced filings desk := by
  induction worked with
  | start nothing =>
      refine ⟨fun id => ?_, fun id stored found => ?_⟩
      · rw [nothing]
        rfl
      · rw [nothing] at found
        cases found
  | serve before call demand fresh vacant unheard inductionHypothesis =>
      exact inductionHypothesis.serve vacant unheard
  | rearrange before sameRegister sameTrails inductionHypothesis =>
      exact inductionHypothesis.keep sameRegister sameTrails

/-! ### The trail and the request on file -/

/-- A field of the written form of a request, with the history left out. -/
def fieldWithoutHistory (request : Request) (name : String) : Json :=
  if name = "history" then .null else (Json.of request).sorted.fieldOrNull name

theorem fieldOrNull_audited (request : Request) (name : String) :
    (audited request).sorted.fieldOrNull name = fieldWithoutHistory request name := by
  have read : (audited request).fieldOrNull name =
      if name = "history" then .null else (Json.of request).fieldOrNull name := by
    rw [audited, Json.fieldOrNull, Json.field?, Json.lookup_filter fun field => field != "history"]
    by_cases history : name = "history"
    · simp [history]
    · simp [history]
      rfl
  rw [Json.fieldOrNull_sorted, read, fieldWithoutHistory, Json.fieldOrNull_sorted]
  split <;> rfl

/-- What changes from a version to the next is listed, but for the history. -/
theorem explain_changes (before : Option Request) (version : Request) :
    (changes before version).Explain (fun name => (auditedOf before).sorted.fieldOrNull name)
      (fieldWithoutHistory version) := by
  have after : (fun name => (audited version).sorted.fieldOrNull name) =
      fieldWithoutHistory version := by
    funext name
    exact fieldOrNull_audited version name
  rw [← after]
  exact Changes.explain_between _ _

end Desk

/-- What a trail makes of an empty record. -/
def replay (trail : List AuditEntry) : Json := Changes.replayed (trail.map AuditEntry.changes)

/-- Replaying its trail gives the request on file, field by field and without
its history; and each entry lists just the fields in which the version filed
with it differs from what the trail gives up to there. -/
theorem trail_retraces_request {filings : List Filing} {desk : Desk}
    (worked : Worked filings desk) {id : Identifier} {stored : Request}
    (onFile : desk.register.get? id = some stored) :
    let trail := desk.trail id
    let versions := versionsOf id filings
    (∀ name, (replay trail).fieldOrNull name = Desk.fieldWithoutHistory stored name) ∧
      versions.getLast? = some stored ∧
      versions.length = trail.length ∧
      ∀ (place : Nat) (entry : AuditEntry) (version : Request),
        trail[place]? = some entry → versions[place]? = some version →
          entry.changes.Explain (fun name => (replay (trail.take place)).fieldOrNull name)
            (Desk.fieldWithoutHistory version) := by
  intro trail versions
  obtain ⟨filed, told⟩ := Desk.retraced_worked worked
  have last : versions.getLast? = some stored := (filed id).symm.trans onFile
  have changed : trail.map AuditEntry.changes = Desk.changesAlong none versions :=
    told id stored onFile
  refine ⟨fun name => ?_, last, ?_, fun place entry version found filedThere => ?_⟩
  · rw [replay, changed, Desk.replayed_changesAlong, last]
    exact Desk.fieldOrNull_audited stored name
  · rw [← Desk.length_changesAlong none versions, ← changed, List.length_map]
  · obtain ⟨below, rfl⟩ := List.getElem?_eq_some_iff.mp filedThere
    obtain ⟨there, upToThere⟩ := Desk.changesAlong_at below
    rw [← changed, List.getElem?_map, found, Option.map_some, Option.some.injEq] at there
    rw [← changed, ← List.map_take] at upToThere
    have before : (fun name => (replay (trail.take place)).fieldOrNull name) =
        fun name => (Desk.auditedOf (versions.take place).getLast?).sorted.fieldOrNull name := by
      funext name
      rw [replay, upToThere, Desk.replayed_changesAlong]
    rw [there, before]
    exact Desk.explain_changes _ _

namespace Sample

/-- The request was opened and then submitted. -/
def submitted : Request := (opened.apply .submit call (.demanding [] []) (.fresh 10)).request

def openedDesk : Desk := (desk.serve call (.create newRequest) (.fresh 4)).desk

def submittedDesk : Desk :=
  (openedDesk.serve call (.perform (.numbered 5) opened.version .submit) (.fresh 10)).desk

theorem worked_submitted :
    Worked [⟨.numbered 5, opened⟩, ⟨.numbered 5, submitted⟩] submittedDesk := by
  have start : Worked [] desk := .start rfl
  have created := start.serve call (.create newRequest) (.fresh 4) rfl rfl
  have performed := created.serve call (.perform (.numbered 5) opened.version .submit)
    (.fresh 10) trivial trivial
  exact performed

end Sample

/-- The trail of a submitted request tells its status. -/
theorem submission_is_retraced :
    Worked [⟨.numbered 5, Sample.opened⟩, ⟨.numbered 5, Sample.submitted⟩] Sample.submittedDesk ∧
      Sample.submittedDesk.register.get? (.numbered 5) = some Sample.submitted ∧
      (replay (Sample.submittedDesk.trail (.numbered 5))).fieldOrNull "status" =
        .string "InAnalysis" ∧
      (Sample.submittedDesk.trail (.numbered 5)).length = 2 := by
  have onFile : Sample.submittedDesk.register.get? (.numbered 5) = some Sample.submitted := rfl
  obtain ⟨retraced, -, counted, -⟩ := trail_retraces_request Sample.worked_submitted onFile
  exact ⟨Sample.worked_submitted, onFile, (retraced "status").trans rfl, counted.symm⟩

end BenefitCasework
