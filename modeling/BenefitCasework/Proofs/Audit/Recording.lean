import BenefitCasework.Audit.Recorder

/-!
Contract: one call of the recorder.

Owns:
- `Recorder.refusalOf?`, why the log would refuse an entry with an identifier;
- `Recorder.SameChain`, what a refused call leaves as it was;
- `record_of_refusal` and `record_of_room`, what a call comes to. Neither the
  draft nor the signer has a say in it;
- `refusal_of_error`, where a refusal comes from and what it leaves alone;
- `room_behind`, that one entry more takes the room from its identifier alone.

Does not own: rows of calls, and what the entries are worth.
-/

namespace BenefitCasework.Recorder

variable {recorder : Recorder} {id : Identifier}

def refusalOf? (recorder : Recorder) (id : Identifier) : Option AuditError :=
  if recorder.isFull then some recorder.refusal
  else if recorder.log.any fun present => present.id == id then some (.duplicateEntry id)
  else none

/-- The log and the head of the chain are as they were. -/
structure SameChain (before after : Recorder) : Prop where
  log : after.log = before.log
  head : after.head = before.head

/-- The log has one entry more, and the chain goes on behind it. -/
structure Extends (before after : Recorder) (entry : AuditEntry) : Prop where
  log : after.log = before.log ++ [entry]
  head : after.head = ⟨entry.sequence, some entry.contentHash⟩

theorem appendEntry_eq (entry : AuditEntry) :
    recorder.appendEntry entry =
      match recorder.refusalOf? entry.id with
      | some reason => .error reason
      | none => .ok (recorder.log ++ [entry]) := by
  unfold appendEntry refusalOf? AuditLog.append
  cases recorder.isFull with
  | true => rfl
  | false =>
      cases recorder.log.any fun present => present.id == entry.id with
      | true => rfl
      | false => rfl

theorem isOk_appendEntry_iff (entry : AuditEntry) :
    (recorder.appendEntry entry).isOk = true ↔ recorder.refusalOf? entry.id = none := by
  rw [appendEntry_eq]
  cases recorder.refusalOf? entry.id with
  | some reason => simp [Except.isOk, Except.toBool]
  | none => simp [Except.isOk, Except.toBool]

/-- There is room for an entry when the log is not full and does not know its
identifier. -/
theorem refusalOf?_eq_none_iff :
    recorder.refusalOf? id = none ↔
      recorder.isFull = false ∧ id ∉ recorder.log.map AuditEntry.id := by
  unfold refusalOf?
  cases recorder.isFull with
  | true => simp
  | false => simp

/-- What is not refused has an identifier that the log does not know. -/
theorem not_mem_of_room (room : recorder.refusalOf? id = none) :
    id ∉ recorder.log.map AuditEntry.id :=
  (refusalOf?_eq_none_iff.mp room).2

/-- A refused call answers with the refusal and leaves the chain alone. -/
theorem record_of_refusal {reason : AuditError} (refused : recorder.refusalOf? id = some reason)
    (draft : AuditDraft) :
    (recorder.record draft id).2 = .error reason ∧
      SameChain recorder (recorder.record draft id).1 := by
  have answer : recorder.appendEntry (recorder.nextEntry draft id) = .error reason := by
    rw [appendEntry_eq, show (recorder.nextEntry draft id).id = id from rfl, refused]
  simp only [record, answer]
  exact ⟨trivial, rfl, rfl⟩

/-- Any other call appends the next entry of the chain. -/
theorem record_of_room (room : recorder.refusalOf? id = none) (draft : AuditDraft) :
    (recorder.record draft id).2 = .ok (recorder.nextEntry draft id) ∧
      Extends recorder (recorder.record draft id).1 (recorder.nextEntry draft id) := by
  have answer : recorder.appendEntry (recorder.nextEntry draft id) =
      .ok (recorder.log ++ [recorder.nextEntry draft id]) := by
    rw [appendEntry_eq, show (recorder.nextEntry draft id).id = id from rfl, room]
  simp only [record, answer]
  exact ⟨trivial, rfl, rfl⟩

/-- What is refused is refused by the log, and the chain is left alone. -/
theorem refusal_of_error {draft : AuditDraft} {reason : AuditError}
    (refused : (recorder.record draft id).2 = .error reason) :
    recorder.refusalOf? id = some reason ∧ SameChain recorder (recorder.record draft id).1 := by
  cases because : recorder.refusalOf? id with
  | some cause =>
      obtain ⟨answer, same⟩ := record_of_refusal because draft
      rw [answer] at refused
      cases refused
      exact ⟨rfl, same⟩
  | none =>
      rw [(record_of_room because draft).1] at refused
      cases refused

@[simp]
theorem signer_record (recorder : Recorder) (draft : AuditDraft) (id : Identifier) :
    (recorder.record draft id).1.signer = recorder.signer := by
  unfold record
  dsimp only
  split <;> rfl

@[simp]
theorem isFull_record (recorder : Recorder) (draft : AuditDraft) (id : Identifier) :
    (recorder.record draft id).1.isFull = recorder.isFull := by
  unfold record
  dsimp only
  split <;> rfl

/-- Behind one entry more there is still room for every other identifier. -/
theorem room_behind {later : Recorder} {entry : AuditEntry} (extended : Extends recorder later entry)
    (sameRoom : later.isFull = recorder.isFull) (room : recorder.refusalOf? id = none)
    (different : entry.id ≠ id) : later.refusalOf? id = none := by
  rw [refusalOf?_eq_none_iff] at room ⊢
  obtain ⟨notFull, unknown⟩ := room
  refine ⟨sameRoom.trans notFull, ?_⟩
  rw [extended.log, List.map_append, List.mem_append, not_or]
  exact ⟨unknown, by simpa using Ne.symm different⟩

end BenefitCasework.Recorder
