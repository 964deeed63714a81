import BenefitCasework.Proofs.Audit.Chain
import BenefitCasework.Proofs.Audit.Recording
import BenefitCasework.Proofs.Audit.Signing
import Mathlib.Data.List.Nodup

/-!
Contract: one recorder after the other keeps one chain, whatever fails.

Owns:
- `RecorderMove`, all that may happen to the audit log and its recorder;
- `Custody`, a recorder with what it and those before it accepted, each entry
  with the signer that was to sign it;
- `Sealing.Finding`, what a look at an entry has to find;
- `Custody.Kept`, what every run keeps, and `recorder_keeps_the_chain`.

The signer may fail at any call, the store may refuse any entry, and a new
recorder may take up the chain at any time. Does not own: what is recorded.
-/

namespace BenefitCasework

/-! ### Seals -/

namespace Recorder

variable {signer current : Signer} {entry : AuditEntry}

/-- The seal of an entry does not depend on the seal it had before. -/
theorem sealedBy_nextEntry (recorder : Recorder) (draft : AuditDraft) (id : Identifier) :
    (recorder.nextEntry draft id).sealedBy =
      sealFor recorder.signer (recorder.nextEntry draft id) :=
  rfl

theorem verifyEntry_of_failure {reason : SigningError}
    (sealedBy : entry.sealedBy = sealFor signer entry)
    (failed : signer.sign entry.canonicalBytes = .error reason) :
    verifyEntry current entry = .unsigned := by
  rw [sealFor, failed] at sealedBy
  rw [verifyEntry, sealedBy]
  exact if_pos rfl

theorem verifyEntry_of_sign {signature : String} (sealedBy : entry.sealedBy = sealFor signer entry)
    (signed : signer.sign entry.canonicalBytes = .ok signature) :
    verifyEntry signer entry = .valid := by
  rw [sealFor, signed] at sealedBy
  exact verifyEntry_of_fit sealedBy rfl signed

theorem verifyEntry_of_otherName {signature : String}
    (sealedBy : entry.sealedBy = sealFor signer entry)
    (signed : signer.sign entry.canonicalBytes = .ok signature)
    (otherName : signer.keyId ≠ current.keyId) : verifyEntry current entry = .invalid := by
  rw [sealFor, signed] at sealedBy
  exact verifyEntry_of_misfit sealedBy fun sameName => absurd sameName otherName

end Recorder

/-! ### Where a chain goes on -/

namespace ChainHead

theorem lastHash_ofLog (log : AuditLog) :
    (ofLog log).lastHash = log.getLast?.map AuditEntry.contentHash := by
  unfold ofLog
  cases log.getLast? with
  | none => rfl
  | some entry => rfl

theorem ofLog_append_singleton (log : AuditLog) (entry : AuditEntry) :
    ofLog (log ++ [entry]) = ⟨entry.sequence, some entry.contentHash⟩ := by
  rw [ofLog, List.getLast?_concat]

/-- A linked log goes on behind the number of its entries. -/
theorem sequence_ofLog {log : AuditLog} (linked : log.Linked) :
    (ofLog log).sequence = UInt64.ofNat log.length := by
  rcases List.eq_nil_or_concat' log with rfl | ⟨front, entry, rfl⟩
  · rfl
  · have numbered := (linked front.length entry List.getElem?_concat_length).1
    rw [ofLog_append_singleton, numbered, List.length_append, List.length_singleton]

end ChainHead

/-- The entry that has an identifier is found by it, where no two have one. -/
theorem AuditLog.get?_of_nodup {log : AuditLog} (distinct : (log.map AuditEntry.id).Nodup)
    {entry : AuditEntry} (member : entry ∈ log) : log.get? entry.id = some entry := by
  unfold get?
  cases found : log.find? fun present => present.id == entry.id with
  | none =>
      have missed := List.find?_eq_none.mp found entry member
      exact absurd (beq_self_eq_true entry.id) missed
  | some present =>
      have same : present.id = entry.id := by simpa using List.find?_some found
      rw [List.inj_on_of_nodup_map distinct (List.mem_of_find?_eq_some found) member same]

/-! ### Moves -/

/-- What may happen to an audit log and its recorder. -/
inductive RecorderMove where
  /-- Something is to be recorded under a new identifier. -/
  | record (draft : AuditDraft) (id : Identifier)
  /-- Another recorder takes up the chain that is in the store. -/
  | restart (signer : Signer)
  /-- The signer changes under the recorder: its key gets out of reach, or is back. -/
  | signer (signer : Signer)
  /-- The store begins to refuse entries, or takes them again. -/
  | store (isFull : Bool) (refusal : AuditError)

/-- An entry with the signer that was to sign it. -/
structure Sealing where
  signer : Signer
  entry : AuditEntry

/-- What a look at the entry has to find while a signer is in use. Nothing is said
of another key with the same name. -/
inductive Sealing.Finding (sealing : Sealing) (current : Signer) : SealCheck → Prop where
  | unsigned {reason : SigningError}
      (failed : sealing.signer.sign sealing.entry.canonicalBytes = .error reason) :
      Finding sealing current .unsigned
  | valid {signature : String}
      (signed : sealing.signer.sign sealing.entry.canonicalBytes = .ok signature)
      (sameName : sealing.signer.keyId = current.keyId)
      (sameKey : sealing.signer.key = current.key) : Finding sealing current .valid
  | invalid {signature : String}
      (signed : sealing.signer.sign sealing.entry.canonicalBytes = .ok signature)
      (otherName : sealing.signer.keyId ≠ current.keyId) : Finding sealing current .invalid

/-- A recorder with what it and those before it accepted. -/
structure Custody where
  recorder : Recorder
  sealings : List Sealing

namespace Custody

def start (signer : Signer) : Custody := ⟨.start [] signer, []⟩

def move (custody : Custody) : RecorderMove → Custody
  | .record draft id =>
      let (recorder, answer) := custody.recorder.record draft id
      match answer with
      | .ok entry => ⟨recorder, custody.sealings ++ [⟨custody.recorder.signer, entry⟩]⟩
      | .error _ => { custody with recorder := recorder }
  | .restart signer => { custody with recorder := custody.recorder.restart signer }
  | .signer signer => { custody with recorder := { custody.recorder with signer := signer } }
  | .store isFull refusal =>
      { custody with
        recorder := { custody.recorder with isFull := isFull, refusal := refusal } }

/-- What a row of moves does. -/
def run (custody : Custody) (moves : List RecorderMove) : Custody := moves.foldl move custody

/-- The log is the linked chain of what was accepted, and the recorder stands
behind its last entry. -/
structure Kept (custody : Custody) : Prop where
  entries : custody.recorder.log = custody.sealings.map Sealing.entry
  linked : custody.recorder.log.Linked
  head : custody.recorder.head = .ofLog custody.recorder.log
  distinct : (custody.recorder.log.map AuditEntry.id).Nodup
  closed : ∀ sealing ∈ custody.sealings,
    sealing.entry.sealedBy = Recorder.sealFor sealing.signer sealing.entry

theorem kept_start (signer : Signer) : (start signer).Kept :=
  ⟨rfl, fun _ _ found => (nomatch found), rfl, List.nodup_nil,
    fun _ member => absurd member List.not_mem_nil⟩

section Steps

variable {custody : Custody}

/-- Where the chain stays as it is, all is kept. -/
theorem Kept.sameChain (kept : custody.Kept) {after : Recorder}
    (same : Recorder.SameChain custody.recorder after) :
    Kept { custody with recorder := after } := by
  refine ⟨same.log.trans kept.entries, ?_, ?_, ?_, kept.closed⟩
  · rw [same.log]
    exact kept.linked
  · rw [same.head, same.log]
    exact kept.head
  · rw [same.log]
    exact kept.distinct

/-- The entry that is made next has its place behind the others. -/
theorem Kept.linked_nextEntry (kept : custody.Kept) (draft : AuditDraft) (id : Identifier) :
    AuditLog.Linked (custody.recorder.log ++ [custody.recorder.nextEntry draft id]) := by
  refine AuditLog.linked_append_singleton kept.linked ?_ ?_
  · change custody.recorder.head.sequence + 1 = _
    rw [kept.head, ChainHead.sequence_ofLog kept.linked, UInt64.ofNat_add]
    rfl
  · change custody.recorder.head.lastHash = _
    rw [kept.head, ChainHead.lastHash_ofLog]

/-- What an accepted record adds is linked, sealed and of its own identifier. -/
theorem Kept.extends (kept : custody.Kept) {draft : AuditDraft} {id : Identifier}
    (room : custody.recorder.refusalOf? id = none) {after : Recorder}
    (longer : Recorder.Extends custody.recorder after (custody.recorder.nextEntry draft id)) :
    Kept ⟨after, custody.sealings ++
      [⟨custody.recorder.signer, custody.recorder.nextEntry draft id⟩]⟩ := by
  have unused : id ∉ custody.recorder.log.map AuditEntry.id :=
    Recorder.not_mem_of_room room
  refine ⟨?_, ?_, ?_, ?_, ?_⟩
  · rw [longer.log, kept.entries, List.map_append, List.map_singleton]
  · rw [longer.log]
    exact kept.linked_nextEntry draft id
  · rw [longer.log, longer.head, ChainHead.ofLog_append_singleton]
  · rw [longer.log, List.map_append, List.map_singleton]
    exact List.nodup_append_comm.mp (List.nodup_cons.mpr ⟨unused, kept.distinct⟩)
  · intro sealing member
    rcases List.mem_append.mp member with before | last
    · exact kept.closed sealing before
    · rw [List.mem_singleton.mp last]
      exact Recorder.sealedBy_nextEntry _ _ _

theorem kept_move (kept : custody.Kept) (step : RecorderMove) : (custody.move step).Kept := by
  cases step with
  | record draft id =>
      cases refused : custody.recorder.refusalOf? id with
      | some reason =>
          obtain ⟨answer, same⟩ := Recorder.record_of_refusal refused draft
          simp only [move, answer]
          exact kept.sameChain same
      | none =>
          obtain ⟨answer, longer⟩ := Recorder.record_of_room refused draft
          simp only [move, answer]
          exact kept.extends refused longer
  | restart signer =>
      exact kept.sameChain ⟨rfl, kept.head.symm⟩
  | signer signer => exact kept.sameChain ⟨rfl, rfl⟩
  | store isFull refusal => exact kept.sameChain ⟨rfl, rfl⟩

end Steps

theorem kept_run {custody : Custody} (kept : custody.Kept) (moves : List RecorderMove) :
    (custody.run moves).Kept := by
  induction moves generalizing custody with
  | nil => exact kept
  | cons step rest inductionHypothesis => exact inductionHypothesis (kept_move kept step)

/-- A look at what was accepted finds what it has to find. -/
theorem Kept.verify {custody : Custody} (kept : custody.Kept) {sealing : Sealing}
    (member : sealing ∈ custody.sealings) {finding : SealCheck}
    (expected : sealing.Finding custody.recorder.signer finding) :
    custody.recorder.verify sealing.entry.id = .ok finding := by
  have inLog : sealing.entry ∈ custody.recorder.log :=
    kept.entries ▸ List.mem_map_of_mem member
  have closed := kept.closed sealing member
  rw [Recorder.verify, AuditLog.get?_of_nodup kept.distinct inLog]
  refine congrArg Except.ok ?_
  cases expected with
  | unsigned failed => exact Recorder.verifyEntry_of_failure closed failed
  | valid signed sameName sameKey =>
      have same : sealing.signer = custody.recorder.signer :=
        (Signer.mk.injEq ..).mpr ⟨sameName, sameKey⟩
      rw [← same]
      exact Recorder.verifyEntry_of_sign closed signed
  | invalid signed otherName => exact Recorder.verifyEntry_of_otherName closed signed otherName

end Custody

/-- From an empty log on, whatever fails and whoever takes over: what was accepted
is what is stored, each entry with the number of its place and the content hash of
the one before; the chain is found intact with all of them; only the store refuses a
record, which leaves the log and the place of the next entry as they were; and a look
at an entry tells whether it was signed, and by the signer in use or by another. -/
theorem recorder_keeps_the_chain (signer : Signer) (moves : List RecorderMove) :
    let reached := (Custody.start signer).run moves
    reached.recorder.log = reached.sealings.map Sealing.entry ∧
      reached.recorder.log.Linked ∧
      reached.recorder.log.verifyChain = .intact reached.sealings.length ∧
      (∀ (draft : AuditDraft) (id : Identifier) (reason : AuditError),
        (reached.recorder.record draft id).2 = .error reason →
          reached.recorder.refusalOf? id = some reason ∧
            Recorder.SameChain reached.recorder (reached.recorder.record draft id).1) ∧
      ∀ sealing ∈ reached.sealings, ∀ finding : SealCheck,
        sealing.Finding reached.recorder.signer finding →
          reached.recorder.verify sealing.entry.id = .ok finding := by
  intro reached
  have kept : reached.Kept := Custody.kept_run (Custody.kept_start signer) moves
  have size : reached.sealings.length = reached.recorder.log.length := by
    rw [kept.entries, List.length_map]
  refine ⟨kept.entries, kept.linked, ?_, ?_, ?_⟩
  · exact AuditLog.verifyChain_eq_intact_iff.mpr ⟨kept.linked, size⟩
  · intro draft id reason refused
    exact Recorder.refusal_of_error refused
  · intro sealing member finding expected
    exact kept.verify member expected

namespace Sample

def draft : AuditDraft :=
  ⟨"benefit_request", "5", "submit", clerk, oddChanges, .newYear2025⟩

def auditor : Signer := ⟨"audit-1", some [7, 7, 7]⟩

def unarmedAuditor : Signer := { auditor with key := none }

def successor : Signer := ⟨"audit-2", some [8]⟩

/-- The key gets out of reach, the disk is full, another signer takes over, and one
identifier is used again. -/
def mishaps : List RecorderMove :=
  [.record draft (.numbered 1), .signer unarmedAuditor, .record draft (.numbered 2),
    .store true (.storage "disk full"), .record draft (.numbered 3), .restart successor,
    .store false (.storage "disk full"), .record draft (.numbered 3), .record draft (.numbered 2)]

end Sample

/-- Three entries are accepted: one signed by the signer before, one unsigned, one
signed by the signer in use. -/
theorem chain_kept_through_mishaps :
    let reached := (Custody.start Sample.auditor).run Sample.mishaps
    reached.sealings.map Sealing.signer =
        [Sample.auditor, Sample.unarmedAuditor, Sample.successor] ∧
      reached.recorder.log.verifyChain = .intact 3 ∧
      reached.recorder.verify (.numbered 1) = .ok .invalid ∧
      reached.recorder.verify (.numbered 2) = .ok .unsigned ∧
      reached.recorder.verify (.numbered 3) = .ok .valid := by
  intro reached
  obtain ⟨first, second, third, accepted, firstId, secondId, thirdId⟩ :
      ∃ first second third : AuditEntry,
        reached.sealings = [⟨Sample.auditor, first⟩, ⟨Sample.unarmedAuditor, second⟩,
          ⟨Sample.successor, third⟩] ∧
        first.id = .numbered 1 ∧ second.id = .numbered 2 ∧ third.id = .numbered 3 :=
    ⟨_, _, _, rfl, rfl, rfl, rfl⟩
  have kept := recorder_keeps_the_chain Sample.auditor Sample.mishaps
  have intact : reached.recorder.log.verifyChain = .intact reached.sealings.length := kept.2.2.1
  have found : ∀ sealing ∈ reached.sealings, ∀ finding : SealCheck,
      sealing.Finding Sample.successor finding →
        reached.recorder.verify sealing.entry.id = .ok finding := kept.2.2.2.2
  have otherName : Sample.auditor.keyId ≠ Sample.successor.keyId := by decide
  rw [accepted] at found intact
  rw [← firstId, ← secondId, ← thirdId, accepted]
  refine ⟨rfl, intact, ?_, ?_, ?_⟩
  · exact found ⟨Sample.auditor, first⟩ (by simp) _ (.invalid rfl otherName)
  · exact found ⟨Sample.unarmedAuditor, second⟩ (by simp) _ (.unsigned rfl)
  · exact found ⟨Sample.successor, third⟩ (by simp) _ (.valid rfl rfl rfl)

end BenefitCasework
