import BenefitCasework.Audit.Log
import BenefitCasework.Audit.Signer
import BenefitCasework.Metric

/-!
Contract: how entries get into the audit log.

Owns:
- `Recorder`, the log with its signer and the head of its chain;
- `Recorder.record`, which numbers, links, seals and appends an entry. Where
  signing fails, the entry is sealed with its digest; where the log refuses,
  nothing changes;
- `Recorder.restart`, which takes up the chain behind the last entry;
- `Recorder.verify`, whether the seal of an entry fits its content.

The log refuses while it has no room. Does not own: what is worth recording.
-/

namespace BenefitCasework

/-- Where the next entry is linked to the chain. -/
structure ChainHead where
  sequence : UInt64
  lastHash : Option String
deriving DecidableEq, Repr

def ChainHead.start : ChainHead := ⟨0, none⟩

def ChainHead.ofLog (log : AuditLog) : ChainHead :=
  match log.getLast? with
  | some entry => ⟨entry.sequence, some entry.contentHash⟩
  | none => start

/-- What a look at one seal finds. -/
inductive SealCheck where
  | valid
  | invalid
  | unsigned
deriving DecidableEq, Repr

def SealCheck.name : SealCheck → String
  | .valid => "Valid"
  | .invalid => "Invalid"
  | .unsigned => "Unsigned"

instance : JsonForm SealCheck where
  write finding := .string finding.name
  read? := Json.named? [.valid, .invalid, .unsigned] SealCheck.name

/-- The audit log with its signer and the head of its chain. While the log has
no room, it answers with its refusal. -/
structure Recorder where
  log : AuditLog
  signer : Signer
  head : ChainHead
  isFull : Bool
  refusal : AuditError
  tally : Tally

namespace Recorder

/-- A recorder that goes on behind the last entry of a log. -/
def start (log : AuditLog) (signer : Signer) : Recorder :=
  ⟨log, signer, .ofLog log, false, .storage "disk full", []⟩

def restart (recorder : Recorder) (signer : Signer) : Recorder :=
  { recorder with signer := signer, head := .ofLog recorder.log }

/-- The seal of an entry: a signature, or the digest where signing fails. -/
def sealFor (signer : Signer) (entry : AuditEntry) : Seal :=
  match signer.sign entry.canonicalBytes with
  | .ok signature => .signed signer.keyId signature
  | .error _ => .unsigned entry.contentHash

def nextEntry (recorder : Recorder) (draft : AuditDraft) (id : Identifier) : AuditEntry :=
  let entry : AuditEntry :=
    { id := id
      sequence := recorder.head.sequence + 1
      subjectType := draft.subjectType
      subjectId := draft.subjectId
      action := draft.action
      caller := draft.caller
      changes := draft.changes
      moment := draft.moment
      previousHash := recorder.head.lastHash
      sealedBy := .unsigned "" }
  { entry with sealedBy := sealFor recorder.signer entry }

/-- Appends an entry to the log, unless the log has no room. -/
def appendEntry (recorder : Recorder) (entry : AuditEntry) : Except AuditError AuditLog :=
  if recorder.isFull then .error recorder.refusal else recorder.log.append entry

/-- Records what a draft says. The recorder is returned also when the log
refuses: a failure to sign is counted even then. -/
def record (recorder : Recorder) (draft : AuditDraft) (id : Identifier) :
    Recorder × Except AuditError AuditEntry :=
  let entry := recorder.nextEntry draft id
  let tally := if entry.sealedBy.isSigned then recorder.tally
    else recorder.tally.bump .signatureFailures
  match recorder.appendEntry entry with
  | .error reason => ({ recorder with tally := tally }, .error reason)
  | .ok log =>
      ({ recorder with
          log := log
          head := ⟨entry.sequence, some entry.contentHash⟩
          tally := tally.bump (.auditEntries entry.sealedBy.isSigned) }, .ok entry)

def verifyEntry (signer : Signer) (entry : AuditEntry) : SealCheck :=
  match entry.sealedBy with
  | .signed keyId signature =>
      if keyId = signer.keyId ∧
          (signer.verify entry.canonicalBytes signature).toOption = some true then .valid
      else .invalid
  | .unsigned contentHash => if contentHash = entry.contentHash then .unsigned else .invalid

/-- Looks at the seal of the entry with an identifier. -/
def verify (recorder : Recorder) (id : Identifier) : Except AuditError SealCheck :=
  match recorder.log.get? id with
  | none => .error (.entryNotFound id)
  | some entry => .ok (verifyEntry recorder.signer entry)

def text (recorder : Recorder) : String :=
  "AuditRecorder \x7b key_id: " ++ Text.quoted recorder.signer.keyId ++ ", .. \x7d"

end Recorder

end BenefitCasework
