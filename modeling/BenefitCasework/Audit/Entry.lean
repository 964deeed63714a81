import BenefitCasework.Actor
import BenefitCasework.Audit.Change
import BenefitCasework.Calendar.Written
import BenefitCasework.Digest.Sha256
import BenefitCasework.Json.Writer
import BenefitCasework.Text.Base64
import BenefitCasework.Text.Utf8

/-!
Contract: one sealed line of the audit log.

Owns:
- `AuditEntry`, who did what to which subject, and the digest of the entry
  before it;
- `Seal`, a signature with the name of its key, or a plain digest where no
  signature could be had;
- `AuditEntry.canonicalText`, everything but the seal in one form;
- `AuditEntry.contentHash`, the digest of that text.

Does not own: signing, and the order of the log.
-/

namespace BenefitCasework

/-- What closes an entry. -/
inductive Seal where
  | signed (keyId signature : String)
  | unsigned (contentHash : String)
deriving DecidableEq, Repr

namespace Seal

def isSigned : Seal → Bool
  | .signed _ _ => true
  | .unsigned _ => false

instance : JsonForm Seal where
  write
    | .signed keyId signature =>
        .object [("Signed", .object [("key_id", Json.of keyId), ("signature", Json.of signature)])]
    | .unsigned contentHash =>
        .object [("Unsigned", .object [("content_hash", Json.of contentHash)])]
  read? value := do
    match ← Json.variant? value with
    | ("Signed", content) =>
        match ← Json.slots? ["key_id", "signature"] content with
        | [keyId, signature] => return .signed (← Json.required keyId) (← Json.required signature)
        | _ => none
    | ("Unsigned", content) =>
        match ← Json.slots? ["content_hash"] content with
        | [contentHash] => return .unsigned (← Json.required contentHash)
        | _ => none
    | _ => none

end Seal

/-- What is to be recorded. -/
structure AuditDraft where
  subjectType : String
  subjectId : String
  action : String
  caller : Caller
  changes : Changes
  moment : Instant
deriving DecidableEq

/-- One sealed line of the audit log. -/
structure AuditEntry where
  id : Identifier
  sequence : UInt64
  subjectType : String
  subjectId : String
  action : String
  caller : Caller
  changes : Changes
  moment : Instant
  previousHash : Option String
  sealedBy : Seal
deriving DecidableEq

def digestText (bytes : List UInt8) : String := Text.Base64.encodeText (Digest.Sha256.digest bytes)

namespace AuditEntry

def content (entry : AuditEntry) : JsonFields :=
  [("id", Json.of entry.id), ("sequence", Json.of entry.sequence),
    ("subject_type", Json.of entry.subjectType), ("subject_id", Json.of entry.subjectId),
    ("action", Json.of entry.action), ("actor", Json.of entry.caller),
    ("changes", Json.of entry.changes), ("recorded_at", Json.of entry.moment),
    ("previous_hash", Json.of entry.previousHash)]

def canonicalText (entry : AuditEntry) : String := (Json.object entry.content).canonicalText

def canonicalBytes (entry : AuditEntry) : List UInt8 := Text.utf8 entry.canonicalText

def contentHash (entry : AuditEntry) : String := digestText entry.canonicalBytes

instance : JsonForm AuditEntry where
  write entry := .object (entry.content ++ [("seal", Json.of entry.sealedBy)])
  read? value := do
    match ← Json.slots? ["id", "sequence", "subject_type", "subject_id", "action", "actor",
        "changes", "recorded_at", "previous_hash", "seal"] value with
    | [id, sequence, subjectType, subjectId, action, caller, changes, moment, previousHash,
        sealedBy] =>
        return {
          id := ← Json.required id
          sequence := ← Json.required sequence
          subjectType := ← Json.required subjectType
          subjectId := ← Json.required subjectId
          action := ← Json.required action
          caller := ← Json.required caller
          changes := ← Json.required changes
          moment := ← Json.required moment
          previousHash := ← Json.optional previousHash
          sealedBy := ← Json.required sealedBy }
    | _ => none

end AuditEntry

end BenefitCasework
