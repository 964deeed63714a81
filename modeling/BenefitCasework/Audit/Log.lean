import BenefitCasework.Audit.Entry

/-!
Contract: the audit log, a chain of entries.

Owns:
- `AuditLog.append`, which refuses a second entry of one identifier, and
  `AuditLog.ofEntries`, which appends entries to an empty log;
- `AuditLog.trail`, the entries of one subject;
- `AuditLog.verifyChain`, which finds the first entry that is out of place;
- `AuditLog.Linked`, the logs in which each entry has the number of its place
  and the digest of the entry before it.

Does not own: seals, and the making of entries.
-/

namespace BenefitCasework

/-- Why the log is refused or cannot be read. -/
inductive AuditError where
  | entryNotFound (id : Identifier)
  | duplicateEntry (id : Identifier)
  | unwritable (reason : String)
  | storage (reason : String)
deriving DecidableEq, Repr

def AuditError.message : AuditError → String
  | .entryNotFound id => "audit entry " ++ id.text ++ " not found"
  | .duplicateEntry id => "audit entry " ++ id.text ++ " already exists"
  | .unwritable reason => "audit serialization failed: " ++ reason
  | .storage reason => "audit storage failed: " ++ reason

/-- What a look at the whole chain finds. -/
inductive ChainCheck where
  | intact (entries : Nat)
  | broken (id : Identifier) (sequence : UInt64)
deriving DecidableEq, Repr

/-- The entries in the order in which they were appended. -/
abbrev AuditLog := List AuditEntry

namespace AuditLog

def get? (log : AuditLog) (id : Identifier) : Option AuditEntry :=
  log.find? fun entry => entry.id == id

def append (log : AuditLog) (entry : AuditEntry) : Except AuditError AuditLog :=
  if log.any fun present => present.id == entry.id then .error (.duplicateEntry entry.id)
  else .ok (log ++ [entry])

def appendAll (log : AuditLog) : List AuditEntry → Except AuditError AuditLog
  | [] => .ok log
  | entry :: rest =>
      match log.append entry with
      | .ok longer => appendAll longer rest
      | .error reason => .error reason

/-- The log of some entries, if no two have one identifier. -/
def ofEntries (entries : List AuditEntry) : Except AuditError AuditLog := appendAll [] entries

def trail (log : AuditLog) (subjectType subjectId : String) : List AuditEntry :=
  log.filter fun entry => entry.subjectType == subjectType && entry.subjectId == subjectId

/-- The first entry that does not carry the number of its place and the digest
of the entry before it. -/
def firstMisplaced (place : Nat) (previous : Option String) : AuditLog → Option AuditEntry
  | [] => none
  | entry :: rest =>
      if entry.sequence = UInt64.ofNat (place + 1) ∧ entry.previousHash = previous then
        firstMisplaced (place + 1) (some entry.contentHash) rest
      else some entry

def verifyChain (log : AuditLog) : ChainCheck :=
  match firstMisplaced 0 none log with
  | none => .intact log.length
  | some entry => .broken entry.id entry.sequence

/-- Each entry has the number of its place and the digest of the entry before
it; the first has no entry before it. -/
def Linked (log : AuditLog) : Prop :=
  ∀ place entry, log[place]? = some entry →
    entry.sequence = UInt64.ofNat (place + 1) ∧
      entry.previousHash = match place with
        | 0 => none
        | before + 1 => log[before]?.map AuditEntry.contentHash

/-- An entry by its identifier or by its place in the log. -/
def idOf? (log : AuditLog) : Json → Option Identifier
  | .integer (.ofNat place) => log[place]?.map AuditEntry.id
  | value => Json.read? Identifier value

/-- The log in which some fields of an entry are overwritten. -/
def overwritten? (log : AuditLog) (id : Identifier) (fields : JsonFields) :
    Option (Except AuditError AuditLog) := do
  let entry ← log.get? id
  let changed ← Json.read? AuditEntry (.object (fields ++ (Json.of entry).fields))
  return ofEntries (log.set (log.findIdx fun present => present.id == id) changed)

end AuditLog

instance : JsonForm ChainCheck where
  write
    | .intact entries => .object [("intact", .integer entries)]
    | .broken id sequence => .object [("broken", Json.of id), ("sequence", Json.of sequence)]
  read? value :=
    match Json.getNatural "intact" value, Json.getAs Identifier "broken" value,
      Json.getAs UInt64 "sequence" value with
    | some entries, _, _ => some (.intact entries)
    | none, some id, some sequence => some (.broken id sequence)
    | _, _, _ => none

end BenefitCasework
