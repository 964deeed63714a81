import BenefitCasework.Calendar.Written
import BenefitCasework.Identifier

/-!
Contract: what an applicant still has to put right.

Owns:
- `Pendency`, an item with its resolution, if it has one;
- `PendencyLog`, all items ever raised, and the number of the current cycle;
- `PendencyLog.raise`, which opens a cycle and appends its items;
- `PendencyLog.resolve`, which sets one resolution, once.

Items are never removed, and items of earlier cycles stay as they are. Does
not own: when a request may be handed in again.
-/

namespace BenefitCasework

/-- How an item was put right. -/
structure Resolution where
  user : Identifier
  moment : Instant
  note : String
deriving DecidableEq

instance : JsonForm Resolution where
  write resolution := .object [("resolved_by", Json.of resolution.user),
    ("resolved_at", Json.of resolution.moment), ("note", Json.of resolution.note)]
  read? value := do
    match ← Json.slots? ["resolved_by", "resolved_at", "note"] value with
    | [user, moment, note] =>
        return ⟨← Json.required user, ← Json.required moment, ← Json.required note⟩
    | _ => none

/-- An item to be put right. -/
structure Pendency where
  id : Identifier
  cycle : UInt32
  description : String
  raisedBy : Identifier
  raisedAt : Instant
  resolution : Option Resolution
deriving DecidableEq

namespace Pendency

/-- An item is open until it has a resolution. -/
def isOpen (pendency : Pendency) : Bool := pendency.resolution.isNone

instance : JsonForm Pendency where
  write pendency := .object [("id", Json.of pendency.id), ("cycle", Json.of pendency.cycle),
    ("description", Json.of pendency.description), ("raised_by", Json.of pendency.raisedBy),
    ("raised_at", Json.of pendency.raisedAt), ("resolution", Json.of pendency.resolution)]
  read? value := do
    match ← Json.slots? ["id", "cycle", "description", "raised_by", "raised_at", "resolution"]
        value with
    | [id, cycle, description, raisedBy, raisedAt, resolution] =>
        return ⟨← Json.required id, ← Json.required cycle, ← Json.required description,
          ← Json.required raisedBy, ← Json.required raisedAt, ← Json.optional resolution⟩
    | _ => none

end Pendency

/-- Why an item cannot be resolved. -/
inductive PendencyError where
  | notFound (id : Identifier)
  | alreadyResolved (id : Identifier)
deriving DecidableEq, Repr

namespace PendencyError

def message : PendencyError → String
  | .notFound id => "pendency " ++ id.text ++ " not found"
  | .alreadyResolved id => "pendency " ++ id.text ++ " is already resolved"

end PendencyError

/-- All items of a request and the number of the current cycle. -/
structure PendencyLog where
  items : List Pendency
  cycle : UInt32
deriving DecidableEq

namespace PendencyLog

def empty : PendencyLog := ⟨[], 0⟩

instance : JsonForm PendencyLog where
  write log := .object [("items", Json.of log.items), ("cycle", Json.of log.cycle)]
  read? value := do
    match ← Json.slots? ["items", "cycle"] value with
    | [items, cycle] => return ⟨← Json.required items, ← Json.required cycle⟩
    | _ => none

def get? (log : PendencyLog) (id : Identifier) : Option Pendency :=
  log.items.find? fun item => item.id == id

/-- The items of a new cycle; the `n`-th takes the `n`-th fresh identifier. -/
def newItems (fresh : Nat → Identifier) (cycle : UInt32) (user : Identifier) (moment : Instant)
    (descriptions : List String) : List Pendency :=
  descriptions.mapIdx fun place description =>
    ⟨fresh place, cycle, description, user, moment, none⟩

/-- Opens a new cycle with an item for each description. -/
def raise (log : PendencyLog) (fresh : Nat → Identifier) (descriptions : List String)
    (user : Identifier) (moment : Instant) : PendencyLog :=
  ⟨log.items ++ newItems fresh (log.cycle + 1) user moment descriptions, log.cycle + 1⟩

/-- Resolves the first item with an identifier, if it is there and open. -/
def resolveItems (id : Identifier) (resolution : Resolution) :
    List Pendency → Except PendencyError (List Pendency)
  | [] => .error (.notFound id)
  | item :: rest =>
      if item.id = id then
        if item.isOpen then .ok ({ item with resolution := some resolution } :: rest)
        else .error (.alreadyResolved id)
      else match resolveItems id resolution rest with
        | .ok resolved => .ok (item :: resolved)
        | .error reason => .error reason

/-- Sets the resolution of an open item. -/
def resolve (log : PendencyLog) (id user : Identifier) (moment : Instant) (note : String) :
    Except PendencyError PendencyLog :=
  match resolveItems id ⟨user, moment, note⟩ log.items with
  | .ok items => .ok { log with items := items }
  | .error reason => .error reason

def openItems (log : PendencyLog) : List Pendency :=
  log.items.filter fun item => item.cycle == log.cycle && item.isOpen

def isSettled (log : PendencyLog) : Bool := log.openItems.isEmpty

end PendencyLog

end BenefitCasework
