import BenefitCasework.Json.Form

/-!
Contract: the statuses of a request and the moves between them.

Owns:
- `Status` and `Status.targets`, the table of moves;
- `Status.Reaches`, one move of the table.

Does not own: which operation makes a move.
-/

namespace BenefitCasework

/-- Where a request stands. -/
inductive Status where
  | draft
  | opened
  | inAnalysis
  | pending
  | approved
  | released
  | completed
  | cancelled
deriving DecidableEq, Repr, Inhabited

namespace Status

def all : List Status :=
  [.draft, .opened, .inAnalysis, .pending, .approved, .released, .completed, .cancelled]

def name : Status → String
  | .draft => "Draft"
  | .opened => "Open"
  | .inAnalysis => "InAnalysis"
  | .pending => "Pending"
  | .approved => "Approved"
  | .released => "Released"
  | .completed => "Completed"
  | .cancelled => "Cancelled"

def targets : Status → List Status
  | .draft => [.opened, .cancelled]
  | .opened => [.inAnalysis, .cancelled]
  | .inAnalysis => [.pending, .approved, .cancelled]
  | .pending => [.inAnalysis, .cancelled]
  | .approved => [.released, .cancelled]
  | .released => [.completed]
  | .completed => []
  | .cancelled => []

/-- A status may follow another. -/
def canMoveTo (status target : Status) : Bool := status.targets.contains target

def isTerminal : Status → Bool
  | .completed => true
  | .cancelled => true
  | _ => false

def Reaches (status target : Status) : Prop := target ∈ status.targets

instance : ToString Status := ⟨name⟩

instance : JsonForm Status where
  write status := .string status.name
  read? := Json.named? all name

theorem canMoveTo_iff {status target : Status} :
    status.canMoveTo target = true ↔ status.Reaches target := by
  simp [canMoveTo, Reaches]

theorem isTerminal_iff (status : Status) : status.isTerminal = true ↔ status.targets = [] := by
  cases status <;> simp [isTerminal, targets]

end Status

end BenefitCasework
