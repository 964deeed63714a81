import BenefitCasework.Text.Digits

/-!
Contract: state that changes by actions, and the effects they ask for.

Owns:
- `Effect`, nothing, or a task to be carried out later;
- `Reducer`, the state behind an action and the effects it asks for;
- `StoreError`, why an action is not accepted or a store does not close.

Does not own: the carrying out of tasks.
-/

namespace BenefitCasework

/-- Something to be carried out after an action. -/
inductive Effect (ε : Type) where
  | nothing
  | task (content : ε)
deriving DecidableEq, Repr

namespace Effect

variable {ε : Type}

def isNothing : Effect ε → Bool
  | .nothing => true
  | .task _ => false

def task? : Effect ε → Option ε
  | .nothing => none
  | .task content => some content

def text : Effect ε → String
  | .nothing => "Effect::None"
  | .task _ => "Effect::Future(<future>)"

end Effect

/-- The state behind an action, and the effects the action asks for. -/
abbrev Reducer (σ α ε : Type) := σ → α → σ × List (Effect ε)

/-- Why an action is not accepted, or a store does not close. -/
inductive StoreError where
  | closing
  | timedOut (running : Nat)
deriving DecidableEq, Repr

def StoreError.message : StoreError → String
  | .closing => "Store is shutting down"
  | .timedOut running =>
      "Shutdown timed out with " ++ Text.natural running ++ " effects still running"

end BenefitCasework
