/-!
Contract: a bounded store for what could not be delivered.

Owns:
- `DeadLetter`, something with the number of tries and the last error;
- `DeadLetters.push`, which refuses beyond the capacity;
- `DeadLetters.restore`, which puts letters back in front, beyond the capacity
  if need be.

Does not own: when a letter is tried again.
-/

namespace BenefitCasework

/-- Something that could not be delivered. -/
structure DeadLetter (α : Type) where
  payload : α
  attempts : UInt32
  lastError : String
deriving DecidableEq, Repr

/-- A bounded list of letters, the oldest first. -/
structure DeadLetters (α : Type) where
  letters : List (DeadLetter α)
  capacity : Nat
deriving DecidableEq, Repr

namespace DeadLetters

variable {α : Type}

/-- No letters, with room for at least one. -/
def ofCapacity (capacity : Nat) : DeadLetters α := ⟨[], max capacity 1⟩

def size (queue : DeadLetters α) : Nat := queue.letters.length

def isFull (queue : DeadLetters α) : Bool := decide (queue.capacity ≤ queue.size)

/-- Takes in a letter behind the others, if there is room. -/
def push (queue : DeadLetters α) (letter : DeadLetter α) : Option (DeadLetters α) :=
  if queue.isFull then none else some { queue with letters := queue.letters ++ [letter] }

/-- Puts letters back in front of the others. -/
def restore (queue : DeadLetters α) (letters : List (DeadLetter α)) : DeadLetters α :=
  { queue with letters := letters ++ queue.letters }

def emptied (queue : DeadLetters α) : DeadLetters α := { queue with letters := [] }

/-- A letter is taken in exactly when there is room. -/
theorem push_isSome (queue : DeadLetters α) (letter : DeadLetter α) :
    (queue.push letter).isSome = true ↔ queue.size < queue.capacity := by
  simp [push, isFull]

end DeadLetters

end BenefitCasework
