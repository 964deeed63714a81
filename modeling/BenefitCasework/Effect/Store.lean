import BenefitCasework.Effect.Basic
import BenefitCasework.Metric

/-!
Contract: a state with the tasks that its actions started.

Owns:
- `Workshop`, a reducer and the way its tasks are carried out;
- `EffectStore`, the state, the surroundings and the running tasks;
- `EffectStore.send`, which accepts an action until the store is closed and
  gives a handle for the tasks that the action started;
- `EffectStore.turn`, which begins a task, or completes it when its time has
  come and feeds its action back;
- `EffectStore.pending`, the running tasks of a handle.

The action of a task is fed back before the task counts as done; the tasks it
starts have a handle of their own. Does not own: the order of turns.
-/

namespace BenefitCasework

/-- A reducer and the way its tasks are carried out: a task that begins says
how many milliseconds it takes and gets a ticket; when it completes it may
yield an action. -/
structure Workshop (σ ρ α ε : Type) where
  reduce : Reducer σ α ε
  begin : ρ → ε → ρ × Nat × Nat
  complete : ρ → ε → Nat → ρ × Option α

/-- How far a task has come. -/
inductive TaskPhase where
  | fresh
  | asleep (wakeAt ticket : Nat)
deriving DecidableEq, Repr

/-- A task that an action started. -/
structure RunningTask (ε : Type) where
  id : Nat
  handle : Nat
  content : ε
  phase : TaskPhase

/-- A state with its surroundings and the tasks that run. -/
structure EffectStore (σ ρ ε : Type) where
  state : σ
  surroundings : ρ
  closing : Bool
  running : List (RunningTask ε)
  started : Nat
  handles : Nat
  tally : Tally

/-- What a turn of a task leads to. -/
inductive TaskTurn where
  | absent
  | asleep (wakeAt : Nat)
  | ended (handle : Nat) (started : List Nat)
deriving DecidableEq, Repr

namespace EffectStore

variable {σ ρ α ε : Type}

def start (state : σ) (surroundings : ρ) : EffectStore σ ρ ε :=
  ⟨state, surroundings, false, [], 0, 0, []⟩

def pending (store : EffectStore σ ρ ε) (handle : Nat) : Nat :=
  (store.running.filter fun task => task.handle == handle).length

def handleText (store : EffectStore σ ρ ε) (handle : Nat) : String :=
  "EffectHandle \x7b pending: " ++ Text.natural (store.pending handle) ++ " \x7d"

/-- The tasks of an action, numbered on from those started before. -/
def tasksOf (store : EffectStore σ ρ ε) (effects : List (Effect ε)) : List (RunningTask ε) :=
  (effects.filterMap Effect.task?).mapIdx fun place content =>
    ⟨store.started + place, store.handles, content, .fresh⟩

/-- Accepts an action: the state changes, and its tasks are started. -/
def accept (workshop : Workshop σ ρ α ε) (store : EffectStore σ ρ ε) (action : α) :
    EffectStore σ ρ ε × List Nat :=
  let (state, effects) := workshop.reduce store.state action
  let tasks := store.tasksOf effects
  ({ store with
      state := state
      running := store.running ++ tasks
      started := store.started + tasks.length
      handles := store.handles + 1
      tally := store.tally.bump .actions }, tasks.map RunningTask.id)

/-- Sends an action. The answer is a handle and the tasks that were started. -/
def send (workshop : Workshop σ ρ α ε) (store : EffectStore σ ρ ε) (action : α) :
    Except StoreError (EffectStore σ ρ ε × Nat × List Nat) :=
  if store.closing then .error .closing
  else
    let (accepted, started) := accept workshop store action
    .ok (accepted, store.handles, started)

/-- Feeds the action of a task back, unless the store is closing. -/
def feedBack (workshop : Workshop σ ρ α ε) (store : EffectStore σ ρ ε) (action : Option α) :
    EffectStore σ ρ ε × List Nat :=
  match action with
  | none => (store, [])
  | some action => if store.closing then (store, []) else accept workshop store action

def remove (store : EffectStore σ ρ ε) (id : Nat) : EffectStore σ ρ ε :=
  { store with running := store.running.filter fun task => task.id != id }

/-- Completes a task: its action is fed back, and then the task is done. -/
def finish (workshop : Workshop σ ρ α ε) (store : EffectStore σ ρ ε) (task : RunningTask ε)
    (ticket : Nat) : EffectStore σ ρ ε × TaskTurn :=
  let (surroundings, action) := workshop.complete store.surroundings task.content ticket
  let (fed, started) := feedBack workshop { store with surroundings := surroundings } action
  (fed.remove task.id, .ended task.handle started)

/-- Begins a task. One that takes no time completes at once. -/
def beginTask (workshop : Workshop σ ρ α ε) (store : EffectStore σ ρ ε) (task : RunningTask ε)
    (now : Nat) : EffectStore σ ρ ε × TaskTurn :=
  let (surroundings, delay, ticket) := workshop.begin store.surroundings task.content
  let begun := { store with surroundings := surroundings, tally := store.tally.bump .effects }
  if delay = 0 then finish workshop begun task ticket
  else
    let phase := TaskPhase.asleep (now + delay) ticket
    ({ begun with running := begun.running.map fun other =>
        if other.id = task.id then { other with phase := phase } else other }, .asleep (now + delay))

def turn (workshop : Workshop σ ρ α ε) (store : EffectStore σ ρ ε) (id now : Nat) :
    EffectStore σ ρ ε × TaskTurn :=
  match store.running.find? fun task => task.id == id with
  | none => (store, .absent)
  | some task =>
      match task.phase with
      | .fresh => beginTask workshop store task now
      | .asleep wakeAt ticket =>
          if wakeAt ≤ now then finish workshop store task ticket else (store, .asleep wakeAt)

def close (store : EffectStore σ ρ ε) : EffectStore σ ρ ε := { store with closing := true }

/-- How long a closing store waits before it looks again, in milliseconds. -/
def closingPause : Nat := 10

/-- What a look at a closing store finds: an end, or nothing yet. -/
def closed? (store : EffectStore σ ρ ε) (now deadline : Nat) : Option (Except StoreError Unit) :=
  if store.running.isEmpty then some (.ok ())
  else if deadline ≤ now then some (.error (.timedOut store.running.length))
  else none

end EffectStore

end BenefitCasework
