import BenefitCasework.Effect.Store
import BenefitCasework.Table

/-!
Contract: how those who wait at a store learn that tasks are done, step by step.

Owns:
- `Signal`, by which a handle learns of its tasks, and `TaskExit`, how far a task is on
  its way out;
- `TrackedStore.reduce`, which reduces an action, and `TrackedStore.startTask`, which
  starts one of its tasks, counted before it is there;
- `TrackedStore.offer`, which sends an action: it is reduced, and then its tasks are
  started one by one;
- `TrackedStore.advance`, the next step of a task: its content is carried out, what it
  yields is fed back, it leaves the count of running tasks, it leaves the count of its
  handle, it tells those who wait, and it goes;
- `Floor.look`, the next step of somebody who waits for a handle, and `Floor.peek`, a
  look of somebody who closes the store;
- `Floor.move`, one step of anybody, and `Shift.run`, a row of them with what happens.

Steps of different tasks and of those who wait come in any order; that an action is
sent is one step of these, with nobody else between its reduction and its starts.
`EffectStore.turn` is the row of a task's steps with nothing in between. Does not own:
the order of steps.
-/

namespace BenefitCasework

/-- What a handle goes by: the tasks that are not done, and how often one has told that
it is. -/
structure Signal where
  pending : Nat
  told : Nat
deriving DecidableEq, Repr

/-- How far a task is on its way out. -/
inductive TaskExit (α : Type) where
  | working
  | yielded (action : Option α)
  | answered
  | uncounted
  | released
  | told
deriving DecidableEq, Repr

namespace TaskExit

variable {α : Type}

/-- The task is counted among those that run. -/
def isRunning : TaskExit α → Bool
  | .working => true
  | .yielded _ => true
  | .answered => true
  | .uncounted => false
  | .released => false
  | .told => false

/-- The task is counted among those that its handle waits for. -/
def isPending : TaskExit α → Bool
  | .uncounted => true
  | exit => exit.isRunning

/-- The task has still to tell that it is done. -/
def isUntold : TaskExit α → Bool
  | .released => true
  | exit => exit.isPending

end TaskExit

/-- What happens in a store. The source of an action is the task that yielded it, if it
was not sent from outside. -/
inductive Happening (α : Type) where
  | reduced (source : Option Nat) (action : α) (handle : Nat) (started : List Nat)
  | refused (source : Option Nat) (action : α)
  | yielded (task : Nat) (action : Option α)
  | closed
deriving DecidableEq, Repr

/-- A store with the exits of its tasks, the signals of its handles, and the count of the
tasks that run. -/
structure TrackedStore (σ ρ α ε : Type) where
  store : EffectStore σ ρ ε
  exits : Table Nat (TaskExit α)
  signals : Table Nat Signal
  inFlight : Nat

namespace TrackedStore

variable {σ ρ α ε : Type}

def start (state : σ) (surroundings : ρ) : TrackedStore σ ρ α ε :=
  ⟨.start state surroundings, [], [], 0⟩

def exit (tracked : TrackedStore σ ρ α ε) (id : Nat) : TaskExit α :=
  (tracked.exits.get? id).getD .working

def signal (tracked : TrackedStore σ ρ α ε) (handle : Nat) : Signal :=
  (tracked.signals.get? handle).getD ⟨0, 0⟩

def withExit (tracked : TrackedStore σ ρ α ε) (id : Nat) (exit : TaskExit α) :
    TrackedStore σ ρ α ε :=
  { tracked with exits := tracked.exits.set id exit }

def withSignal (tracked : TrackedStore σ ρ α ε) (handle : Nat) (signal : Signal) :
    TrackedStore σ ρ α ε :=
  { tracked with signals := tracked.signals.set handle signal }

/-- An action is reduced. Its handle has no task yet; those that are to be started come
beside the store. -/
def reduce (workshop : Workshop σ ρ α ε) (tracked : TrackedStore σ ρ α ε) (action : α) :
    TrackedStore σ ρ α ε × List ε :=
  let (state, effects) := workshop.reduce tracked.store.state action
  ({ tracked with store :=
      { tracked.store with
        state := state
        handles := tracked.store.handles + 1
        tally := tracked.store.tally.bump .actions } }.withSignal tracked.store.handles ⟨0, 0⟩,
    effects.filterMap Effect.task?)

/-- A task is started: its handle counts it, then it is counted among those that run, and
then it is there. -/
def startTask (handle : Nat) (tracked : TrackedStore σ ρ α ε) (content : ε) :
    TrackedStore σ ρ α ε :=
  let signal := tracked.signal handle
  let counted := tracked.withSignal handle { signal with pending := signal.pending + 1 }
  { counted with
    inFlight := counted.inFlight + 1
    store :=
      { counted.store with
        running := counted.store.running ++ [⟨counted.store.started, handle, content, .fresh⟩]
        started := counted.store.started + 1 } }

/-- Sends an action: it is reduced, and its tasks are started one by one. -/
def offer (workshop : Workshop σ ρ α ε) (tracked : TrackedStore σ ρ α ε) (source : Option Nat)
    (action : α) : TrackedStore σ ρ α ε × Happening α :=
  if tracked.store.closing then (tracked, .refused source action)
  else
    let handle := tracked.store.handles
    let (reduced, contents) := tracked.reduce workshop action
    (contents.foldl (startTask handle) reduced,
      .reduced source action handle (List.range' tracked.store.started contents.length))

/-- A task begins: it is told how long it takes. -/
def begin (workshop : Workshop σ ρ α ε) (tracked : TrackedStore σ ρ α ε) (task : RunningTask ε)
    (now : Nat) : TrackedStore σ ρ α ε :=
  let (surroundings, delay, ticket) := workshop.begin tracked.store.surroundings task.content
  let phase := TaskPhase.asleep (now + delay) ticket
  { tracked with store :=
      { tracked.store with
        surroundings := surroundings
        tally := tracked.store.tally.bump .effects
        running := tracked.store.running.map fun other =>
          if other.id = task.id then { other with phase := phase } else other } }

/-- The content of a task is carried out. It may yield an action. -/
def complete (workshop : Workshop σ ρ α ε) (tracked : TrackedStore σ ρ α ε)
    (task : RunningTask ε) (ticket : Nat) : TrackedStore σ ρ α ε × List (Happening α) :=
  let (surroundings, action) :=
    workshop.complete tracked.store.surroundings task.content ticket
  ({ tracked with store := { tracked.store with surroundings := surroundings } }.withExit task.id
    (.yielded action), [.yielded task.id action])

/-- What a task has yielded is fed back. -/
def answer (workshop : Workshop σ ρ α ε) (tracked : TrackedStore σ ρ α ε) (id : Nat) :
    Option α → TrackedStore σ ρ α ε × List (Happening α)
  | none => (tracked.withExit id .answered, [])
  | some action =>
      let (fed, happening) := tracked.offer workshop (some id) action
      (fed.withExit id .answered, [happening])

/-- The next step of a task. -/
def advance (workshop : Workshop σ ρ α ε) (tracked : TrackedStore σ ρ α ε) (id now : Nat) :
    TrackedStore σ ρ α ε × List (Happening α) :=
  match tracked.store.running.find? fun task => task.id == id with
  | none => (tracked, [])
  | some task =>
      let signal := tracked.signal task.handle
      match tracked.exit id with
      | .working =>
          match task.phase with
          | .fresh => (tracked.begin workshop task now, [])
          | .asleep wakeAt ticket =>
              if wakeAt ≤ now then tracked.complete workshop task ticket else (tracked, [])
      | .yielded action => tracked.answer workshop id action
      | .answered =>
          ({ tracked with inFlight := tracked.inFlight - 1 }.withExit id .uncounted, [])
      | .uncounted =>
          ((tracked.withSignal task.handle { signal with pending := signal.pending - 1 }).withExit
            id .released, [])
      | .released =>
          ((tracked.withSignal task.handle { signal with told := signal.told + 1 }).withExit
            id .told, [])
      | .told => ({ tracked with store := tracked.store.remove id }, [])

/-- A task of the handle can still tell something. -/
def hasTeller (tracked : TrackedStore σ ρ α ε) (handle : Nat) : Bool :=
  tracked.store.running.any fun task => task.handle == handle

/-- The tasks that run. -/
def stillRunning (tracked : TrackedStore σ ρ α ε) : List Nat :=
  (tracked.store.running.map RunningTask.id).filter fun id => (tracked.exit id).isRunning

end TrackedStore

/-- Where somebody stands who waits for a handle: about to look, with the tellings noted
so far and about to look at the count, asleep until the next telling, or through. -/
inductive WaitPhase where
  | looking
  | noted (told : Nat)
  | asleep (told : Nat)
  | ended
deriving DecidableEq, Repr

/-- Somebody who waits for a handle. -/
structure Wait where
  handle : Nat
  phase : WaitPhase
deriving DecidableEq, Repr

/-- Where somebody stands who closes a store. -/
inductive Closing where
  | watching (deadline : Nat)
  | ended (outcome : Except StoreError Unit)

/-- A store with those who wait at it and those who close it. -/
structure Floor (σ ρ α ε : Type) where
  tracked : TrackedStore σ ρ α ε
  waits : Table Nat Wait
  closings : Table Nat Closing

/-- A step of anybody: an action is sent, a task goes on, somebody begins to wait for a
handle or goes on waiting, somebody begins to close the store or looks whether its tasks
are done. -/
inductive FloorMove (α : Type) where
  | send (action : α)
  | advance (task now : Nat)
  | await (waiter handle : Nat)
  | look (waiter : Nat)
  | close (closer deadline : Nat)
  | peek (closer now : Nat)
deriving DecidableEq, Repr

namespace Floor

variable {σ ρ α ε : Type}

def start (state : σ) (surroundings : ρ) : Floor σ ρ α ε := ⟨.start state surroundings, [], []⟩

/-- Where somebody stands after the next look at a handle. -/
def lookFrom (tracked : TrackedStore σ ρ α ε) (handle : Nat) : WaitPhase → WaitPhase
  | .looking => .noted (tracked.signal handle).told
  | .noted told => if (tracked.signal handle).pending = 0 then .ended else .asleep told
  | .asleep told =>
      if (tracked.signal handle).told ≠ told then .looking
      else if tracked.hasTeller handle then .asleep told
      else .ended
  | .ended => .ended

/-- Somebody new begins to wait for a handle that was given out. -/
def await (floor : Floor σ ρ α ε) (waiter handle : Nat) : Floor σ ρ α ε :=
  if handle < floor.tracked.store.handles ∧ floor.waits.get? waiter = none then
    { floor with waits := floor.waits.set waiter ⟨handle, .looking⟩ }
  else floor

def look (floor : Floor σ ρ α ε) (waiter : Nat) : Floor σ ρ α ε :=
  match floor.waits.get? waiter with
  | none => floor
  | some wait =>
      let phase := lookFrom floor.tracked wait.handle wait.phase
      { floor with waits := floor.waits.set waiter { wait with phase := phase } }

def close (floor : Floor σ ρ α ε) (closer deadline : Nat) : Floor σ ρ α ε :=
  { floor with
    tracked := { floor.tracked with store := floor.tracked.store.close }
    closings := floor.closings.set closer (.watching deadline) }

/-- Where somebody who closes the store stands after a look at the count. -/
def peekFrom (tracked : TrackedStore σ ρ α ε) (now : Nat) : Closing → Closing
  | .watching deadline =>
      if tracked.inFlight = 0 then .ended (.ok ())
      else if deadline ≤ now then .ended (.error (.timedOut tracked.inFlight))
      else .watching deadline
  | .ended outcome => .ended outcome

def peek (floor : Floor σ ρ α ε) (closer now : Nat) : Floor σ ρ α ε :=
  match floor.closings.get? closer with
  | none => floor
  | some closing =>
      { floor with closings := floor.closings.set closer (peekFrom floor.tracked now closing) }

/-- One step of anybody, and what happens with it. -/
def move (workshop : Workshop σ ρ α ε) (floor : Floor σ ρ α ε) :
    FloorMove α → Floor σ ρ α ε × List (Happening α)
  | .send action =>
      let (tracked, happening) := floor.tracked.offer workshop none action
      ({ floor with tracked := tracked }, [happening])
  | .advance task now =>
      let (tracked, happenings) := floor.tracked.advance workshop task now
      ({ floor with tracked := tracked }, happenings)
  | .await waiter handle => (floor.await waiter handle, [])
  | .look waiter => (floor.look waiter, [])
  | .close closer deadline => (floor.close closer deadline, [.closed])
  | .peek closer now => (floor.peek closer now, [])

end Floor

/-- A floor with what has happened on it so far. -/
structure Shift (σ ρ α ε : Type) where
  floor : Floor σ ρ α ε
  trace : List (Happening α)

namespace Shift

variable {σ ρ α ε : Type}

def start (state : σ) (surroundings : ρ) : Shift σ ρ α ε := ⟨.start state surroundings, []⟩

def step (workshop : Workshop σ ρ α ε) (shift : Shift σ ρ α ε) (move : FloorMove α) :
    Shift σ ρ α ε :=
  let (floor, happenings) := shift.floor.move workshop move
  ⟨floor, shift.trace ++ happenings⟩

def run (workshop : Workshop σ ρ α ε) (shift : Shift σ ρ α ε) (moves : List (FloorMove α)) :
    Shift σ ρ α ε :=
  moves.foldl (step workshop) shift

end Shift

end BenefitCasework
