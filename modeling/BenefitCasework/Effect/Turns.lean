import BenefitCasework.Effect.Store
import BenefitCasework.Timeline.Schedule

/-!
Contract: a store whose tasks take turns on a clock.

Owns:
- `EffectStore.takeTurn`, the turn of a task: it sets its alarm, or it ends
  and wakes the tasks that its action started;
- `StoreErrand`, what somebody may wait for, and `StoreErrand.look`, a look at
  whether the wait is over;
- `Workbench`, a store, its schedule and the one who uses it.

Does not own: what the tasks do.
-/

namespace BenefitCasework

namespace EffectStore

variable {σ ρ α ε τ : Type} [DecidableEq τ]

def wakeTasks (name : Nat → τ) (schedule : Schedule τ) (tasks : List Nat) : Schedule τ :=
  tasks.foldl (fun current task => current.wake (.worker (name task))) schedule

/-- The turn of a task. The answer is the handle under which it ended. -/
def takeTurn (workshop : Workshop σ ρ α ε) (name : Nat → τ) (store : EffectStore σ ρ ε)
    (schedule : Schedule τ) (task : Nat) : EffectStore σ ρ ε × Schedule τ × Option Nat :=
  match turn workshop store task schedule.now with
  | (moved, .absent) => (moved, schedule, none)
  | (moved, .asleep wakeAt) => (moved, schedule.arm (.worker (name task)) wakeAt, none)
  | (moved, .ended handle started) => (moved, wakeTasks name schedule started, some handle)

end EffectStore

/-- What somebody waits for: a time, the tasks of a handle, or the end of all
tasks of a closing store up to a deadline. -/
inductive StoreErrand where
  | rest (wakeAt : Nat)
  | await (handle : Nat)
  | close (deadline lookAt : Nat)
deriving DecidableEq, Repr

/-- What a look finds: the wait is over, or it goes on. -/
inductive Look (τ : Type) where
  | ended (outcome : Except StoreError Unit)
  | onward (errand : StoreErrand) (schedule : Schedule τ)

namespace StoreErrand

variable {σ ρ ε τ : Type} [DecidableEq τ]

/-- A look at whether the wait is over. It sets the alarm for the next look. -/
def look (store : EffectStore σ ρ ε) (schedule : Schedule τ) : StoreErrand → Look τ
  | .rest wakeAt =>
      if wakeAt ≤ schedule.now then .ended (.ok ())
      else .onward (.rest wakeAt) (schedule.arm .caller wakeAt)
  | .await handle =>
      if store.pending handle = 0 then .ended (.ok ()) else .onward (.await handle) schedule
  | .close deadline lookAt =>
      if schedule.now < lookAt then .onward (.close deadline lookAt) (schedule.arm .caller lookAt)
      else match store.closed? schedule.now deadline with
        | some outcome => .ended outcome
        | none =>
            let next := schedule.now + EffectStore.closingPause
            .onward (.close deadline next) (schedule.arm .caller next)

end StoreErrand

/-- A store, its schedule, and what its user waits for. -/
structure Workbench (σ ρ ε : Type) where
  store : EffectStore σ ρ ε
  schedule : Schedule Nat
  errand : Option StoreErrand
  outcome : Except StoreError Unit

namespace Workbench

variable {σ ρ α ε : Type}

def start (state : σ) (surroundings : ρ) : Workbench σ ρ ε :=
  ⟨.start state surroundings, .start, none, .ok ()⟩

def move (workshop : Workshop σ ρ α ε) (bench : Workbench σ ρ ε) :
    Who Nat → Workbench σ ρ ε × Bool
  | .caller =>
      match bench.errand with
      | none => (bench, true)
      | some errand =>
          match errand.look bench.store bench.schedule with
          | .ended outcome => ({ bench with errand := none, outcome := outcome }, true)
          | .onward errand schedule =>
              ({ bench with errand := some errand, schedule := schedule }, false)
  | .worker task =>
      let (store, schedule, ended) := bench.store.takeTurn workshop id bench.schedule task
      let woken := match ended, bench.errand with
        | some handle, some (.await awaited) =>
            if handle = awaited then schedule.wake .caller else schedule
        | _, _ => schedule
      ({ bench with store := store, schedule := woken }, false)

def stage (workshop : Workshop σ ρ α ε) : Stage (Workbench σ ρ ε) Nat :=
  { schedule := fun bench => bench.schedule
    withSchedule := fun bench schedule => { bench with schedule := schedule }
    move := move workshop
    isServed := fun bench => bench.errand.isNone }

def run (workshop : Workshop σ ρ α ε) (bench : Workbench σ ρ ε) (errand : StoreErrand) :
    Workbench σ ρ ε :=
  (stage workshop).settle { bench with errand := some errand }

def send (workshop : Workshop σ ρ α ε) (bench : Workbench σ ρ ε) (action : α) :
    Except StoreError (Workbench σ ρ ε × Nat) :=
  match bench.store.send workshop action with
  | .error reason => .error reason
  | .ok (store, handle, started) =>
      .ok ({ bench with
        store := store
        schedule := EffectStore.wakeTasks id bench.schedule started }, handle)

def await (workshop : Workshop σ ρ α ε) (bench : Workbench σ ρ ε) (handle : Nat) :
    Workbench σ ρ ε :=
  bench.run workshop (.await handle)

def rest (workshop : Workshop σ ρ α ε) (bench : Workbench σ ρ ε) (milliseconds : Nat) :
    Workbench σ ρ ε :=
  bench.run workshop (.rest (bench.schedule.now + milliseconds))

/-- Closes the store and waits for its tasks, at most so many milliseconds. -/
def close (workshop : Workshop σ ρ α ε) (bench : Workbench σ ρ ε) (milliseconds : Nat) :
    Workbench σ ρ ε :=
  { bench with store := bench.store.close }.run workshop
    (.close (bench.schedule.now + milliseconds) bench.schedule.now)

end Workbench

end BenefitCasework
