/-!
Contract: who is next, on a clock that only jumps.

Owns:
- `Schedule`, the workers that are ready, in the order in which they woke, the
  alarms, and the clock in milliseconds;
- `Stage`, a world with its schedule and the moves of its workers;
- `Stage.settle`, which moves the world until its caller is served.

The caller goes first when it is awake; then at most sixty-one workers take
their turn. When nobody is ready, the clock jumps to the next alarm. Does not
own: what a move does.
-/

namespace BenefitCasework

/-- The caller or one of the workers. -/
inductive Who (τ : Type) where
  | caller
  | worker (name : τ)
deriving DecidableEq, Repr

/-- Who is ready, who sleeps until when, and whose turn it is. -/
structure Schedule (τ : Type) where
  now : Nat
  ready : List τ
  alarms : List (Nat × Who τ)
  callerAwake : Bool
  active : Option (Who τ)
  turnsLeft : Nat

namespace Schedule

variable {τ : Type} [DecidableEq τ]

/-- The turns that workers may take before the caller is asked again. -/
def turnsPerRound : Nat := 61

def start : Schedule τ := ⟨0, [], [], false, some .caller, 0⟩

/-- Wakes somebody. Who is awake already keeps the place in line. -/
def wake (schedule : Schedule τ) : Who τ → Schedule τ
  | .caller => { schedule with callerAwake := true }
  | .worker name =>
      if schedule.ready.contains name then schedule
      else { schedule with ready := schedule.ready ++ [name] }

def disarm (schedule : Schedule τ) (who : Who τ) : Schedule τ :=
  { schedule with alarms := schedule.alarms.filter fun alarm => alarm.2 != who }

def arm (schedule : Schedule τ) (who : Who τ) (time : Nat) : Schedule τ :=
  { schedule with alarms := (schedule.disarm who).alarms ++ [(time, who)] }

def nextAlarm? (schedule : Schedule τ) : Option Nat :=
  (schedule.alarms.map Prod.fst).min?

/-- The clock jumps to the first alarm, and those who set one for then wake. -/
def jump (schedule : Schedule τ) : Schedule τ :=
  match schedule.nextAlarm? with
  | none => schedule
  | some time =>
      let due := schedule.alarms.filter fun alarm => decide (alarm.1 ≤ time)
      let later := schedule.alarms.filter fun alarm => decide (time < alarm.1)
      due.foldl (fun current alarm => current.wake alarm.2)
        { schedule with now := time, alarms := later }

def pass (schedule : Schedule τ) (who : Who τ) : Schedule τ := { schedule with active := some who }

/-- Ends a turn. Behind the caller a round of workers begins. -/
def rest (schedule : Schedule τ) (who : Who τ) : Schedule τ :=
  { schedule with
    active := none
    turnsLeft := if who = .caller then turnsPerRound else schedule.turnsLeft }

/-- Decides whose turn is next. -/
def next (schedule : Schedule τ) : Schedule τ :=
  match schedule.turnsLeft with
  | 0 =>
      if schedule.callerAwake then { schedule with callerAwake := false }.pass .caller
      else { schedule with turnsLeft := turnsPerRound }
  | turns + 1 =>
      match schedule.ready with
      | name :: others => { schedule with ready := others, turnsLeft := turns }.pass (.worker name)
      | [] =>
          let roundEnded := { schedule with turnsLeft := 0 }
          if schedule.callerAwake then roundEnded else roundEnded.jump

end Schedule

/-- A world with its schedule and the moves of those in it. A move says whether
the turn goes on. -/
structure Stage (ω τ : Type) where
  schedule : ω → Schedule τ
  withSchedule : ω → Schedule τ → ω
  move : ω → Who τ → ω × Bool
  isServed : ω → Bool

namespace Stage

variable {ω τ : Type} [DecidableEq τ]

/-- One step: a move of whose turn it is, or the choice of who is next. -/
def step (stage : Stage ω τ) (world : ω) : ω :=
  match (stage.schedule world).active with
  | none => stage.withSchedule world (stage.schedule world).next
  | some who =>
      match stage.move world who with
      | (moved, true) => moved
      | (moved, false) => stage.withSchedule moved ((stage.schedule moved).rest who)

/-- Steps until the caller is served, at most as many as given. -/
def settleWithin (stage : Stage ω τ) : Nat → ω → ω
  | 0, world => world
  | steps + 1, world =>
      if stage.isServed world then world else stage.settleWithin steps (stage.step world)

def patience : Nat := 1000000000

def settle (stage : Stage ω τ) (world : ω) : ω := stage.settleWithin patience world

end Stage

end BenefitCasework
