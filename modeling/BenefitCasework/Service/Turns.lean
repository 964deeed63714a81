import BenefitCasework.Service.World

/-!
Contract: the turns of the workers and of the caller.

Owns:
- the turns of the runner: a pass over the outbox, then a rest until the bell
  rings, until the end of the longest wait when the pass stalled, or until the
  stop, behind which a last pass is made;
- the turns of the projector, which reads until nothing is there;
- the turns of the deliveries;
- the turns of the caller on an errand;
- `World.stage`, on which all of them move.

Passes exclude each other by the lock. A turn is a row of moves; it ends where
somebody has to wait. Does not own: who is next.
-/

namespace BenefitCasework

namespace World

def beginPass (world : World) (kind : PassKind) : World × Progress :=
  let (relay, progress) := match kind with
    | .drain => world.relay.beginDrain
    | .replay => world.relay.beginReplay
  ({ world with relay := relay }, progress)

/-- Offers the envelope of the pass under way to the bus once. -/
def tryPublish (world : World) : World × Progress :=
  match world.relay.asking with
  | none => (world, world.relay.unasked)
  | some pass =>
      let (tried, answer) := world.publish world.relay.topic pass.source.envelope
      let (relay, progress) := tried.relay.attempt (answer.mapError .full)
      ({ tried with relay := relay }, progress)

/-- Hands the lock on and wakes the one who gets it. -/
def release (world : World) : World :=
  let (lock, next) := world.lock.release
  let released := { world with lock := lock }
  match next with
  | some who => released.wake who
  | none => released

def acquire (world : World) (who : Who Worker) : World × Bool :=
  let (lock, held) := world.lock.acquire who
  ({ world with lock := lock }, held)

/-- When the next try is made, and whether the turn goes on until then. -/
def nextTry (world : World) (who : Who Worker) (wait : Nat) : World × Nat × Bool :=
  let tryAt := world.schedule.now + wait
  if wait = 0 then (world, tryAt, true) else (world.arm who tryAt, tryAt, false)

def wakeCallerFor (world : World) (errand : Errand) : World :=
  if world.errand = some errand then world.wake .caller else world

/-! ### The runner -/

def withRunner (world : World) (phase : RunnerPhase) : World := { world with runner := phase }

def restRunner (world : World) (stalled : Bool) : World × Bool :=
  if world.runnerStopped then (world.withRunner (.asking true), true)
  else if world.bell then ({ world with bell := false }.withRunner (.asking false), true)
  else if stalled then
    let wakeAt := world.schedule.now + world.relay.policy.maxDelay.milliseconds
    if wakeAt = world.schedule.now then
      ((world.withRunner (.asking false)).wake (.worker .runner), false)
    else ((world.arm (.worker .runner) wakeAt).withRunner (.resting (some wakeAt) false), false)
  else (world.withRunner (.resting none false), false)

/-- Goes on behind a pass that has come to its end. -/
def runnerFinished (world : World) (last : Bool) (report : PassReport) : World × Bool :=
  let released := world.release
  if last then ((released.withRunner .ended).wakeCallerFor .joiningRunner, false)
  else match report with
    | .drained counts => released.restRunner counts.stalled
    | .replayed _ => released.restRunner false

/-- A panic in a pass is the end of the runner. -/
def runnerUnwound (world : World) : World × Bool :=
  ((world.release.withRunner .ended).wakeCallerFor .joiningRunner, false)

/-- The runner makes its next try after a wait. -/
def runnerAgain (world : World) (last : Bool) (wait : Nat) : World × Bool :=
  let (armed, tryAt, onward) := world.nextTry (.worker .runner) wait
  (armed.withRunner (.passing last tryAt), onward)

def runnerProgress (world : World) (last : Bool) : Progress → World × Bool
  | .idle => (world, false)
  | .publishing => (world.withRunner (.passing last world.schedule.now), true)
  | .waiting wait => world.runnerAgain last wait.milliseconds
  | .unwound => world.runnerUnwound
  | .finished report => world.runnerFinished last report

def runnerBegin (world : World) (last : Bool) : World × Bool :=
  let (begun, progress) := world.beginPass .drain
  begun.runnerProgress last progress

/-- A runner at rest looks whether its rest is over. -/
def runnerRest (world : World) (wakeAt : Option Nat) (belled : Bool) : World × Bool :=
  let disarmed := { world with schedule := world.schedule.disarm (.worker .runner) }
  let isDue := match wakeAt with
    | some time => decide (time ≤ world.schedule.now)
    | none => false
  if belled || isDue then (disarmed.withRunner (.asking false), true)
  else if world.runnerStopped then (disarmed.withRunner (.asking true), true)
  else (world, false)

def moveRunner (world : World) : World × Bool :=
  match world.runner with
  | .absent => (world, false)
  | .ended => (world, false)
  | .asking last =>
      match world.acquire (.worker .runner) with
      | (locked, true) => locked.runnerBegin last
      | (queued, false) => (queued.withRunner (.queued last), false)
  | .queued last =>
      if world.lock.owner = some (.worker .runner) then world.runnerBegin last else (world, false)
  | .passing last tryAt =>
      if tryAt ≤ world.schedule.now then
        let (tried, progress) := world.tryPublish
        tried.runnerProgress last progress
      else (world, false)
  | .resting wakeAt belled => world.runnerRest wakeAt belled

/-! ### The projector -/

/-- A move on a subscription: the projector ends, reads one envelope, or listens.
What it cannot read it leaves out. -/
def readOn (world : World) (subscription : Subscription) : World × Bool :=
  if world.projectorStopped then
    ({ world with projector := .ended, subscription := none }.wakeCallerFor .joiningProjector,
      false)
  else match subscription.receive world.bus with
    | (none, emptied) =>
        ({ world with projector := .listening, subscription := some emptied }, false)
    | (some found, rest) =>
        let reading := { world with projector := .reading, subscription := some rest }
        match found with
        | .error _ => (reading, true)
        | .ok envelope =>
            match reading.receive envelope with
            | .ok (handled, _) => (handled, true)
            | .error _ => (reading, true)

def moveProjector (world : World) : World × Bool :=
  match world.projector, world.subscription with
  | .absent, _ => (world, false)
  | .ended, _ => (world, false)
  | _, none => (world, false)
  | _, some subscription => world.readOn subscription

/-! ### The deliveries -/

def moveDelivery (world : World) (task : Nat) : World × Bool :=
  let (notices, schedule, ended) :=
    world.notices.takeTurn noticeWorkshop Worker.delivery world.schedule task
  let moved := { world with notices := notices, schedule := schedule }
  match ended with
  | some handle => (moved.wakeCallerFor (.store (.await handle)), false)
  | none => (moved, false)

/-! ### The caller -/

def withErrand (world : World) (errand : Errand) : World := { world with errand := some errand }

def served (world : World) : World × Bool := ({ world with errand := none }, true)

/-- The caller makes its next try after a wait. -/
def callerAgain (world : World) (wait : Nat) : World × Bool :=
  let (armed, tryAt, onward) := world.nextTry .caller wait
  (armed.withErrand (.passing tryAt), onward)

def callerProgress (world : World) : Progress → World × Bool
  | .idle => world.served
  | .publishing => (world.withErrand (.passing world.schedule.now), true)
  | .waiting wait => world.callerAgain wait.milliseconds
  | .unwound => world.release.served
  | .finished report => { world.release with report := some report }.served

def callerBegin (world : World) (kind : PassKind) : World × Bool :=
  let (begun, progress) := world.beginPass kind
  begun.callerProgress progress

def callerRest (world : World) (time : Nat) : World × Bool := (world.arm .caller time, false)

def stopRunner (world : World) : World :=
  let stopped := { world with runnerStopped := true }
  match world.runner with
  | .resting _ _ => stopped.wake (.worker .runner)
  | _ => stopped

def stopProjector (world : World) : World :=
  let stopped := { world with projectorStopped := true }
  match world.projector with
  | .listening => stopped.wake (.worker .projector)
  | _ => stopped

def moveCaller (world : World) : World × Bool :=
  match world.errand with
  | none => (world, true)
  | some (.store errand) =>
      match errand.look world.notices world.schedule with
      | .ended outcome => { world with outcome := outcome }.served
      | .onward later schedule => ({ world with schedule := schedule }.withErrand (.store later), false)
  | some (.asking kind) =>
      match world.acquire .caller with
      | (locked, true) => locked.callerBegin kind
      | (queued, false) => (queued.withErrand (.queued kind), false)
  | some (.queued kind) =>
      if world.lock.owner = some .caller then world.callerBegin kind else (world, false)
  | some (.passing tryAt) =>
      if tryAt ≤ world.schedule.now then
        let (tried, progress) := world.tryPublish
        tried.callerProgress progress
      else world.callerRest tryAt
  | some (.stoppingRunner stopAt) =>
      if stopAt ≤ world.schedule.now then (world.stopRunner.withErrand .joiningRunner, true)
      else world.callerRest stopAt
  | some .joiningRunner => if world.runner = .ended then world.served else (world, false)
  | some (.stoppingProjector stopAt) =>
      if stopAt ≤ world.schedule.now then (world.stopProjector.withErrand .joiningProjector, true)
      else world.callerRest stopAt
  | some .joiningProjector => if world.projector = .ended then world.served else (world, false)

/-! ### All together -/

def move (world : World) : Who Worker → World × Bool
  | .caller => world.moveCaller
  | .worker .runner => world.moveRunner
  | .worker .projector => world.moveProjector
  | .worker (.delivery task) => world.moveDelivery task

def stage : Stage World Worker :=
  { schedule := fun world => world.schedule
    withSchedule := fun world schedule => { world with schedule := schedule }
    move := move
    isServed := fun world => world.errand.isNone }

def run (world : World) (errand : Errand) : World := stage.settle (world.withErrand errand)

def rest (world : World) (milliseconds : Nat) : World :=
  world.run (.store (.rest (world.schedule.now + milliseconds)))

def await (world : World) (handle : Nat) : World := world.run (.store (.await handle))

/-- Closes the store of notices and waits for its tasks, at most so many
milliseconds. -/
def closeNotices (world : World) (milliseconds : Nat) : World :=
  let now := world.schedule.now
  { world with notices := world.notices.close }.run (.store (.close (now + milliseconds) now))

/-- A pass over the outbox or over the parked letters. -/
def pass (world : World) (kind : PassKind) : World :=
  { world with report := none }.run (.asking kind)

def startRunner (world : World) : Option World :=
  match world.runner with
  | .absent => some ((world.withRunner (.asking false)).wake (.worker .runner))
  | .ended => some ((world.withRunner (.asking false)).wake (.worker .runner))
  | _ => none

/-- How long the caller waits before it stops a worker, in milliseconds. -/
def pauseBeforeStop : Nat := 1

def finishRunner (world : World) : World :=
  world.run (.stoppingRunner (world.schedule.now + pauseBeforeStop))

/-- Subscribes the projector to the relay's topic and starts it. -/
def startProjector (world : World) : Except BusError World :=
  match Subscription.start world.bus [world.relay.topic] with
  | .error reason => .error reason
  | .ok subscription =>
      .ok ({ world with projector := .reading, subscription := some subscription }.wake
        (.worker .projector))

def finishProjector (world : World) : World :=
  world.run (.stoppingProjector (world.schedule.now + pauseBeforeStop))

end World

end BenefitCasework
