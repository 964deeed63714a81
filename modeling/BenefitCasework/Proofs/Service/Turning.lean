import BenefitCasework.Proofs.Service.Journey

/-!
Contract: the calls of the service and the turns of its workers are steps of a
journey.

Owns:
- what the parts of a turn leave as it is;
- `Traveled.create` and `Traveled.perform`;
- `Journey.moved`, a turn with what can be seen of it, and `Traveled.moved`.

Does not own: whose turn is next.
-/

namespace BenefitCasework

namespace World

variable (world : World)

theorem rearranged_wakeCallerFor (errand : Errand) :
    world.Rearranged (world.wakeCallerFor errand) := by
  unfold wakeCallerFor
  split <;> exact ⟨rfl, rfl, rfl, rfl, rfl⟩

theorem rearranged_release : world.Rearranged world.release := by
  unfold release
  dsimp only
  split <;> exact ⟨rfl, rfl, rfl, rfl, rfl⟩

theorem rearranged_acquire (who : Who Worker) : world.Rearranged (world.acquire who).1 :=
  ⟨rfl, rfl, rfl, rfl, rfl⟩

theorem rearranged_nextTry (who : Who Worker) (wait : Nat) :
    world.Rearranged (world.nextTry who wait).1 := by
  unfold nextTry
  dsimp only
  split <;> exact ⟨rfl, rfl, rfl, rfl, rfl⟩

/-! ### The runner -/

theorem rearranged_restRunner (stalled : Bool) :
    world.Rearranged (world.restRunner stalled).1 := by
  unfold restRunner
  dsimp only
  repeat' split
  all_goals exact ⟨rfl, rfl, rfl, rfl, rfl⟩

theorem rearranged_runnerFinished (last : Bool) (report : PassReport) :
    world.Rearranged (world.runnerFinished last report).1 := by
  have released := world.rearranged_release
  unfold runnerFinished
  dsimp only
  split
  · refine released.trans (.trans ?_ (rearranged_wakeCallerFor _ _))
    exact ⟨rfl, rfl, rfl, rfl, rfl⟩
  · split <;> exact released.trans (rearranged_restRunner _ _)

theorem rearranged_runnerAgain (last : Bool) (wait : Nat) :
    world.Rearranged (world.runnerAgain last wait).1 := by
  refine (world.rearranged_nextTry (.worker .runner) wait).trans ?_
  exact ⟨rfl, rfl, rfl, rfl, rfl⟩

theorem rearranged_runnerUnwound : world.Rearranged world.runnerUnwound.1 := by
  refine world.rearranged_release.trans (.trans ?_ (rearranged_wakeCallerFor _ _))
  exact ⟨rfl, rfl, rfl, rfl, rfl⟩

theorem rearranged_runnerProgress (last : Bool) (progress : Progress) :
    world.Rearranged (world.runnerProgress last progress).1 := by
  cases progress with
  | idle => exact .refl world
  | publishing => exact ⟨rfl, rfl, rfl, rfl, rfl⟩
  | waiting wait => exact world.rearranged_runnerAgain last wait.milliseconds
  | unwound => exact world.rearranged_runnerUnwound
  | finished report => exact world.rearranged_runnerFinished last report

theorem rearranged_runnerRest (wakeAt : Option Nat) (belled : Bool) :
    world.Rearranged (world.runnerRest wakeAt belled).1 := by
  unfold runnerRest
  dsimp only
  repeat' split
  all_goals exact ⟨rfl, rfl, rfl, rfl, rfl⟩

/-! ### The caller -/

theorem rearranged_callerAgain (wait : Nat) :
    world.Rearranged (world.callerAgain wait).1 := by
  refine (world.rearranged_nextTry .caller wait).trans ?_
  exact ⟨rfl, rfl, rfl, rfl, rfl⟩

theorem rearranged_callerProgress (progress : Progress) :
    world.Rearranged (world.callerProgress progress).1 := by
  cases progress with
  | idle => exact ⟨rfl, rfl, rfl, rfl, rfl⟩
  | publishing => exact ⟨rfl, rfl, rfl, rfl, rfl⟩
  | waiting wait => exact world.rearranged_callerAgain wait.milliseconds
  | unwound =>
      refine world.rearranged_release.trans ?_
      exact ⟨rfl, rfl, rfl, rfl, rfl⟩
  | finished report =>
      refine world.rearranged_release.trans ?_
      exact ⟨rfl, rfl, rfl, rfl, rfl⟩

theorem rearranged_stopRunner : world.Rearranged world.stopRunner := by
  unfold stopRunner
  dsimp only
  split <;> exact ⟨rfl, rfl, rfl, rfl, rfl⟩

theorem rearranged_stopProjector : world.Rearranged world.stopProjector := by
  unfold stopProjector
  dsimp only
  split <;> exact ⟨rfl, rfl, rfl, rfl, rfl⟩

end World

namespace Traveled

variable {journey : Journey}

/-! ### Calls -/

theorem create (before : Traveled journey) (caller : Caller) (new : NewRequest) :
    Traveled { journey with
      world := (journey.world.create caller new).1
      announced := journey.announced ++ announcedBy (journey.world.create caller new).2 } :=
  before.serve ⟨caller, journey.world.moment⟩ (.create new) (.fresh journey.world.taken)

theorem perform (before : Traveled journey) (caller : Caller) (id : Identifier)
    (expected : UInt64) (operation : Operation) :
    Traveled { journey with
      world := (journey.world.perform caller id expected operation).1
      announced := journey.announced ++
        announcedBy (journey.world.perform caller id expected operation).2 } :=
  before.serve ⟨caller, journey.world.moment⟩ (.perform id expected operation)
    (.fresh journey.world.taken)

/-! ### Turns -/

/-- A pass begins, and who began it goes on. -/
theorem passed (before : Traveled journey) {begun next : World} (kind : PassKind)
    (locked : journey.world.Rearranged begun) (onward : (begun.beginPass kind).1.Rearranged next) :
    Traveled { journey with world := next } :=
  ((before.rearrange locked).pass kind).rearrange onward

/-- The pass under way is tried, and who tried it goes on. -/
theorem published (before : Traveled journey) {tried next : World} {progress : Progress}
    (answered : journey.world.tryPublish = (tried, progress)) (onward : tried.Rearranged next) :
    Traveled { journey with world := next } := by
  have publishes := before.publish
  rw [answered] at publishes
  exact publishes.rearrange onward

theorem moveRunner (before : Traveled journey) :
    Traveled { journey with world := journey.world.moveRunner.1 } := by
  unfold World.moveRunner
  cases journey.world.runner with
  | absent => exact before
  | ended => exact before
  | asking last =>
      have acquired := journey.world.rearranged_acquire (.worker .runner)
      cases asked : journey.world.acquire (.worker .runner) with
      | mk locked held =>
          simp only [asked] at acquired
          cases held with
          | true => exact before.passed .drain acquired (World.rearranged_runnerProgress _ _ _)
          | false =>
              refine before.rearrange (acquired.trans ?_)
              exact ⟨rfl, rfl, rfl, rfl, rfl⟩
  | queued last =>
      dsimp only
      split
      · exact before.passed .drain (.refl _) (World.rearranged_runnerProgress _ _ _)
      · exact before
  | passing last tryAt =>
      dsimp only
      split
      · cases answered : journey.world.tryPublish with
        | mk tried progress =>
            exact before.published answered (tried.rearranged_runnerProgress last progress)
      · exact before
  | resting wakeAt belled =>
      exact before.rearrange (journey.world.rearranged_runnerRest wakeAt belled)

theorem moveCaller (before : Traveled journey) :
    Traveled { journey with world := journey.world.moveCaller.1 } := by
  unfold World.moveCaller
  cases journey.world.errand with
  | none => exact before
  | some errand =>
      cases errand with
      | store errand =>
          dsimp only
          split <;> exact before.rearrange ⟨rfl, rfl, rfl, rfl, rfl⟩
      | asking kind =>
          have acquired := journey.world.rearranged_acquire .caller
          cases asked : journey.world.acquire .caller with
          | mk locked held =>
              simp only [asked] at acquired
              cases held with
              | true => exact before.passed kind acquired (World.rearranged_callerProgress _ _)
              | false =>
                  refine before.rearrange (acquired.trans ?_)
                  exact ⟨rfl, rfl, rfl, rfl, rfl⟩
      | queued kind =>
          dsimp only
          split
          · exact before.passed kind (.refl _) (World.rearranged_callerProgress _ _)
          · exact before
      | passing tryAt =>
          dsimp only
          split
          · cases answered : journey.world.tryPublish with
            | mk tried progress =>
                exact before.published answered (tried.rearranged_callerProgress progress)
          · exact before.rearrange ⟨rfl, rfl, rfl, rfl, rfl⟩
      | stoppingRunner stopAt =>
          dsimp only
          split
          · refine before.rearrange (journey.world.rearranged_stopRunner.trans ?_)
            exact ⟨rfl, rfl, rfl, rfl, rfl⟩
          · exact before.rearrange ⟨rfl, rfl, rfl, rfl, rfl⟩
      | joiningRunner =>
          dsimp only
          split
          · exact before.rearrange ⟨rfl, rfl, rfl, rfl, rfl⟩
          · exact before
      | stoppingProjector stopAt =>
          dsimp only
          split
          · refine before.rearrange (journey.world.rearranged_stopProjector.trans ?_)
            exact ⟨rfl, rfl, rfl, rfl, rfl⟩
          · exact before.rearrange ⟨rfl, rfl, rfl, rfl, rfl⟩
      | joiningProjector =>
          dsimp only
          split
          · exact before.rearrange ⟨rfl, rfl, rfl, rfl, rfl⟩
          · exact before

end Traveled

/-- A turn of somebody, with what can be seen of it. -/
def Journey.moved (journey : Journey) (who : Who Worker) : Journey :=
  { journey with
    world := (journey.world.move who).1
    received := journey.received ++ match who with
      | .worker .projector => journey.world.arrivals
      | _ => []
    handed := journey.handed ++ match who with
      | .worker (.delivery task) => journey.world.beganBy task
      | _ => [] }

/-- Whoever takes a turn, the journey goes on, as long as the projector does not
find that too much has gone by. -/
theorem Traveled.moved {journey : Journey} (before : Traveled journey) (who : Who Worker)
    (inTime : who = .worker .projector → ∀ reason, journey.world.arrival? ≠ some (.error reason)) :
    Traveled (journey.moved who) := by
  unfold Journey.moved World.move
  cases who with
  | caller =>
      simp only [List.append_nil]
      exact before.moveCaller
  | worker name =>
      cases name with
      | runner =>
          simp only [List.append_nil]
          exact before.moveRunner
      | projector =>
          simp only [List.append_nil]
          exact before.read (inTime rfl)
      | delivery task =>
          simp only [List.append_nil]
          exact before.deliver task

end BenefitCasework
