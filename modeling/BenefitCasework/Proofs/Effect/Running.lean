import BenefitCasework.Effect.Store
import Mathlib.Data.List.Nodup

/-!
Contract: what the moves of a store do to its running tasks.

Owns:
- `contentsOf`, what some tasks are about, and `unbegun`, the part of it that no
  turn has begun;
- `EffectStore.Orderly`, tasks that are told apart by their numbers;
- `EffectStore.finish_of_action` and `EffectStore.beginTask_of_delay`, what the
  end and the begin of a task leave behind;
- `EffectStore.begunBy`, what the next turn of a task begins.

Does not own: the reducer and the way tasks are carried out.
-/

namespace BenefitCasework

section Tasks

variable {ε : Type}

def RunningTask.isFresh (task : RunningTask ε) : Bool :=
  match task.phase with
  | .fresh => true
  | .asleep _ _ => false

def contentsOf (tasks : List (RunningTask ε)) : List ε := tasks.map RunningTask.content

/-- What the tasks are about that have had no turn. -/
def unbegun (tasks : List (RunningTask ε)) : List ε := contentsOf (tasks.filter RunningTask.isFresh)

@[simp]
theorem contentsOf_append (front back : List (RunningTask ε)) :
    contentsOf (front ++ back) = contentsOf front ++ contentsOf back := List.map_append

@[simp]
theorem contentsOf_cons (task : RunningTask ε) (rest : List (RunningTask ε)) :
    contentsOf (task :: rest) = task.content :: contentsOf rest := rfl

@[simp]
theorem unbegun_nil : unbegun ([] : List (RunningTask ε)) = [] := rfl

@[simp]
theorem unbegun_append (front back : List (RunningTask ε)) :
    unbegun (front ++ back) = unbegun front ++ unbegun back := by simp [unbegun]

theorem unbegun_cons_of_fresh {task : RunningTask ε} (fresh : task.isFresh = true)
    (rest : List (RunningTask ε)) : unbegun (task :: rest) = task.content :: unbegun rest := by
  simp [unbegun, fresh]

theorem unbegun_cons_of_begun {task : RunningTask ε} (begun : task.isFresh = false)
    (rest : List (RunningTask ε)) : unbegun (task :: rest) = unbegun rest := by
  simp [unbegun, begun]

theorem unbegun_sublist (tasks : List (RunningTask ε)) :
    (unbegun tasks).Sublist (contentsOf tasks) :=
  List.filter_sublist.map RunningTask.content

end Tasks

namespace EffectStore

variable {σ ρ α ε : Type} {store : EffectStore σ ρ ε} {front back : List (RunningTask ε)}
  {task : RunningTask ε}

/-- Each task has a number of its own, below the next one to be given. -/
structure Orderly (store : EffectStore σ ρ ε) : Prop where
  distinct : (store.running.map RunningTask.id).Nodup
  below : ∀ task ∈ store.running, task.id < store.started

theorem orderly_start (state : σ) (surroundings : ρ) :
    (start state surroundings : EffectStore σ ρ ε).Orderly :=
  ⟨List.nodup_nil, fun task member => by cases member⟩

/-! ### Tasks that are started -/

@[simp]
theorem contentsOf_tasksOf (store : EffectStore σ ρ ε) (effects : List (Effect ε)) :
    contentsOf (store.tasksOf effects) = effects.filterMap Effect.task? := by
  apply List.ext_getElem
  · simp [contentsOf, tasksOf]
  · intro place present started
    simp [contentsOf, tasksOf]

@[simp]
theorem unbegun_tasksOf (store : EffectStore σ ρ ε) (effects : List (Effect ε)) :
    unbegun (store.tasksOf effects) = effects.filterMap Effect.task? := by
  have fresh : (store.tasksOf effects).filter RunningTask.isFresh = store.tasksOf effects := by
    apply List.filter_eq_self.mpr
    intro task member
    obtain ⟨place, below, same⟩ := List.mem_mapIdx.mp member
    rw [← same]
    rfl
  rw [unbegun, fresh, contentsOf_tasksOf]

theorem ids_tasksOf (store : EffectStore σ ρ ε) (effects : List (Effect ε)) :
    (store.tasksOf effects).map RunningTask.id =
      List.range' store.started (store.tasksOf effects).length := by
  apply List.ext_getElem
  · simp
  · intro place present ranged
    simp [tasksOf]

theorem orderly_accept (orderly : store.Orderly) (workshop : Workshop σ ρ α ε) (action : α) :
    (accept workshop store action).1.Orderly := by
  have ids := store.ids_tasksOf (workshop.reduce store.state action).2
  have numbered (task : RunningTask ε)
      (member : task ∈ store.tasksOf (workshop.reduce store.state action).2) :
      store.started ≤ task.id ∧ task.id <
        store.started + (store.tasksOf (workshop.reduce store.state action).2).length := by
    apply List.mem_range'_1.mp
    rw [← ids]
    exact List.mem_map_of_mem member
  constructor
  · simp only [accept, List.map_append]
    refine orderly.distinct.append (ids ▸ List.nodup_range') ?_
    intro id earlier later
    obtain ⟨old, present, same⟩ := List.mem_map.mp earlier
    obtain ⟨new, started, sameAgain⟩ := List.mem_map.mp later
    have before := orderly.below old present
    have after := (numbered new started).1
    omega
  · intro task member
    simp only [accept] at member ⊢
    rcases List.mem_append.mp member with old | new
    · exact Nat.lt_add_right _ (orderly.below task old)
    · exact (numbered task new).2

/-- A store that is not closed accepts every action. -/
theorem send_of_going (going : store.closing = false) (workshop : Workshop σ ρ α ε) (action : α) :
    store.send workshop action = .ok ((accept workshop store action).1, store.handles,
      (accept workshop store action).2) := by
  simp [send, going]

/-- A task may leave. -/
theorem Orderly.without (orderly : store.Orderly) (running : store.running = front ++ task :: back)
    (surroundings : ρ) :
    Orderly { store with surroundings := surroundings, running := front ++ back } := by
  have fewer : (front ++ back).Sublist store.running := by
    rw [running]
    exact (List.sublist_cons_self task back).append_left front
  exact ⟨orderly.distinct.sublist (fewer.map _), fun task member =>
    orderly.below task (fewer.subset member)⟩

/-- A task may change, as long as it keeps its number. -/
theorem Orderly.replaced (orderly : store.Orderly) (running : store.running = front ++ task :: back)
    {other : RunningTask ε} (sameId : other.id = task.id) (surroundings : ρ) (tally : Tally) :
    Orderly { store with
      surroundings := surroundings, tally := tally, running := front ++ other :: back } := by
  have sameIds : (front ++ other :: back).map RunningTask.id = store.running.map RunningTask.id := by
    simp only [running, List.map_append, List.map_cons, sameId]
  refine ⟨sameIds ▸ orderly.distinct, fun present member => ?_⟩
  have known : present.id ∈ store.running.map RunningTask.id :=
    sameIds ▸ List.mem_map_of_mem member
  obtain ⟨earlier, running, same⟩ := List.mem_map.mp known
  exact same ▸ orderly.below earlier running

/-! ### Turns -/

/-- Only a task itself has its number. -/
theorem Orderly.apart (orderly : store.Orderly) (running : store.running = front ++ task :: back) :
    ∀ other ∈ front ++ back, other.id ≠ task.id := by
  have distinct := orderly.distinct
  rw [running, List.map_append, List.map_cons] at distinct
  have alone := (List.nodup_cons.mp (List.nodup_middle.mp distinct)).1
  rw [← List.map_append] at alone
  exact fun other member same => alone (List.mem_map.mpr ⟨other, member, same⟩)

/-- The end of a task: it leaves, and its action is accepted. -/
theorem finish_of_action (orderly : store.Orderly) (going : store.closing = false)
    (running : store.running = front ++ task :: back) {workshop : Workshop σ ρ α ε}
    {ticket : Nat} {surroundings : ρ} {action : α}
    (completed : workshop.complete store.surroundings task.content ticket =
      (surroundings, some action)) :
    (finish workshop store task ticket).1 = (accept workshop
      { store with surroundings := surroundings, running := front ++ back } action).1 := by
  have others := orderly.apart running
  have notStarted : ∀ other ∈ store.tasksOf (workshop.reduce store.state action).2,
      other.id ≠ task.id := by
    intro other member same
    have numbered := List.mem_map_of_mem (f := RunningTask.id) member
    rw [ids_tasksOf] at numbered
    have after := (List.mem_range'_1.mp numbered).1
    have before := orderly.below task (by simp [running])
    omega
  have left : (store.running ++ store.tasksOf (workshop.reduce store.state action).2).filter
      (fun other => other.id != task.id) =
        front ++ back ++ store.tasksOf (workshop.reduce store.state action).2 := by
    rw [running, List.append_assoc, List.filter_append, List.cons_append,
      List.filter_cons_of_neg (by simp), ← List.filter_append, ← List.append_assoc]
    apply List.filter_eq_self.mpr
    intro other member
    rcases List.mem_append.mp member with old | new
    · simpa using others other old
    · simpa using notStarted other new
  simp only [finish, completed, feedBack, going, Bool.false_eq_true, if_false, accept, remove]
  exact congrArg (fun tasks => EffectStore.mk _ _ _ tasks _ _ _) left

/-- The phase of one task may change, and no other task does. -/
theorem Orderly.map_phase (orderly : store.Orderly)
    (running : store.running = front ++ task :: back) (phase : TaskPhase) :
    (store.running.map fun other => if other.id = task.id then { other with phase := phase }
      else other) = front ++ { task with phase := phase } :: back := by
  have others := orderly.apart running
  have unchanged (tasks : List (RunningTask ε)) (part : ∀ other ∈ tasks, other.id ≠ task.id) :
      (tasks.map fun other => if other.id = task.id then
        { other with phase := phase } else other) = tasks := by
    conv_rhs => rw [← List.map_id' tasks]
    apply List.map_congr_left
    intro other member
    exact if_neg (part other member)
  simp only [running, List.map_append, List.map_cons, if_true]
  rw [unchanged front fun other member => others other (List.mem_append_left _ member),
    unchanged back fun other member => others other (List.mem_append_right _ member)]

/-- The begin of a task that takes its time: only its phase changes. -/
theorem beginTask_of_delay (orderly : store.Orderly)
    (running : store.running = front ++ task :: back) {workshop : Workshop σ ρ α ε}
    {surroundings : ρ} {delay ticket : Nat}
    (begun : workshop.begin store.surroundings task.content = (surroundings, delay, ticket))
    (slow : delay ≠ 0) (now : Nat) :
    (beginTask workshop store task now).1 =
      { store with
        surroundings := surroundings
        tally := store.tally.bump .effects
        running := front ++ { task with phase := .asleep (now + delay) ticket } :: back } := by
  simp only [beginTask, begun, if_neg slow, orderly.map_phase running]

/-- What the next turn of a task begins. -/
def begunBy (store : EffectStore σ ρ ε) (id : Nat) : List ε :=
  unbegun (store.running.find? fun task => task.id == id).toList

end EffectStore

end BenefitCasework
