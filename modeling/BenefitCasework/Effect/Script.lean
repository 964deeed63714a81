import BenefitCasework.Effect.Store
import BenefitCasework.Json.Record

/-!
Contract: actions that say themselves what follows from them.

Owns:
- `ScriptedAction`, a name and the effects that follow; a task takes a time
  and may yield another action;
- `ScriptedAction.read?`, the action that a value tells;
- `scriptWorkshop`, whose state is the list of the names so far.

Does not own: the carrying out of tasks.
-/

namespace BenefitCasework

/-- A named action with its effects. A task has a duration in milliseconds and
the action it yields; a task that fails yields none. -/
inductive ScriptedAction where
  | act (name : String) (effects : List (Effect (Nat × Option ScriptedAction)))

/-- What a task does: how long it takes, and what it yields. -/
abbrev ScriptedTask := Nat × Option ScriptedAction

/-- The names so far, with the tasks of each action. -/
def scriptWorkshop : Workshop (List String) Unit ScriptedAction ScriptedTask :=
  { reduce := fun names action =>
      match action with
      | .act name effects => (names ++ [name], effects)
    begin := fun _ task => ((), task.1, 0)
    complete := fun _ task _ => ((), task.2) }

/-- The effect of a kind; only a task that does not fail yields its action. -/
def scriptedEffect (kind : String) (delay : Nat) (yields : Option ScriptedAction) :
    Option (Effect ScriptedTask) :=
  match kind with
  | "none" => some .nothing
  | "future" => some (.task (delay, yields))
  | "panic" => some (.task (delay, none))
  | _ => none

namespace ScriptedAction

mutual

def read? : Json → Option ScriptedAction
  | .object fields => do
      return .act (← Json.getText "name" (.object fields)) (← effectsIn fields)
  | _ => none

/-- The effects that a field lists, none unless it is there. -/
def effectsIn : JsonFields → Option (List (Effect ScriptedTask))
  | [] => some []
  | (name, value) :: rest => if name = "effects" then effects? value else effectsIn rest

def effects? : Json → Option (List (Effect ScriptedTask))
  | .null => some []
  | .array items => effectItems items
  | _ => none

def effectItems : List Json → Option (List (Effect ScriptedTask))
  | [] => some []
  | item :: rest => do return (← effect? item) :: (← effectItems rest)

def effect? : Json → Option (Effect ScriptedTask)
  | .object fields => do
      scriptedEffect (← Json.getText "kind" (.object fields))
        (← Json.getNaturalOr 0 "delay_ms" (.object fields)) (← yieldIn fields)
  | _ => none

/-- The action that a field tells, none unless it is there. -/
def yieldIn : JsonFields → Option (Option ScriptedAction)
  | [] => some none
  | (name, value) :: rest => if name = "then" then yield? value else yieldIn rest

/-- The action that a value tells, if it is not null. -/
def yield? : Json → Option (Option ScriptedAction)
  | .null => some none
  | value => (read? value).map some

end

end ScriptedAction

end BenefitCasework
