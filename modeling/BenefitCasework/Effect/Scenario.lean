import BenefitCasework.Effect.Basic

/-!
Contract: what is expected of a reducer.

Owns:
- `Scenario`, a state, surroundings and actions;
- `Scenario.run`, the last state and the effects of the last action;
- `Expectation`, what may be said about effects;
- `ScenarioFault`, why a scenario cannot be run or does not hold.

Does not own: the carrying out of effects.
-/

namespace BenefitCasework

/-- Why a scenario cannot be run or does not hold. -/
inductive ScenarioFault where
  | noState
  | noSurroundings
  | noAction
  | unexpectedEffects (effects : List String)
  | noTask
deriving DecidableEq, Repr

def ScenarioFault.message : ScenarioFault → String
  | .noState => "initial state must be set with given_state()"
  | .noSurroundings => "environment must be set with with_env()"
  | .noAction => "at least one action must be set with when_action()"
  | .unexpectedEffects effects =>
      "Expected no effects, but found " ++ Text.natural effects.length ++ ": [" ++
        ", ".intercalate effects ++ "]"
  | .noTask => "Expected at least one Future effect, but none found"

/-- What is expected of the effects of an action. -/
inductive Expectation where
  | noEffects
  | someTask
deriving DecidableEq, Repr

def Expectation.check {ε : Type} (effects : List (Effect ε)) :
    Expectation → Except ScenarioFault Unit
  | .noEffects =>
      if effects.all Effect.isNothing then .ok ()
      else .error (.unexpectedEffects (effects.map Effect.text))
  | .someTask => if effects.all Effect.isNothing then .error .noTask else .ok ()

def checkExpectations {ε : Type} (effects : List (Effect ε)) :
    List Expectation → Except ScenarioFault Unit
  | [] => .ok ()
  | expectation :: rest =>
      match expectation.check effects with
      | .ok () => checkExpectations effects rest
      | .error fault => .error fault

/-- A state, surroundings and actions, as far as they are given. -/
structure Scenario (σ α : Type) where
  state : Option σ
  hasSurroundings : Bool
  actions : List α

/-- The last state and the effects of the last action. -/
def Scenario.run {σ α ε : Type} (scenario : Scenario σ α) (reduce : Reducer σ α ε) :
    Except ScenarioFault (σ × List (Effect ε)) :=
  match scenario.state with
  | none => .error .noState
  | some state =>
      if !scenario.hasSurroundings then .error .noSurroundings
      else if scenario.actions.isEmpty then .error .noAction
      else .ok (scenario.actions.foldl (fun reached action => reduce reached.1 action) (state, []))

end BenefitCasework
