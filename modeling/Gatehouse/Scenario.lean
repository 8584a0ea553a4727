import Gatehouse.Scenario.Clearance
import Gatehouse.Scenario.Manager
import Gatehouse.Scenario.Realm
import Gatehouse.Scenario.Store

/-!
# Scenarios

A scenario is a list of steps. It begins with an empty site, and tells of each step what it answers
and what happened in it.

Steps that a listener or a store runs are scripts of the same kind of steps, so scripts can nest. They
cannot go on for ever, since each listener runs its script only so many times and a store each of its
scripts once: `scriptsOf` bounds how often scripts can run in all, and so how deep.
-/

namespace Gatehouse

open Site

/-- Performs a step, where scripts are run by `run`. -/
def Step.perform (run : List Step → Action (List Step) Unit) :
    Step → Action (List Step) Answer
  | clearance name step => step.perform name
  | bus name step => step.perform run name
  | store name step => step.perform name
  | realm name step => step.perform run name
  | authorizer name step => step.perform run name
  | manager name step => step.perform run name

namespace Scenario

/-- Performs the steps of a script one by one and records their answers, where scripts nest at most
`depth` levels. -/
def runScript : Nat → List Step → Action (List Step) Unit
  | 0, _ => return ()
  | depth + 1, steps => steps.forM fun step => do
    let answer ← step.perform (runScript depth)
    record (.answered answer)

/-- Performs a step with an empty record, and tells what it answers and what happened. -/
def observe (depth : Nat) (step : Step) : Action (List Step) (Answer × List Happening) := do
  modify fun s => { s with trace := [] }
  let answer ← step.perform (runScript depth)
  return (answer, (← get).trace)

/-- What the steps of a scenario answer, each with what happened. -/
def outcomes (steps : List Step) : List (Answer × List Happening) :=
  ((steps.mapM (observe (scriptsOf steps))).run {}).1

end Scenario

end Gatehouse
