import Gatehouse.Config.Toml
import Gatehouse.Scenario.Authorizer
import Gatehouse.Scenario.Bus

/-!
# Steps on managers
-/

namespace Gatehouse.ManagerStep

open Site

/-- Gives a manager a name. -/
def assign (name : String) (m : Manager) : Action σ Answer := do
  changeNames fun names => { names with managers := names.managers.insert name m }
  return .none

/-- Makes a manager from the text of a configuration. -/
def ofToml (name toml : String) : Action σ Answer :=
  match Config.ofToml? toml with
  | none => return .malformed
  | some config => do
    match ← (Manager.ofConfig config).run with
    | .ok m => assign name m
    | .error e => return .ofFault e

def perform (run : σ → Action σ Unit) (name : String) (step : ManagerStep) : Action σ Answer :=
  let existing (act : Manager → Action σ Answer) : Action σ Answer :=
    withNamed (·.managers.find? name) act
  match step with
  | new l => withRealms l fun realms => do assign name (← Manager.new realms)
  | withBus bus l => Site.withBus bus fun bus => withRealms l fun realms => do
    assign name (← Manager.withBus bus realms)
  | ofConfig toml => ofToml name toml
  | defaultOperator operator => existing fun m =>
    assign name { m with defaultOperator := operator }
  | logResults value => existing fun m => assign name { m with logResults := value }
  | setRealms l => existing fun m => withRealms l fun realms => do
    assign name (← m.setRealms realms)
  | setBus bus => existing fun m => Site.withBus bus fun bus => do assign name (← m.setBus bus)
  | nameBus other => existing fun m => do
    BusStep.assign other { bus := m.bus, showsCounts := false }
    return .none
  | view => existing fun m => return .manager m.view
  | verdicts identity request => existing fun m => request.reading fun items =>
    (m.verdicts run identity items).answer .ofVerdicts
  | grantsAll identity request => existing fun m => request.reading fun items =>
    (m.grantsAll run identity items).answer .flag
  | check identity request => existing fun m => request.reading fun items =>
    (m.check run identity items).answer fun _ => .passed
  | notify notification identity => existing fun m =>
    return .count (← m.notify run notification identity)

end Gatehouse.ManagerStep
