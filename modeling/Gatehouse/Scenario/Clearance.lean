import Gatehouse.Scenario.Answering

/-!
# Steps on clearances
-/

namespace Gatehouse.ClearanceStep

open Site

/-- Gives a clearance a name, and shows it. -/
def assign (name : String) (c : Clearance) : Action σ Answer := do
  changeNames fun names => { names with clearances := names.clearances.insert name c }
  return .clearance c

/-- Changes a clearance by grants that are written down, of which the unfiled ones are warned of. -/
def changeBy (name : String) (grants : List GrantText) (change : List Grant → Clearance) :
    Action σ Answer :=
  Answer.orElse (grants.mapM GrantText.grant) fun grants => do
    warnUnfiled grants
    assign name (change grants)

def perform (name : String) (step : ClearanceStep) : Action σ Answer :=
  let existing (act : Clearance → Action σ Answer) : Action σ Answer :=
    withNamed (·.clearances.find? name) act
  match step with
  | new => assign name .empty
  | ofParts roles grants => changeBy name grants (.ofParts roles)
  | addRoles roles => existing fun c => assign name (c.addRoles roles)
  | addGrants grants => existing fun c => changeBy name grants c.addGrants
  | setGrants grants => existing fun c => changeBy name grants c.setGrants
  | filed domain => existing fun c => return .grants (c.filed domain).toList
  | hasRole role => existing fun c => return .flag (c.hasRole role)
  | equals other => existing fun c =>
    withNamed (·.clearances.find? other) fun d => return .flag (c = d)
  | candidates text => existing fun c =>
    Answer.orElse (Permission.parse text >>= c.resolved) fun held => return .permissions held
  | judge (.permissions texts) => existing fun c =>
    Answer.orElse (texts.mapM Permission.parse >>= c.judge) fun found => return .ofVerdicts found
  | judge (.roles roles) => existing fun c => return .ofVerdicts (c.judgeRoles roles)

end Gatehouse.ClearanceStep
