import Gatehouse.Scenario.Answering

/-!
# Steps on stores
-/

namespace Gatehouse.StoreStep

open Site

def perform (name : String) (step : StoreStep σ) : Action σ Answer :=
  let existing (act : Nat → Action σ Answer) : Action σ Answer :=
    withNamed (·.stores.find? name) act
  match step with
  | new entries => do
    let accounts := SortedMap.ofList (entries.map fun entry => (entry.id, entry.account))
    let store ← newStore { accounts, watchedAs? := some name }
    changeNames fun names => { names with stores := names.stores.insert name store }
    return .count accounts.size
  | insert entry => existing fun store => do
    let before := (← get).stores.get store
    changeStore store (·.insert entry.id entry.account)
    return .ofOption .account (before.accounts.find? entry.id)
  | remove id => existing fun store => do
    let before := (← get).stores.get store
    changeStore store (·.remove id)
    return .ofOption .account (before.accounts.find? id)
  | find id => existing fun store => do
    return .ofOption .account (((← get).stores.get store).accounts.find? id)
  | extent => existing fun store => do
    let accounts := ((← get).stores.get store).accounts
    return .extent accounts.size accounts.isEmpty
  | fail message? => existing fun store => do
    changeStore store fun s => { s with outage? := message?.map (.realmFailed name) }
    return .none
  | queue actions => existing fun store => do
    changeStore store fun s => { s with queue := s.queue ++ [actions] }
    return .none

end Gatehouse.StoreStep
