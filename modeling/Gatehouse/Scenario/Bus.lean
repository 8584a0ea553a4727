import Gatehouse.Scenario.Answering

/-!
# Steps on buses
-/

namespace Gatehouse.BusStep

open Site

/-- Gives a bus a name. -/
def assign (name : String) (bus : BusName) : Action σ Unit :=
  changeNames fun names => { names with buses := names.buses.insert name bus }

/-- A number of listeners, where the name shows it. -/
def shownCount (named : BusName) (s : Site σ) (topic : Topic) : Option Nat :=
  if named.showsCounts then some ((s.buses.get named.bus).count topic) else none

/-- Registers a script as a listener. -/
def subscribeScript (bus : Nat) (listener : String) (topic : Topic) (tag : String) (times : Nat)
    (actions : σ) : Action σ Unit := do
  let counter ← newCounter
  changeBus bus (·.subscribe listener topic (.script { tag, counter, times, actions }))

def perform (run : σ → Action σ Unit) (name : String) (step : BusStep σ) : Action σ Answer :=
  let existing (act : BusName → Action σ Answer) : Action σ Answer :=
    withNamed (·.buses.find? name) act
  match step with
  | new => do
    assign name { bus := ← newBus, showsCounts := true }
    return .none
  | subscribe listener topic tag times actions => existing fun named => do
    subscribeScript named.bus listener topic tag times actions
    return .ofOption .count (shownCount named (← get) topic)
  | unsubscribe listener topic => existing fun named => do
    let before := (← get).buses.get named.bus
    changeBus named.bus (·.unsubscribe listener topic)
    return .flag (before.isSubscribed listener topic)
  | isSubscribed listener topic => existing fun named => do
    return .flag (((← get).buses.get named.bus).isSubscribed listener topic)
  | counts => existing fun named => do
    return .counts (Topic.all.map (shownCount named (← get)))
  | send message => existing fun named => do
    return .count (← Site.send run named.bus message)
  | describe => existing fun named => do
    if named.showsCounts then
      return .ofOption .text ((← get).buses.get named.bus).describe?
    return .none

end Gatehouse.BusStep
