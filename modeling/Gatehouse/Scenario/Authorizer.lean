import Gatehouse.Scenario.Answering

/-!
# Steps on authorizers
-/

namespace Gatehouse

open Site

/-- Goes on with the realms of the given names. -/
def Site.withRealms (l : List String) (act : List Realm → Action σ Answer) : Action σ Answer :=
  withNamed (fun names => l.mapM names.realms.find?) act

/-- Goes on with the bus of a name. -/
def Site.withBus (name : String) (act : Nat → Action σ Answer) : Action σ Answer :=
  withNamed (fun names => (names.buses.find? name).map BusName.bus) act

namespace AuthorizerStep

/-- Gives an authorizer a name. -/
def assign (name : String) (a : Authorizer) : Action σ Answer := do
  changeNames fun names => { names with authorizers := names.authorizers.insert name a }
  return .none

def perform (run : σ → Action σ Unit) (name : String) (step : AuthorizerStep) : Action σ Answer :=
  let existing (act : Authorizer → Action σ Answer) : Action σ Answer :=
    withNamed (·.authorizers.find? name) act
  match step with
  | new => assign name {}
  | setRealms l => existing fun a => withRealms l fun realms => do
    assign name (← a.setRealms realms)
  | setBus bus => existing fun a => withBus bus fun bus => do
    assign name (← a.setBus bus)
  | clone other => existing fun a => assign other a
  | realms => existing fun a => return .texts a.realmNames
  | assertRealms => existing fun a =>
    return .ofExcept (fun realms => .texts (realms.map Realm.label)) a.assertRealms
  | usesBus bus => existing fun a => withBus bus fun bus =>
    return .ofOption (fun own => .flag (own = bus)) a.bus?
  | describe => existing fun a => return .text a.describe
  | verdicts identity request logResults => existing fun a => request.reading fun items =>
    (a.verdicts run identity items logResults).answer .ofVerdicts
  | combined identity request operator => existing fun a => request.reading fun items =>
    (a.combined run identity items operator).answer .flag
  | check identity request operator => existing fun a => request.reading fun items =>
    (a.check run identity items operator).answer fun _ => .passed
  | register => existing fun a => (a.register : Check σ Unit).answer fun _ => .passed
  | clear identity => existing fun a => return .count (← a.clear identity)
  | publish topic notice => existing fun a => (a.publish run topic notice).answer .count

end AuthorizerStep

end Gatehouse
