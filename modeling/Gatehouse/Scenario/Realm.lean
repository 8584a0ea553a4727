import Gatehouse.Scenario.Answering

/-!
# Steps on realms
-/

namespace Gatehouse.RealmStep

open Site

/-- Gives a realm a name. -/
def assign (name : String) (realm : Realm) : Action σ Answer := do
  changeNames fun names => { names with realms := names.realms.insert name realm }
  return .none

/-- An account realm, whose verdicts may be replaced by ones that grant everything. -/
def accountRealm (label : String) (store cache : Nat) (grantsPermissions grantsRoles : Bool) :
    AccountRealm :=
  let r : AccountRealm := { label, store, cache }
  { r with
    judge := if grantsPermissions then fun _ items => .ok (.constant true items) else r.judge
    judgeRoles := if grantsRoles then fun _ items => .constant true items else r.judgeRoles }

/-- Verdicts on permissions that are written down. -/
def readVerdicts (l : List (String × Bool)) : Except FormatError (Verdicts Permission) :=
  l.mapM fun (text, granted) => (Permission.parse text).map (·, granted)

def perform (run : σ → Action σ Unit) (name : String) (step : RealmStep) : Action σ Answer :=
  let existing (act : Realm → Action σ Answer) : Action σ Answer :=
    withNamed (·.realms.find? name) act
  let existingAccount (act : AccountRealm → Action σ Answer) : Action σ Answer :=
    existing fun
      | .account r => act r
      | .outside _ => return .unknown
  match step with
  | newAccount label store grantsPermissions grantsRoles =>
    withNamed (·.stores.find? store) fun store => do
      let cache ← newCache
      assign name (.account (accountRealm label store cache grantsPermissions grantsRoles))
  | newOutside label caching answers =>
    Answer.orElse (answers.permissions?.mapM readVerdicts) fun permissions? =>
      assign name <| .outside <|
        .fixed label caching answers.outage? answers.verdict permissions? answers.roles?
  | ask identity request => existing fun realm =>
    request.reading fun items => (realm.ask run identity items).answer .ofVerdicts
  | clear identity => existing fun realm => return .flag (← realm.clear identity)
  | clearance identity => existingAccount fun r =>
    (r.clearance? run identity).answer (.ofOption .clearance)
  | remembers id => existingAccount fun r => do
    let entries := ((← get).caches.get r.cache).entries
    return .remembered (entries.contains id) entries.size
  | describe => existingAccount fun r => return .text (r.describe (← get))

end Gatehouse.RealmStep
