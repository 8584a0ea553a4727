import Gatehouse.Site

/-!
# Asking a realm

An account realm answers from its cache, or loads the record of the account. An eviction that happens
while a load is under way wins: what was loaded is not kept, and the record is read once more. An
unknown account and an anonymous identity are denied every item.
-/

namespace Gatehouse

namespace Site

/-- Looks the record of an account up in a store. -/
def lookUp (run : σ → Action σ Unit) (store : Nat) (id : String) : Check σ (Option Account) := do
  let s := (← get).stores.get store
  if let some name := s.watchedAs? then ExceptT.lift <| record (.lookedUp name id)
  if let some error := s.outage? then throw error
  match s.queue with
  | [] => pure ()
  | script :: queue =>
    ExceptT.lift <| changeStore store fun s => { s with queue }
    run script
  return s.accounts.find? id

end Site

open Site

namespace AccountRealm

/-- Keeps a clearance if no eviction has happened since the given generation, and tells whether. -/
def keepSince (r : AccountRealm) (generation : Nat) (id : String) (c : Clearance) :
    Action σ Bool := do
  if ((← get).caches.get r.cache).generation = generation then
    changeCache r.cache (·.keep id c)
    return true
  return false

/-- The clearance of an account, remembered or loaded. A load that an eviction overtakes is done
again, `retries` times at most; the last one answers without being kept. -/
def load (run : σ → Action σ Unit) (r : AccountRealm) (id : String) (retries : Nat) :
    Check σ (Option Clearance) := do
  let cache := (← get).caches.get r.cache
  if let some c := cache.entries.find? id then return some c
  let some account ← lookUp run r.store id | return none
  ExceptT.lift <| warnUnfiled account.grants
  let c := account.clearance
  if ← ExceptT.lift <| r.keepSince cache.generation id c then return some c
  match retries with
  | 0 => return some c
  | n + 1 => r.load run id n

/-- The clearance of an identity, if it has a primary identifier that the store knows. -/
def clearance? (run : σ → Action σ Unit) (r : AccountRealm) (identity : Identity) :
    Check σ (Option Clearance) :=
  match identity.primary? with
  | some id => r.load run id 1
  | none => return none

/-- The verdicts on items. -/
def ask [Requestable ι] (run : σ → Action σ Unit) (r : AccountRealm) (identity : Identity)
    (items : List ι) : Check σ (Verdicts ι) := do
  match ← r.clearance? run identity with
  | some c => Requestable.judge r c items
  | none => return .constant false items

/-- How the realm is shown, with the number of identities that it remembers. -/
def describe (r : AccountRealm) (s : Site σ) : String :=
  "AccountStoreRealm \x7b name: " ++ Text.quote r.label ++ ", cached: " ++
    toString (s.caches.get r.cache).entries.size ++ ", .. \x7d"

end AccountRealm

namespace Realm

/-- The verdicts on items. -/
def ask [Requestable ι] (run : σ → Action σ Unit) (realm : Realm) (identity : Identity)
    (items : List ι) : Check σ (Verdicts ι) :=
  match realm with
  | account r => r.ask run identity items
  | outside r => do
    ExceptT.lift <| record (.asked r.label (Requestable.kind ι))
    Requestable.ask r identity items

/-- Makes the realm forget an identity, and tells whether it is one that remembers. -/
def clear (realm : Realm) (identity : Identity) : Action σ Bool := do
  match realm with
  | account r => changeCache r.cache (·.evict identity)
  | outside r => if r.caching then record (.cleared r.label identity)
  return realm.isCaching

/-- Makes every realm forget an identity, and counts those that remember. -/
def clearAll (realms : List Realm) (identity : Identity) : Action σ Nat := do
  let cleared ← realms.mapM (·.clear identity)
  return cleared.count true

end Realm

end Gatehouse
