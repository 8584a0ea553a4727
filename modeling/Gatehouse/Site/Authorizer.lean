import Gatehouse.Site.Delivery

/-!
# Checks of an authorizer

Every realm is asked in turn, and an item is granted if any realm grants it. The verdicts are given
item by item, or combined by an operator into one. What was decided is published: each verdict for
itself where that is wanted, a combined verdict always.

Without realms nothing is asked; the error of a realm ends the check; and only then does a missing bus
matter.
-/

namespace Gatehouse

open Site

namespace Authorizer

/-! ## Setting up -/

/-- Registers the cache listeners on a bus, for realms as they are now. -/
def subscribeOn (realms : List Realm) (bus : Nat) : Action σ Unit :=
  CacheListener.registrations.forM fun (listener, topic) =>
    changeBus bus (·.subscribe listener.name topic (.clear listener realms))

/-- Removes the cache listeners from a bus. -/
def unsubscribeFrom (bus : Nat) : Action σ Unit :=
  CacheListener.registrations.forM fun (listener, topic) =>
    changeBus bus (·.unsubscribe listener.name topic)

/-- Replaces the realms, also for the cache listeners. -/
def setRealms (a : Authorizer) (realms : List Realm) : Action σ Authorizer := do
  if let some bus := a.bus? then subscribeOn realms bus
  return { a with realms? := some realms }

/-- Replaces the bus. The cache listeners leave the old one, and enter the new one if there are
realms to clear. -/
def setBus (a : Authorizer) (bus : Nat) : Action σ Authorizer := do
  if let some previous := a.bus? then unsubscribeFrom previous
  if let some realms := a.realms? then subscribeOn realms bus
  return { a with bus? := some bus }

/-- Registers the cache listeners, also where there are no realms yet. -/
def register (a : Authorizer) : Check σ Unit := do
  let bus ← a.assertBus
  ExceptT.lift <| subscribeOn a.realms bus

/-- Makes every realm forget an identity. -/
def clear (a : Authorizer) (identity : Identity) : Action σ Nat := Realm.clearAll a.realms identity

/-! ## Checks -/

/-- Warns of a realm that fails. -/
def reporting (realm : Realm) (check : Check σ α) : Check σ α :=
  tryCatch check fun error => do
    ExceptT.lift <| warn (.realmFailed realm.label error)
    throw error

variable [Requestable ι]

/-- The verdicts of every realm, one realm after the other. -/
def fanOut (run : σ → Action σ Unit) (realms : List Realm) (identity : Identity) (items : List ι) :
    Check σ (Verdicts ι) := do
  let found ← realms.mapM fun realm => reporting realm (realm.ask run identity items)
  return found.flatten

/-- Publishes who asked for what. -/
def publish (run : σ → Action σ Unit) (a : Authorizer) (topic : Topic)
    (notice : AuthorizationNotice) : Check σ Nat := do
  send run (← a.assertBus) { topic, payload := .authorization notice }

/-- Publishes each verdict for itself. -/
def publishResults (run : σ → Action σ Unit) (a : Authorizer) (identity : Identity)
    (results : Verdicts ι) : Check σ Unit :=
  results.forM fun (item, granted) => do
    let shown : Item := { name := Requestable.text item, granted? := some granted }
    let _ ← a.publish run .authorizationResults { identity, items := [shown] }

/-- The topic of a combined verdict. -/
def verdictTopic (granted : Bool) : Topic :=
  if granted then .authorizationGranted else .authorizationDenied

variable [DecidableEq ι]

/-- The joint verdicts of the realms. -/
def consult (run : σ → Action σ Unit) (a : Authorizer) (identity : Identity) (items : List ι) :
    Check σ (Verdicts ι) := do
  let realms ← a.assertRealms
  return (← fanOut run realms identity items).join

/-- The verdict on each distinct item. -/
def verdicts (run : σ → Action σ Unit) (a : Authorizer) (identity : Identity) (items : List ι)
    (logResults : Bool) : Check σ (Verdicts ι) := do
  let results ← a.consult run identity items
  if logResults then a.publishResults run identity results
  return results

/-- The verdicts combined by an operator. -/
def combined (run : σ → Action σ Unit) (a : Authorizer) (identity : Identity) (items : List ι)
    (operator : Operator) : Check σ Bool := do
  let results ← a.consult run identity items
  let granted := operator.apply (results.map Prod.snd)
  let requested : List Item := items.map fun item => { name := Requestable.text item }
  let _ ← a.publish run (verdictTopic granted)
    { identity, items := requested, operator? := some operator }
  return granted

/-- Passes if the combined verdict grants the items, and denies them all otherwise. -/
def check (run : σ → Action σ Unit) (a : Authorizer) (identity : Identity) (items : List ι)
    (operator : Operator) : Check σ Unit := do
  if ← a.combined run identity items operator then return ()
  throw <| .unauthorized
    { identity, kind := Requestable.kind ι, items := items.map Requestable.text, operator }

end Authorizer

end Gatehouse
