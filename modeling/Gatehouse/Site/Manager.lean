import Gatehouse.Config.Validation
import Gatehouse.Site.Authorizer

/-!
# Managers at work

A manager is made over realms, on a bus of its own or a given one, or from a configuration. Its checks
are those of its authorizer under its settings, and it publishes the ends of sessions and the
authentications that others tell it of.
-/

namespace Gatehouse

open Site

/-- Makes the realm of a configuration, with a store that holds its accounts. -/
def Config.Realm.build (realm : Config.Realm) : Action σ Gatehouse.Realm := do
  let store ← newStore { accounts := realm.accounts }
  let cache ← newCache
  return .account { label := realm.name, store, cache }

namespace Manager

/-! ## Setting up -/

/-- Makes a manager on a given bus. -/
def withBus (bus : Nat) (realms : List Realm) : Action σ Manager := do
  let authorizer ← ({} : Authorizer).setBus bus
  let authorizer ← authorizer.setRealms realms
  return { authorizer, bus }

/-- Makes a manager on a bus of its own. -/
def new (realms : List Realm) : Action σ Manager := do withBus (← newBus) realms

/-- Makes the manager that a valid configuration describes. -/
def ofConfig (config : Config) : ExceptT ConfigError (Action σ) Manager := do
  config.validate
  let realms ← config.realms.mapM fun realm => (realm.build : Action σ Realm)
  let m ← (new realms : Action σ Manager)
  return { m with
    defaultOperator := config.authz.defaultOperator
    logResults := config.authz.logResults }

def setRealms (m : Manager) (realms : List Realm) : Action σ Manager := do
  return { m with authorizer := ← m.authorizer.setRealms realms }

def setBus (m : Manager) (bus : Nat) : Action σ Manager := do
  return { m with authorizer := ← m.authorizer.setBus bus, bus }

/-! ## Checks -/

section Checks

variable [Requestable ι] [DecidableEq ι]

/-- The verdict on each distinct item. -/
def verdicts (run : σ → Action σ Unit) (m : Manager) (identity : Identity) (items : List ι) :
    Check σ (Verdicts ι) :=
  m.authorizer.verdicts run identity items m.logResults

/-- Every item is granted. -/
def grantsAll (run : σ → Action σ Unit) (m : Manager) (identity : Identity) (items : List ι) :
    Check σ Bool :=
  m.authorizer.combined run identity items .all

/-- Passes if the items are granted under the operator of the manager. -/
def check (run : σ → Action σ Unit) (m : Manager) (identity : Identity) (items : List ι) :
    Check σ Unit :=
  m.authorizer.check run identity items m.defaultOperator

end Checks

/-! ## Notifications -/

/-- A change in the life of a session or an identity. -/
inductive Notification where
  | sessionStopped (session : SessionId)
  | sessionExpired (session : SessionId)
  | authenticated
  deriving DecidableEq

def Notification.message (identity : Identity) : Notification → Message
  | sessionStopped session => ⟨.sessionStop, .session { session, identity }⟩
  | sessionExpired session => ⟨.sessionExpire, .session { session, identity }⟩
  | authenticated => ⟨.authenticationSucceeded, .authentication identity⟩

/-- Publishes a notification, and counts the listeners. -/
def notify (run : σ → Action σ Unit) (m : Manager) (notification : Notification)
    (identity : Identity) : Action σ Nat :=
  send run m.bus (notification.message identity)

def view (m : Manager) : ManagerView where
  realms := m.authorizer.realmNames
  defaultOperator := m.defaultOperator
  sharesBus := m.sharesBus
  text := m.describe

end Manager

end Gatehouse
