import Gatehouse.Event
import Gatehouse.Realm

/-!
# Authorizers and managers

An authorizer asks its realms and publishes on its bus. It listens on the bus for what makes cached
clearances stale. A manager is an authorizer with its bus and with settings for its checks.

This module holds the values and what can be told of them alone; the checks are run on a site.
-/

namespace Gatehouse

/-- The two listeners by which an authorizer learns that a clearance is stale. -/
inductive CacheListener where
  | session
  | authentication
  deriving DecidableEq, Repr

namespace CacheListener

def all : List CacheListener := [session, authentication]

/-- The kind of payload that the listener expects. -/
def expected : CacheListener → String
  | session => "session"
  | authentication => "authentication"

def name : CacheListener → String
  | session => "authorizer.session_clears_cache"
  | authentication => "authorizer.authc_clears_cache"

def topics : CacheListener → List Topic
  | session => [.sessionStop, .sessionExpire]
  | authentication => [.authenticationSucceeded]

/-- Whose clearance a payload of the expected kind makes stale. -/
def subject? : CacheListener → Payload → Option Identity
  | session, payload => payload.session?.map SessionNotice.identity
  | authentication, payload => payload.authentication?

/-- Each listener with each of its topics, in the order in which they are registered. -/
def registrations : List (CacheListener × Topic) :=
  all.flatMap fun listener => listener.topics.map (listener, ·)

end CacheListener

structure Authorizer where
  realms? : Option (List Realm) := none
  bus? : Option Nat := none

namespace Authorizer

instance : Inhabited Authorizer := ⟨{}⟩

def realms (a : Authorizer) : List Realm := a.realms?.getD []

def realmNames (a : Authorizer) : List String := a.realms.map Realm.label

/-- The realms, of which there has to be one at least. -/
def assertRealms (a : Authorizer) : Except AccessError (List Realm) :=
  if a.realms.isEmpty then .error .realmsNotConfigured else .ok a.realms

def assertBus (a : Authorizer) : Except AccessError Nat :=
  match a.bus? with
  | some bus => .ok bus
  | none => .error .eventBusNotConfigured

/-- How a truth value is shown. -/
def flagText (b : Bool) : String := if b then "true" else "false"

def describe (a : Authorizer) : String :=
  "ModularRealmAuthorizer \x7b realms: [" ++ ", ".intercalate (a.realmNames.map Text.quote) ++
    "], event_bus: " ++ flagText a.bus?.isSome ++ " \x7d"

end Authorizer

/-- Verdicts that are being joined: one for each item so far, in order of first appearance, and where
the verdict on each item stands. -/
structure Tally (ι : Type) where
  verdicts : Verdicts ι := []
  positions : List (ι × Nat) := []

/-- Takes a verdict in. The verdict on an item that was met before is changed in its place. -/
def Tally.add [DecidableEq ι] (t : Tally ι) (verdict : ι × Bool) : Tally ι :=
  match t.positions.lookup verdict.1 with
  | some i => { t with verdicts := t.verdicts.modify i fun old => (old.1, old.2 || verdict.2) }
  | none =>
    { verdicts := t.verdicts ++ [verdict]
      positions := (verdict.1, t.verdicts.length) :: t.positions }

/-- Joins the verdicts of all realms: an item is granted if any realm grants it. -/
def Verdicts.join [DecidableEq ι] (verdicts : Verdicts ι) : Verdicts ι :=
  (verdicts.foldl Tally.add {}).verdicts

structure Manager where
  authorizer : Authorizer
  bus : Nat
  defaultOperator : Operator := .all
  logResults : Bool := true

namespace Manager

instance : Inhabited Manager := ⟨{ authorizer := {}, bus := 0 }⟩

/-- How an operator is shown. -/
def operatorText : Operator → String
  | .all => "All"
  | .any => "Any"

def describe (m : Manager) : String :=
  "SecurityManager \x7b authorizer: " ++ m.authorizer.describe ++ ", default_operator: " ++
    operatorText m.defaultOperator ++ ", log_results: " ++ Authorizer.flagText m.logResults ++
    ", .. \x7d"

/-- The authorizer publishes on the bus of the manager. -/
def sharesBus (m : Manager) : Bool := m.authorizer.bus? = some m.bus

end Manager

end Gatehouse
