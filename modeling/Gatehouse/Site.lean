import Gatehouse.Answer
import Gatehouse.Arena
import Gatehouse.Bus
import Gatehouse.Cache
import Gatehouse.Store

/-!
# Sites

A site is everything that is alive at once: stores, caches and buses, which are shared and refer to
each other by number, the names under which a script finds them, and the record of what happened.

Scripts act on a site in the middle of its own work: in a listener when an event is delivered, and
in a store when a record is looked up. What a script is and how it is run is left open.
-/

namespace Gatehouse

/-- Something that deserves attention, but is no failure of the operation. -/
inductive Warning where
  /-- A grant that has no domain token was left out of a clearance. -/
  | unfiled (grant : Grant)
  | realmFailed (realm : String) (error : AccessError)
  /-- A listener got a payload of a kind that it does not expect. -/
  | clearSkipped (listener : CacheListener) (topic : Topic) (received : String)
  deriving DecidableEq

namespace Warning

def message : Warning → String
  | unfiled _ => "permission has no domain, not indexed"
  | realmFailed .. => "realm check failed"
  | clearSkipped listener .. => listener.expected ++ " cache clear skipped"

/-- What the warning is about, by name. -/
def details : Warning → List (String × String)
  | unfiled grant => [("permission", grant.text)]
  | realmFailed realm error => [("realm", realm), ("error", error.message)]
  | clearSkipped listener topic received =>
    [("error", (EventError.payloadMismatch topic.name listener.expected).message),
      ("received", received)]

end Warning

/-- An entry of the record. -/
inductive Happening where
  /-- The record of an account was looked up in a watched store. -/
  | lookedUp (store id : String)
  /-- An outside realm was asked. -/
  | asked (realm : String) (kind : ItemKind)
  /-- An outside realm was told to forget an identity. -/
  | cleared (realm : String) (identity : Identity)
  | delivered (tag : String) (message : Message)
  /-- A step of a script came to its end. -/
  | answered (answer : Answer)
  | warned (warning : Warning)
  deriving DecidableEq

/-- What a listener of a scenario does with an event: it is recorded under the tag, and the script is
run at the first `times` deliveries, counted by a counter. -/
structure Script (σ : Type) where
  tag : String
  counter : Nat
  times : Nat
  actions : σ

/-- What is done with a delivered event. -/
inductive Handler (σ : Type) where
  /-- Every realm forgets the identity that the event tells. -/
  | clear (listener : CacheListener) (realms : List Realm)
  | script (s : Script σ)

/-- A name for a bus. One that was given to the bus of a manager does not show the counts. -/
structure BusName where
  bus : Nat
  showsCounts : Bool

/-- The names that are in use. A name that is used again refers to the new object alone. -/
structure Names where
  clearances : SortedMap String Clearance := .empty
  buses : SortedMap String BusName := .empty
  stores : SortedMap String Nat := .empty
  realms : SortedMap String Realm := .empty
  authorizers : SortedMap String Authorizer := .empty
  managers : SortedMap String Manager := .empty

structure Site (σ : Type) where
  stores : Arena (Store σ) := {}
  caches : Arena Cache := {}
  buses : Arena (Bus (Handler σ)) := {}
  /-- How many events each script has had. -/
  deliveries : Arena Nat := {}
  names : Names := {}
  /-- What happened, in order. -/
  trace : List Happening := []

/-- An operation on a site. -/
abbrev Action (σ : Type) := StateM (Site σ)

/-- An operation that can fail; what it did before stays done. -/
abbrev Check (σ : Type) := ExceptT AccessError (Action σ)

namespace Site

instance : Inhabited (Site σ) := ⟨{}⟩

def record (h : Happening) : Action σ Unit := modify fun s => { s with trace := s.trace ++ [h] }

def warn (w : Warning) : Action σ Unit := record (.warned w)

/-- Records each grant that has no domain token. -/
def warnUnfiled (grants : List Grant) : Action σ Unit :=
  (Clearance.unfiled grants).forM fun grant => warn (.unfiled grant)

def changeNames (f : Names → Names) : Action σ Unit := modify fun s => { s with names := f s.names }

def changeBus (bus : Nat) (f : Bus (Handler σ) → Bus (Handler σ)) : Action σ Unit :=
  modify fun s => { s with buses := s.buses.update bus f }

def changeStore (store : Nat) (f : Store σ → Store σ) : Action σ Unit :=
  modify fun s => { s with stores := s.stores.update store f }

def changeCache (cache : Nat) (f : Cache → Cache) : Action σ Unit :=
  modify fun s => { s with caches := s.caches.update cache f }

/-- Makes a bus and gives its number. -/
def newBus : Action σ Nat :=
  modifyGet fun s => (s.buses.size, { s with buses := s.buses.push {} })

def newStore (store : Store σ) : Action σ Nat :=
  modifyGet fun s => (s.stores.size, { s with stores := s.stores.push store })

def newCache : Action σ Nat :=
  modifyGet fun s => (s.caches.size, { s with caches := s.caches.push {} })

def newCounter : Action σ Nat :=
  modifyGet fun s => (s.deliveries.size, { s with deliveries := s.deliveries.push 0 })

end Site

end Gatehouse
