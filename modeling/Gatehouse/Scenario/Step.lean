import Gatehouse.Site.Manager

/-!
# Steps of a scenario

A scenario drives a site by steps, each an operation on an object with a name. Subscribing a listener
and queueing a script in a store take steps in turn, which run when their time comes.
-/

namespace Gatehouse

/-- A grant as it is written down: a text to keep, or one to read at once. -/
inductive GrantText where
  | raw (text : String)
  | parsed (text : String)
  deriving DecidableEq, Repr

/-- What is asked for: texts of permissions, or roles. -/
inductive Request where
  | permissions (texts : List String)
  | roles (l : List String)
  deriving DecidableEq, Repr

/-- The roles and the grants of a clearance, or a question about it. -/
inductive ClearanceStep where
  | new
  | ofParts (roles : List String) (grants : List GrantText)
  | addRoles (roles : List String)
  | addGrants (grants : List GrantText)
  | setGrants (grants : List GrantText)
  | filed (domain : String)
  | hasRole (role : String)
  | equals (other : String)
  | candidates (permission : String)
  | judge (request : Request)
  deriving DecidableEq, Repr

inductive BusStep (σ : Type) where
  | new
  | subscribe (listener : String) (topic : Topic) (tag : String) (times : Nat) (actions : σ)
  | unsubscribe (listener : String) (topic : Topic)
  | isSubscribed (listener : String) (topic : Topic)
  | counts
  | send (message : Message)
  | describe

/-- An account with its identifier. -/
structure AccountEntry where
  id : String
  account : Account
  deriving DecidableEq

inductive StoreStep (σ : Type) where
  | new (accounts : List AccountEntry)
  | insert (entry : AccountEntry)
  | remove (id : String)
  | find (id : String)
  | extent
  | fail (message? : Option String)
  | queue (actions : σ)

/-- What an outside realm says: to each item the same, or what is set down for it, or that it is out of
order. -/
structure OutsideAnswers where
  verdict : Bool
  outage? : Option String := none
  permissions? : Option (List (String × Bool)) := none
  roles? : Option (List (String × Bool)) := none
  deriving DecidableEq, Repr

inductive RealmStep where
  | newAccount (label store : String) (grantsPermissions grantsRoles : Bool)
  | newOutside (label : String) (caching : Bool) (answers : OutsideAnswers)
  | ask (identity : Identity) (request : Request)
  | clear (identity : Identity)
  | clearance (identity : Identity)
  | remembers (id : String)
  | describe
  deriving DecidableEq, Repr

inductive AuthorizerStep where
  | new
  | setRealms (realms : List String)
  | setBus (bus : String)
  | clone (name : String)
  | realms
  | assertRealms
  | usesBus (bus : String)
  | describe
  | verdicts (identity : Identity) (request : Request) (logResults : Bool)
  | combined (identity : Identity) (request : Request) (operator : Operator)
  | check (identity : Identity) (request : Request) (operator : Operator)
  | register
  | clear (identity : Identity)
  | publish (topic : Topic) (notice : AuthorizationNotice)
  deriving DecidableEq, Repr

inductive ManagerStep where
  | new (realms : List String)
  | withBus (bus : String) (realms : List String)
  | ofConfig (toml : String)
  | defaultOperator (operator : Operator)
  | logResults (value : Bool)
  | setRealms (realms : List String)
  | setBus (bus : String)
  | nameBus (bus : String)
  | view
  | verdicts (identity : Identity) (request : Request)
  | grantsAll (identity : Identity) (request : Request)
  | check (identity : Identity) (request : Request)
  | notify (notification : Manager.Notification) (identity : Identity)
  deriving DecidableEq

inductive Step where
  | clearance (name : String) (step : ClearanceStep)
  | bus (name : String) (step : BusStep (List Step))
  | store (name : String) (step : StoreStep (List Step))
  | realm (name : String) (step : RealmStep)
  | authorizer (name : String) (step : AuthorizerStep)
  | manager (name : String) (step : ManagerStep)

mutual

/-- How often scripts can run on account of a step, itself not counted. -/
def Step.scripts : Step → Nat
  | .bus _ (.subscribe _ _ _ times actions) => times * (1 + scriptsOf actions)
  | .store _ (.queue actions) => 1 + scriptsOf actions
  | _ => 0

/-- How often scripts can run on account of some steps. -/
def scriptsOf : List Step → Nat
  | [] => 0
  | step :: steps => step.scripts + scriptsOf steps

end

end Gatehouse
