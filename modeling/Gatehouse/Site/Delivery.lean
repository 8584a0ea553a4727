import Gatehouse.Site.Realm

/-!
# Delivery of events

A message goes to the listeners that are registered for its topic when it is sent, in their order,
with the handlers that they have then; what handlers do to the bus in the meantime counts for later
messages.
-/

namespace Gatehouse

open Site

/-- Counts a delivery to a script, and runs it if it is one of the first. -/
def Script.notify (run : σ → Action σ Unit) (script : Script σ) (message : Message) :
    Action σ Unit := do
  record (.delivered script.tag message)
  let earlier := (← get).deliveries.get script.counter
  modify fun s => { s with deliveries := s.deliveries.set script.counter (earlier + 1) }
  if earlier < script.times then run script.actions

/-- Makes the realms forget whom a message tells of, if its payload is of the expected kind. -/
def CacheListener.notify (listener : CacheListener) (realms : List Realm) (message : Message) :
    Action σ Unit :=
  match listener.subject? message.payload with
  | some identity => do let _ ← Realm.clearAll realms identity
  | none => warn (.clearSkipped listener message.topic message.payload.kind)

def Handler.notify (run : σ → Action σ Unit) (handler : Handler σ) (message : Message) :
    Action σ Unit :=
  match handler with
  | clear listener realms => listener.notify realms message
  | script s => s.notify run message

namespace Site

/-- Delivers a message on a bus, and counts the listeners. -/
def send (run : σ → Action σ Unit) (bus : Nat) (message : Message) : Action σ Nat := do
  let targets := ((← get).buses.get bus).listening message.topic
  targets.forM fun target => target.handler.notify run message
  return targets.length

end Site

end Gatehouse
