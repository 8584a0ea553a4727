import Gatehouse.Fault

/-!
# Topics

What an event is about. The end of a session and a new authentication make cached clearances stale.
-/

namespace Gatehouse

inductive Topic where
  | authorizationGranted
  | authorizationDenied
  | authorizationResults
  | sessionStop
  | sessionExpire
  | authenticationSucceeded
  deriving DecidableEq, Repr

inductive EventError where
  | unknownTopic (text : String)
  | payloadMismatch (topic expected : String)
  deriving DecidableEq, Repr

namespace EventError

def code : EventError → String
  | unknownTopic _ => "EVENT_UNKNOWN_TOPIC"
  | payloadMismatch .. => "EVENT_PAYLOAD_MISMATCH"

def message : EventError → String
  | unknownTopic text => "unknown event topic: " ++ text
  | payloadMismatch topic expected =>
    "topic " ++ topic ++ " delivered an unexpected payload: expected " ++ expected

instance : Fault EventError := ⟨code, message, fun _ => false⟩

end EventError

namespace Topic

def all : List Topic :=
  [authorizationGranted, authorizationDenied, authorizationResults, sessionStop, sessionExpire,
    authenticationSucceeded]

def name : Topic → String
  | authorizationGranted => "AUTHORIZATION.GRANTED"
  | authorizationDenied => "AUTHORIZATION.DENIED"
  | authorizationResults => "AUTHORIZATION.RESULTS"
  | sessionStop => "SESSION.STOP"
  | sessionExpire => "SESSION.EXPIRE"
  | authenticationSucceeded => "AUTHENTICATION.SUCCEEDED"

/-- The topic of a name written exactly. -/
def ofName? (s : String) : Option Topic := all.find? (·.name = s)

def parse (s : String) : Except EventError Topic :=
  match ofName? s with
  | some topic => .ok topic
  | none => .error (.unknownTopic s)

/-- Whether an event of this topic makes the cached clearance of its identity stale. -/
def clearsCache : Topic → Bool
  | sessionStop | sessionExpire | authenticationSucceeded => true
  | authorizationGranted | authorizationDenied | authorizationResults => false

theorem ofName?_name (topic : Topic) : ofName? topic.name = some topic := by
  cases topic <;> decide

end Topic

end Gatehouse
