import Gatehouse.Event.Topic
import Gatehouse.Identity
import Gatehouse.Operator
import Gatehouse.Uuid

/-!
# Events

An event tells of an authorization, of the end of a session, or of an authentication.
-/

namespace Gatehouse

/-- An item of a request, with the verdict on it where the event tells one. -/
structure Item where
  name : String
  granted? : Option Bool := none
  deriving DecidableEq, Repr

/-- Who asked for what, and how the verdicts were combined. -/
structure AuthorizationNotice where
  identity : Identity
  items : List Item
  operator? : Option Operator := none
  deriving DecidableEq, Repr

/-- Whose session is meant. -/
structure SessionNotice where
  session : SessionId
  identity : Identity
  deriving DecidableEq

inductive Payload where
  | authorization (notice : AuthorizationNotice)
  | session (notice : SessionNotice)
  | authentication (identity : Identity)
  deriving DecidableEq

namespace Payload

def kind : Payload → String
  | authorization _ => "authorization"
  | session _ => "session"
  | authentication _ => "authentication"

/-- The identity whose session or authentication is told. -/
def subject? : Payload → Option Identity
  | authorization _ => none
  | session notice => some notice.identity
  | authentication identity => some identity

def authorization? : Payload → Option AuthorizationNotice
  | authorization notice => some notice
  | _ => none

def session? : Payload → Option SessionNotice
  | session notice => some notice
  | _ => none

def authentication? : Payload → Option Identity
  | authentication identity => some identity
  | _ => none

end Payload

/-- What is published and delivered. -/
structure Message where
  topic : Topic
  payload : Payload
  deriving DecidableEq

/-- A message with its identifier. -/
structure Event extends Message where
  id : EventId
  deriving DecidableEq

end Gatehouse
