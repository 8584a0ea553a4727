import Gatehouse.Document.Reading
import Gatehouse.Event
import Gatehouse.Permission

/-!
# Events as documents

The document form of permissions, identities and events. Each type is written in one way and read in
several: with its members listed, with unknown members, with members left out that may be.
-/

namespace Gatehouse

open Document

namespace Operator

def toValue (op : Operator) : Value := .text op.name

def ofValue? (d : Dialect) : Value → Option Operator := Value.alternative? d ofName?

end Operator

namespace Topic

def toValue (topic : Topic) : Value := .text topic.name

def ofValue? (d : Dialect) : Value → Option Topic := Value.alternative? d ofName?

end Topic

namespace Permission

def toValue (p : Permission) : Value := .text p.text

def ofValue? (v : Value) : Option Permission := v.text? >>= fun s => (parse s).toOption

end Permission

namespace Identifier

def toValue (entry : Identifier) : Value :=
  .record [("source", .text entry.source), ("identifier", .text entry.name)]

def ofValue? (d : Dialect) (v : Value) : Option Identifier := do
  let m ← v.members? d 2
  let source ← m.required Value.text? 0 "source"
  let name ← m.required Value.text? 1 "identifier"
  return { source, name }

end Identifier

namespace Identity

def toValue (identity : Identity) : Value :=
  .record [("entries", .list (identity.entries.map Identifier.toValue))]

/-- Reading keeps an identifier that is repeated. -/
def ofValue? (d : Dialect) (v : Value) : Option Identity := do
  let m ← v.members? d 1
  let entries ← m.required (Value.listOf? (Identifier.ofValue? d)) 0 "entries"
  return { entries }

end Identity

namespace Uuid

def toValue (u : Uuid) : Value := .text u.text

def ofValue? (v : Value) : Option Uuid := v.text? >>= parse?

end Uuid

namespace EventId

def toValue (id : EventId) : Value := id.uuid.toValue

def ofValue? (v : Value) : Option EventId := (Uuid.ofValue? v).map EventId.mk

end EventId

namespace SessionId

def toValue (id : SessionId) : Value := id.uuid.toValue

def ofValue? (v : Value) : Option SessionId := (Uuid.ofValue? v).map SessionId.mk

end SessionId

namespace Item

/-- The verdict is left out where there is none. -/
def toValue (item : Item) : Value :=
  .record <| ("item", .text item.name) ::
    match item.granted? with
    | some granted => [("granted", .bool granted)]
    | none => []

def ofValue? (d : Dialect) (v : Value) : Option Item := do
  let m ← v.members? d 2
  let name ← m.required Value.text? 0 "item"
  let granted? ← m.optional none (Value.nullable Value.bool?) 1 "granted"
  return { name, granted? }

end Item

namespace AuthorizationNotice

def fields (notice : AuthorizationNotice) : Fields :=
  [("identifiers", notice.identity.toValue),
    ("items", .list (notice.items.map Item.toValue)),
    ("logical_operator", (notice.operator?.map Operator.toValue).getD .null)]

def toValue (notice : AuthorizationNotice) : Value := .record notice.fields

def ofMembers? (d : Dialect) (m : Members) : Option AuthorizationNotice := do
  let identity ← m.required (Identity.ofValue? d) 0 "identifiers"
  let items ← m.required (Value.listOf? (Item.ofValue? d)) 1 "items"
  let operator? ← m.omissible none (Value.nullable (Operator.ofValue? d)) 2 "logical_operator"
  return { identity, items, operator? }

end AuthorizationNotice

namespace SessionNotice

def fields (notice : SessionNotice) : Fields :=
  [("session_id", notice.session.toValue), ("identifier", notice.identity.toValue)]

def toValue (notice : SessionNotice) : Value := .record notice.fields

def ofMembers? (d : Dialect) (m : Members) : Option SessionNotice := do
  let session ← m.required SessionId.ofValue? 0 "session_id"
  let identity ← m.required (Identity.ofValue? d) 1 "identifier"
  return { session, identity }

end SessionNotice

namespace Payload

def fields : Payload → Fields
  | authorization notice => notice.fields
  | session notice => notice.fields
  | authentication identity => [("identifier", identity.toValue)]

/-- The kind of a payload is a member of its own. -/
def toValue (p : Payload) : Value := .record (("kind", .text p.kind) :: p.fields)

/-- How many members a payload of a kind has, and how they are read. -/
def readers : List (String × Nat × (Dialect → Members → Option Payload)) :=
  [("authorization", 3, fun d m => (AuthorizationNotice.ofMembers? d m).map authorization),
    ("session", 2, fun d m => (SessionNotice.ofMembers? d m).map session),
    ("authentication", 1, fun d m =>
      (m.required (Identity.ofValue? d) 0 "identifier").map authentication)]

/-- Reads the members of a payload of a known kind. -/
def ofKind? (kind : Value) (rest : Value) : Option Payload := do
  let name ← kind.text?
  let (_, size, read) ← readers.find? (·.1 = name)
  let m ← rest.members? .jsonTagged size
  read .jsonTagged m

/-- The kind is the member of that name, or the first element of a list. -/
def ofValue? : Value → Option Payload
  | .record fields => do
    let kind ← (Members.named fields).get? 0 "kind"
    ofKind? kind (.record (fields.filter (·.1 ≠ "kind")))
  | .list (kind :: rest) => ofKind? kind (.list rest)
  | _ => none

end Payload

namespace Event

def toValue (e : Event) : Value :=
  .record [("id", e.id.toValue), ("topic", e.topic.toValue), ("payload", e.payload.toValue)]

def ofValue? (d : Dialect) (v : Value) : Option Event := do
  let m ← v.members? d 3
  let id ← m.required EventId.ofValue? 0 "id"
  let topic ← m.required (Topic.ofValue? d) 1 "topic"
  let payload ← m.required Payload.ofValue? 2 "payload"
  return { id, topic, payload }

end Event

end Gatehouse
