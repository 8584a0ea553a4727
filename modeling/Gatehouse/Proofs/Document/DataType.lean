import Gatehouse.Document.Config
import Gatehouse.Proofs.Document.Events
import Gatehouse.Proofs.Permission.Canonical

/-!
# Values come back from their documents

All that has a document form (`DataType`) comes back from the JSON value that is made of it. There
are other JSON values that say the same; whichever of them is read, the one that is made of what was
read is read as the same again (`DataType.reads_what_it_writes`).
-/

namespace Gatehouse

open Document

/-! ## Configurations -/

section Config

variable {d : Dialect}

namespace Account

def members : List Member :=
  [{ name := "roles", unnamed? := some (.list []) },
    { name := "permissions", unnamed? := some (.list []) }]

theorem goesBy : Value.GoesBy d members (ofValue? d) := by
  have absent : (Value.list []).listOf? Value.text? = some [] := rfl
  refine Value.goesBy_of (fun _ => rfl) fun m n same => ?_
  simp only [Members.optional_eq absent, same 0 _ rfl, same 1 _ rfl]

end Account

namespace Config

def Authz.members : List Member :=
  [{ name := "default_operator", unnamed? := some Operator.all.toValue },
    { name := "log_results", unnamed? := some (.bool true) }]

theorem Authz.goesBy : Value.GoesBy d members (ofValue? d) := by
  have operator := Operator.ofValue?_toValue d .all
  have results : (Value.bool true).bool? = some true := rfl
  refine Value.goesBy_of (fun _ => rfl) fun m n same => ?_
  simp only [Members.optional_eq operator, Members.optional_eq results, same 0 _ rfl,
    same 1 _ rfl]

def Logging.members : List Member :=
  [{ name := "level", unnamed? := some (.text "warn") },
    { name := "ansi", unnamed? := some (.bool true) }]

theorem Logging.goesBy : Value.GoesBy d members (ofValue? d) := by
  have level : (Value.text "warn").text? = some "warn" := rfl
  have ansi : (Value.bool true).bool? = some true := rfl
  refine Value.goesBy_of (fun _ => rfl) fun m n same => ?_
  simp only [Members.optional_eq level, Members.optional_eq ansi, same 0 _ rfl, same 1 _ rfl]

def Realm.members : List Member :=
  [{ name := "name" }, { name := "accounts", unnamed? := some (.record []) }]

theorem Realm.goesBy : Value.GoesBy d members (ofValue? d) := by
  have accounts : (Value.record []).recordOf? (Account.ofValue? d) = some [] := rfl
  refine Value.goesBy_of (fun _ => rfl) fun m n same => ?_
  simp only [Members.required_eq, Members.optional_eq accounts, same 0 _ rfl, same 1 _ rfl]

def members : List Member :=
  [{ name := "authz", unnamed? := some (Authz.toValue {}) },
    { name := "logging", unnamed? := some (Logging.toValue {}) },
    { name := "realms", unnamed? := some (.list []) }]

theorem goesBy : Value.GoesBy d members (ofValue? d) := by
  have authz := Authz.ofValue?_toValue d {}
  have logging := Logging.ofValue?_toValue d {}
  have realms : (Value.list []).listOf? (Realm.ofValue? d) = some [] := rfl
  refine Value.goesBy_of (fun _ => rfl) fun m n same => ?_
  simp only [Members.optional_eq authz, Members.optional_eq logging, Members.optional_eq realms,
    same 0 _ rfl, same 1 _ rfl, same 2 _ rfl]

end Config

end Config

/-! ## All types -/

/-- The types that have a document form. -/
inductive DataType where
  | permission | operator | topic | identifier | identity | eventId | sessionId
  | item | payload | event
  | account | authz | logging | realm | config

namespace DataType

abbrev Carrier : DataType → Type
  | permission => Permission
  | operator => Operator
  | topic => Topic
  | identifier => Identifier
  | identity => Identity
  | eventId => EventId
  | sessionId => SessionId
  | item => Item
  | payload => Payload
  | event => Event
  | account => Account
  | authz => Config.Authz
  | logging => Config.Logging
  | realm => Config.Realm
  | config => Config

/-- The value occurs in a run: permissions come from texts only. -/
def Occurs : (type : DataType) → type.Carrier → Prop
  | permission, p => Permission.Readable p
  | _, _ => True

def toJson : (type : DataType) → type.Carrier → Value
  | permission => Permission.toValue
  | operator => Operator.toValue
  | topic => Topic.toValue
  | identifier => Identifier.toValue
  | identity => Identity.toValue
  | eventId => EventId.toValue
  | sessionId => SessionId.toValue
  | item => Item.toValue
  | payload => Payload.toValue
  | event => Event.toValue
  | account => Account.toValue
  | authz => Config.Authz.toValue
  | logging => Config.Logging.toValue
  | realm => Config.Realm.toValue
  | config => Config.toValue

def ofJson? : (type : DataType) → Value → Option type.Carrier
  | permission => Permission.ofValue?
  | operator => Operator.ofValue? .json
  | topic => Topic.ofValue? .json
  | identifier => Identifier.ofValue? .json
  | identity => Identity.ofValue? .json
  | eventId => EventId.ofValue?
  | sessionId => SessionId.ofValue?
  | item => Item.ofValue? .json
  | payload => Payload.ofValue?
  | event => Event.ofValue? .json
  | account => Account.ofValue? .json
  | authz => Config.Authz.ofValue? .json
  | logging => Config.Logging.ofValue? .json
  | realm => Config.Realm.ofValue? .json
  | config => Config.ofValue? .json

/-- What a JSON value says as one of the type: a record speaks of its members, anything else for
itself. -/
def said? : DataType → Value → Option (List (Option Value))
  | identifier => Value.said? .json Identifier.members
  | identity => Value.said? .json Identity.members
  | item => Value.said? .json Item.members
  | payload => Payload.said?
  | event => Value.said? .json Event.members
  | account => Value.said? .json Account.members
  | authz => Value.said? .json Config.Authz.members
  | logging => Value.said? .json Config.Logging.members
  | realm => Value.said? .json Config.Realm.members
  | config => Value.said? .json Config.members
  | permission | operator | topic | eventId | sessionId => fun j => some [some j]

variable {type : DataType} {i j : Value}

theorem ofJson?_toJson {v : type.Carrier} (occurs : type.Occurs v) :
    type.ofJson? (type.toJson v) = some v := by
  cases type with
  | permission =>
    have printed := Permission.parse_text (Permission.Readable.canonical occurs)
    exact Permission.ofValue?_eq_some_iff.2 ⟨_, rfl, printed⟩
  | operator => exact Operator.ofValue?_toValue _ v
  | topic => exact Topic.ofValue?_toValue v
  | identifier => exact Identifier.ofValue?_toValue v
  | identity => exact Identity.ofValue?_toValue v
  | eventId => exact EventId.ofValue?_toValue v
  | sessionId => exact SessionId.ofValue?_toValue v
  | item => exact Item.ofValue?_toValue v
  | payload => exact Payload.ofValue?_toValue v
  | event => exact Event.ofValue?_toValue v
  | account => exact Account.ofValue?_toValue _ v
  | authz => exact Config.Authz.ofValue?_toValue _ v
  | logging => exact Config.Logging.ofValue?_toValue _ v
  | realm => exact Config.Realm.ofValue?_toValue _ v
  | config => exact Config.ofValue?_of_members _ (by simp) (by simp) (by simp)

/-- What is read occurs. -/
theorem occurs_of_ofJson? {v : type.Carrier} (read : type.ofJson? j = some v) : type.Occurs v := by
  cases type with
  | permission =>
    obtain ⟨text, -, parsed⟩ := Permission.ofValue?_eq_some_iff.1 read
    exact ⟨text, parsed⟩
  | _ => trivial

theorem ofJson?_congr (same : type.said? i = type.said? j) : type.ofJson? i = type.ofJson? j := by
  cases type with
  | identifier => exact Identifier.goesBy i j same
  | identity => exact Identity.goesBy i j same
  | item => exact Item.goesBy i j same
  | payload => exact Payload.ofValue?_congr same
  | event => exact Event.goesBy i j same
  | account => exact Account.goesBy i j same
  | authz => exact Config.Authz.goesBy i j same
  | logging => exact Config.Logging.goesBy i j same
  | realm => exact Config.Realm.goesBy i j same
  | config => exact Config.goesBy i j same
  | permission | operator | topic | eventId | sessionId =>
    obtain rfl : i = j := by simpa [said?] using same
    rfl

/-- Every value comes back from its JSON. Whatever JSON value is read, the one that is made of what
was read is read as the same, and made of it again. It does not matter in which way a JSON value says
what it says, nor in which form an identifier is spelled. An item has a verdict and an authorization
has an operator if one is said, an identity has all the identifiers that are said, and a payload is
of the kind that is said. -/
theorem reads_what_it_writes :
    (∀ (type : DataType) (v : type.Carrier), type.Occurs v →
      type.ofJson? (type.toJson v) = some v) ∧
    (∀ (type : DataType) (j : Value) (v : type.Carrier), type.ofJson? j = some v →
      type.Occurs v ∧ type.ofJson? (type.toJson v) = some v ∧
        (type.ofJson? (type.toJson v)).map type.toJson = some (type.toJson v)) ∧
    (∀ (type : DataType) (i j : Value), type.said? i = type.said? j →
      type.ofJson? i = type.ofJson? j) ∧
    (∀ (text : String) (u : Uuid), Uuid.ofValue? (.text text) = some u ↔ u.Spelled text.toList) ∧
    (∀ (j : Value) (v : Item), item.ofJson? j = some v →
      (v.granted? = none ↔ ∃ name, item.said? j = some [name, some .null]) ∧
      (v.granted? = none → item.toJson v = .record [("item", .text v.name)])) ∧
    (∀ (j : Value) (v : AuthorizationNotice), payload.ofJson? j = some (.authorization v) →
      (v.operator? = none ↔
        ∃ kind identity items, payload.said? j = some [kind, identity, items, some .null])) ∧
    (∀ (j : Value) (v : Identity), identity.ofJson? j = some v →
      ∃ elements, identity.said? j = some [some (.list elements)] ∧
        List.Forall₂ (fun element entry => identifier.ofJson? element = some entry) elements
          v.entries) ∧
    ∀ (j : Value) (v : Payload), payload.ofJson? j = some v →
      ∃ others, payload.said? j = some (some (.text v.kind) :: others) := by
  refine ⟨fun type v => ofJson?_toJson, fun type j v read => ?_, fun type i j => ofJson?_congr,
    fun text u => Uuid.parse?_eq_some_iff,
    fun j v read => ⟨Item.granted?_eq_none_iff read, fun absent => ?_⟩,
    fun j v => Payload.operator?_eq_none_iff, fun j v => Identity.ofValue?_eq_some_iff.1,
    fun j v read => ?_⟩
  · have occurs := occurs_of_ofJson? read
    have back := ofJson?_toJson occurs
    exact ⟨occurs, back, by rw [back, Option.map_some]⟩
  · obtain ⟨name, granted?⟩ := v
    obtain rfl : granted? = none := absent
    rfl
  · obtain ⟨m, said, -⟩ := Payload.exists_said? read
    exact ⟨_, said⟩

/-- A payload that is listed, and the same with its members named and its operator left out. -/
theorem reads_what_it_writes_of_notice :
    let alice : Value := .list [.text "accounts", .text "alice"]
    let who : Value := .list [.list [alice, alice]]
    let what : Value := .record [("granted", .null), ("note", .bool true), ("item", .text "x")]
    let i : Value := .list [.text "authorization", who, .list [what], .null]
    let j : Value := .record [("items", .list [what]), ("kind", .text "authorization"),
      ("identifiers", who)]
    let notice : AuthorizationNotice :=
      { identity := ⟨[⟨"accounts", "alice"⟩, ⟨"accounts", "alice"⟩]⟩, items := [{ name := "x" }] }
    payload.ofJson? i = some (.authorization notice) ∧ payload.said? i = payload.said? j ∧
      payload.ofJson? j = some (.authorization notice) ∧
      payload.ofJson? (payload.toJson (.authorization notice)) = some (.authorization notice) ∧
      permission.ofJson? (permission.toJson Permission.wildcard) = some Permission.wildcard ∧
      (∃ name, item.said? what = some [name, some .null]) ∧
      (∃ kind identity items, payload.said? j = some [kind, identity, items, some .null]) ∧
      (∃ elements, identity.said? who = some [some (.list elements)] ∧ elements.length = 2) ∧
      ∃ others, payload.said? j = some (some (.text "authorization") :: others) := by
  intro alice who what i j notice
  obtain ⟨back, again, alike, -, verdict, operator, identifiers, kind⟩ := reads_what_it_writes
  have read : payload.ofJson? i = some (.authorization notice) := by decide +kernel
  have same : payload.said? i = payload.said? j := rfl
  have read' : payload.ofJson? j = some (.authorization notice) := by
    rw [← alike payload i j same, read]
  have item : item.ofJson? what = some { name := "x" } := by decide +kernel
  have identity : identity.ofJson? who = some notice.identity := by decide +kernel
  obtain ⟨elements, said, each⟩ := identifiers who notice.identity identity
  refine ⟨read, same, read', (again payload i _ read).2.1, ?_, ?_, ?_, ?_, kind j _ read'⟩
  · exact back permission Permission.wildcard Permission.readable_wildcard
  · exact (verdict what _ item).1.1 rfl
  · exact (operator j notice read').1 rfl
  · exact ⟨elements, said, each.length_eq⟩

end DataType

end Gatehouse
