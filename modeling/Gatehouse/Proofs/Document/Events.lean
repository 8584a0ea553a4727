import Gatehouse.Document.Event
import Gatehouse.Proofs.Config.RoundTrip
import Gatehouse.Proofs.Document.Uuid

/-!
# Events are read as they are written

Identities, items, payloads and events come back from the values that are made of them
(`ofValue?_toValue`), and reading them goes by what is said of their members (`goesBy`). What is
read tells what was said: the identifiers of an identity one by one (`Identity.ofValue?_eq_some_iff`),
whether an item has a verdict (`Item.granted?_eq_none_iff`) and an authorization an operator
(`Payload.operator?_eq_none_iff`), and the kind of a payload (`Payload.exists_said?`).
-/

namespace Gatehouse

open Document

variable {d : Dialect} {v : Value}

theorem Topic.ofValue?_toValue (topic : Topic) : Topic.ofValue? d topic.toValue = some topic :=
  topic.ofName?_name

/-! ## Identities -/

namespace Identifier

def members : List Member := [{ name := "source" }, { name := "identifier" }]

theorem ofValue?_toValue (entry : Identifier) : ofValue? d entry.toValue = some entry := by
  simp [ofValue?, toValue, Value.members?, Members.required, Members.get?, Value.text?]

theorem goesBy : Value.GoesBy d members (ofValue? d) :=
  Value.goesBy_of (fun _ => rfl) fun m n same => by
    simp only [Members.required_eq, same 0 _ rfl, same 1 _ rfl]

end Identifier

namespace Identity

def members : List Member := [{ name := "entries" }]

theorem ofValue?_toValue (identity : Identity) : ofValue? d identity.toValue = some identity := by
  have each (entry : Identifier) : Identifier.ofValue? d entry.toValue = some entry :=
    entry.ofValue?_toValue
  have entries := Value.listOf?_list each identity.entries
  simp [ofValue?, toValue, Value.members?, Members.required, Members.get?, entries]

theorem goesBy : Value.GoesBy d members (ofValue? d) :=
  Value.goesBy_of (fun _ => rfl) fun m n same => by
    simp only [Members.required_eq, same 0 _ rfl]

/-- Each identifier is read from its own element, also where two are the same. -/
theorem ofValue?_eq_some_iff {identity : Identity} : ofValue? d v = some identity ↔
    ∃ elements, v.said? d members = some [some (.list elements)] ∧
      List.Forall₂ (fun element entry => Identifier.ofValue? d element = some entry) elements
        identity.entries := by
  simp only [ofValue?, Members.required_eq, Option.bind_eq_bind, Option.bind_eq_some_iff,
    Value.said?, Option.map_eq_some_iff, Value.listOf?_eq_some_iff]
  constructor
  · rintro ⟨m, own, entries, ⟨_, said, elements, rfl, each⟩, same⟩
    obtain rfl := Option.some.inj same
    exact ⟨elements, ⟨m, own, congrArg ([·]) said⟩, each⟩
  · rintro ⟨elements, ⟨m, own, said⟩, each⟩
    exact ⟨m, own, identity.entries, ⟨_, (List.cons.inj said).1, elements, rfl, each⟩, rfl⟩

end Identity

/-! ## Identifiers of events and sessions -/

theorem Uuid.ofValue?_toValue (u : Uuid) : ofValue? u.toValue = some u := u.parse?_text

theorem EventId.ofValue?_toValue (id : EventId) : ofValue? id.toValue = some id := by
  simp [ofValue?, toValue, id.uuid.ofValue?_toValue]

theorem SessionId.ofValue?_toValue (id : SessionId) : ofValue? id.toValue = some id := by
  simp [ofValue?, toValue, id.uuid.ofValue?_toValue]

/-! ## Items -/

namespace Item

def members : List Member := [{ name := "item" }, { name := "granted", unnamed? := some .null }]

theorem ofValue?_toValue (item : Item) : ofValue? d item.toValue = some item := by
  obtain ⟨name, granted?⟩ := item
  cases granted? <;>
    simp [ofValue?, toValue, Value.members?, Members.required, Members.optional, Members.get?,
      Value.text?, Value.nullable, Value.bool?]

theorem goesBy : Value.GoesBy d members (ofValue? d) := by
  have absent : Value.nullable Value.bool? .null = some none := rfl
  refine Value.goesBy_of (fun _ => rfl) fun m n same => ?_
  simp only [Members.required_eq, Members.optional_eq absent, same 0 _ rfl, same 1 _ rfl]

theorem ofValue?_eq_some_iff {item : Item} : ofValue? d v = some item ↔
    v.said? d members =
      some [some (.text item.name), some ((item.granted?.map Value.bool).getD .null)] := by
  have absent : Value.nullable Value.bool? .null = some none := rfl
  simp only [ofValue?, Members.required_eq, Members.optional_eq absent, Option.bind_eq_bind,
    Option.bind_eq_some_iff, Value.said?, Option.map_eq_some_iff, Value.text?_eq_some_iff,
    Value.nullable_bool?_eq_some_iff]
  constructor
  · rintro ⟨m, own, name, ⟨_, first, rfl⟩, granted?, ⟨_, second, rfl⟩, same⟩
    obtain rfl := Option.some.inj same
    refine ⟨m, own, ?_⟩
    change [m.said? 0 _, m.said? 1 _] = _
    rw [first, second]
  · rintro ⟨m, own, said⟩
    obtain ⟨first, others⟩ := List.cons.inj said
    obtain ⟨second, -⟩ := List.cons.inj others
    exact ⟨m, own, item.name, ⟨_, first, rfl⟩, item.granted?, ⟨_, second, rfl⟩, rfl⟩

/-- An item has no verdict if and only if none is said, or `null`. -/
theorem granted?_eq_none_iff {item : Item} (read : ofValue? d v = some item) :
    item.granted? = none ↔ ∃ name, v.said? d members = some [name, some .null] := by
  rw [ofValue?_eq_some_iff.1 read]
  cases item.granted? <;> simp

end Item

/-! ## Payloads -/

namespace AuthorizationNotice

def members : List Member :=
  [{ name := "identifiers" }, { name := "items" },
    { name := "logical_operator", unnamed? := some .null, unlisted? := none }]

theorem ofMembers?_fields (notice : AuthorizationNotice) :
    ofMembers? d (.named notice.fields) = some notice := by
  have each (item : Item) : Item.ofValue? d item.toValue = some item := item.ofValue?_toValue
  have items := Value.listOf?_list each notice.items
  obtain ⟨identity, _, operator?⟩ := notice
  cases operator? with
  | none =>
    simp [ofMembers?, fields, Members.required, Members.omissible, Members.optional, Members.get?,
      identity.ofValue?_toValue, items, Value.nullable]
  | some operator =>
    have read : Value.nullable (Operator.ofValue? d) operator.toValue = some (some operator) :=
      congrArg (Option.map some) (Operator.ofValue?_toValue d operator)
    simp [ofMembers?, fields, Members.required, Members.omissible, Members.optional, Members.get?,
      identity.ofValue?_toValue, items, read]

/-- What is read depends on what is said. -/
theorem ofMembers?_congr {m n : Members} (same : ∀ place member, members[place]? = some member →
    m.said? place member = n.said? place member) : ofMembers? d m = ofMembers? d n := by
  have absent : Value.nullable (Operator.ofValue? d) .null = some none := rfl
  simp only [ofMembers?, Members.required_eq, Members.omissible_eq absent, same 0 _ rfl,
    same 1 _ rfl, same 2 _ rfl]

/-- There is no operator if and only if none is said, or `null`. -/
theorem operator?_eq_none_iff {m : Members} {notice : AuthorizationNotice}
    (read : ofMembers? d m = some notice) :
    notice.operator? = none ↔
      m.said? 2 { name := "logical_operator", unnamed? := some .null, unlisted? := none } =
        some .null := by
  have absent : Value.nullable (Operator.ofValue? d) .null = some none := rfl
  simp only [ofMembers?, Members.required_eq, Members.omissible_eq absent, Option.bind_eq_bind,
    Option.bind_eq_some_iff] at read
  obtain ⟨_, -, _, -, operator?, ⟨said, there, read⟩, same⟩ := read
  obtain rfl := Option.some.inj same
  rw [there, Option.some.injEq]
  constructor
  · rintro rfl
    cases said <;> simp [Value.nullable] at read ⊢
  · rintro rfl
    exact (Option.some.inj read).symm

end AuthorizationNotice

namespace SessionNotice

def members : List Member := [{ name := "session_id" }, { name := "identifier" }]

theorem ofMembers?_fields (notice : SessionNotice) :
    ofMembers? d (.named notice.fields) = some notice := by
  simp [ofMembers?, fields, Members.required, Members.get?, notice.session.ofValue?_toValue,
    notice.identity.ofValue?_toValue]

theorem ofMembers?_congr {m n : Members} (same : ∀ place member, members[place]? = some member →
    m.said? place member = n.said? place member) : ofMembers? d m = ofMembers? d n := by
  simp only [ofMembers?, Members.required_eq, same 0 _ rfl, same 1 _ rfl]

end SessionNotice

namespace Payload

/-- The members of a payload of a kind, beside the kind. -/
def members (kind : String) : List Member :=
  if kind = "authorization" then AuthorizationNotice.members
  else if kind = "session" then SessionNotice.members
  else [{ name := "identifier" }]

/-- The kind that is said, and what else is said. -/
def opened? : Value → Option (Value × Value)
  | .record fields =>
    ((Members.named fields).get? 0 "kind").map (·, .record (fields.filter (·.1 ≠ "kind")))
  | .list (kind :: rest) => some (kind, .list rest)
  | _ => none

theorem ofValue?_eq_opened? (v : Value) :
    ofValue? v = opened? v >>= fun opened => ofKind? opened.1 opened.2 := by
  cases v with
  | record fields =>
    rw [ofValue?, opened?]
    cases (Members.named fields).get? 0 "kind" <;> rfl
  | list elements => cases elements <;> rfl
  | _ => rfl

theorem opened?_toValue (p : Payload) :
    opened? p.toValue = some (.text p.kind, .record p.fields) := by
  cases p <;> rfl

theorem ofValue?_toValue (p : Payload) : ofValue? p.toValue = some p := by
  rw [ofValue?_eq_opened?, opened?_toValue]
  cases p with
  | authorization notice => exact congrArg (Option.map authorization) notice.ofMembers?_fields
  | session notice => exact congrArg (Option.map session) notice.ofMembers?_fields
  | authentication identity =>
    simp [ofKind?, readers, kind, fields, Value.text?, Value.members?, Members.required,
      Members.get?, identity.ofValue?_toValue]

/-- The payload is what these members say, as they are read under its kind. -/
def ReadFrom (m : Members) : Payload → Prop
  | authorization notice => AuthorizationNotice.ofMembers? .jsonTagged m = some notice
  | session notice => SessionNotice.ofMembers? .jsonTagged m = some notice
  | authentication identity =>
    m.required (Identity.ofValue? .jsonTagged) 0 "identifier" = some identity

/-- A payload is read under its own kind. -/
theorem exists_of_ofKind? {kind : Value} {p : Payload} (h : ofKind? kind v = some p) :
    kind = .text p.kind ∧
      ∃ m, v.members? .jsonTagged (members p.kind).length = some m ∧ p.ReadFrom m := by
  obtain ⟨name, said, h⟩ := Option.bind_eq_some_iff.1 h
  obtain ⟨reader, found, h⟩ := Option.bind_eq_some_iff.1 h
  obtain ⟨m, own, read⟩ := Option.bind_eq_some_iff.1 h
  obtain rfl := Value.text?_eq_some_iff.1 said
  obtain rfl : reader.1 = name := by simpa using List.find?_some found
  have known := List.mem_of_find?_eq_some found
  clear said found h
  simp only [readers, List.mem_cons, List.not_mem_nil, or_false] at known
  rcases known with rfl | rfl | rfl
  · obtain ⟨notice, told, rfl⟩ := Option.map_eq_some_iff.1 read
    exact ⟨rfl, m, own, told⟩
  · obtain ⟨notice, told, rfl⟩ := Option.map_eq_some_iff.1 read
    exact ⟨rfl, m, own, told⟩
  · obtain ⟨identity, told, rfl⟩ := Option.map_eq_some_iff.1 read
    exact ⟨rfl, m, own, told⟩

/-- What is said of the members decides what is read under a kind. -/
theorem goesBy_ofKind? (kind : String) :
    Value.GoesBy .jsonTagged (members kind) (ofKind? (.text kind)) := by
  by_cases authorization : kind = "authorization"
  · subst authorization
    exact Value.goesBy_of (fun _ => rfl) fun m n same =>
      congrArg (Option.map _) (AuthorizationNotice.ofMembers?_congr same)
  by_cases session : kind = "session"
  · subst session
    exact Value.goesBy_of (fun _ => rfl) fun m n same =>
      congrArg (Option.map _) (SessionNotice.ofMembers?_congr same)
  by_cases authentication : kind = "authentication"
  · subst authentication
    refine Value.goesBy_of (fun _ => rfl) fun m n same => ?_
    simp only [Members.required_eq, same 0 _ rfl]
  · have refused (v : Value) : ofKind? (.text kind) v = none := by
      by_contra read
      obtain ⟨p, read⟩ := Option.ne_none_iff_exists'.1 read
      obtain ⟨same, -⟩ := exists_of_ofKind? read
      cases p <;> simp_all [Payload.kind]
    exact fun v w _ => (refused v).trans (refused w).symm

theorem exists_of_ofValue? {p : Payload} (h : ofValue? v = some p) :
    ∃ rest m, opened? v = some (.text p.kind, rest) ∧
      rest.members? .jsonTagged (members p.kind).length = some m ∧ p.ReadFrom m := by
  rw [ofValue?_eq_opened?] at h
  obtain ⟨⟨kind, rest⟩, opened, h⟩ := Option.bind_eq_some_iff.1 h
  obtain ⟨rfl, m, own, read⟩ := exists_of_ofKind? h
  exact ⟨rest, m, opened, own, read⟩

/-- What a payload says: its kind, and what it says of the members of its kind. -/
def said? (v : Value) : Option (List (Option Value)) := do
  let (kind, rest) ← opened? v
  let name ← kind.text?
  let others ← rest.said? .jsonTagged (members name)
  return some kind :: others

theorem said?_eq_some_iff {said : List (Option Value)} : said? v = some said ↔
    ∃ kind rest others, opened? v = some (.text kind, rest) ∧
      rest.said? .jsonTagged (members kind) = some others ∧ said = some (.text kind) :: others := by
  simp only [said?, Option.bind_eq_bind, Option.bind_eq_some_iff, Value.text?_eq_some_iff,
    Prod.exists, Option.pure_def, Option.some.injEq]
  grind

/-- The kind that is said is the kind of what is read. -/
theorem exists_said? {p : Payload} (h : ofValue? v = some p) :
    ∃ m, said? v = some (some (.text p.kind) :: m.said (members p.kind)) ∧ p.ReadFrom m := by
  obtain ⟨rest, m, opened, own, read⟩ := exists_of_ofValue? h
  refine ⟨m, said?_eq_some_iff.2 ⟨p.kind, rest, m.said (members p.kind), opened, ?_, rfl⟩, read⟩
  rw [Value.said?, own, Option.map_some]

/-- An authorization has no operator if and only if none is said, or `null`. -/
theorem operator?_eq_none_iff {notice : AuthorizationNotice}
    (h : ofValue? v = some (authorization notice)) : notice.operator? = none ↔
      ∃ kind identity items, said? v = some [kind, identity, items, some .null] := by
  obtain ⟨m, told, read⟩ := exists_said? h
  have three : m.said (members "authorization") =
      [m.said? 0 { name := "identifiers" }, m.said? 1 { name := "items" },
        m.said? 2 { name := "logical_operator", unnamed? := some .null, unlisted? := none }] := rfl
  change said? v = some (_ :: m.said (members "authorization")) at told
  rw [AuthorizationNotice.operator?_eq_none_iff read, told, three]
  simp

/-- It does not matter how a payload says what it says. -/
theorem ofValue?_congr {w : Value} (same : said? v = said? w) : ofValue? v = ofValue? w := by
  cases h : said? w with
  | none =>
    have refused {u : Value} (silent : said? u = none) : ofValue? u = none := by
      by_contra read
      obtain ⟨p, read⟩ := Option.ne_none_iff_exists'.1 read
      obtain ⟨m, told, -⟩ := exists_said? read
      rw [silent] at told
      contradiction
    rw [refused h, refused (same.trans h)]
  | some said =>
    obtain ⟨kind, rest, others, opened, told, rfl⟩ := said?_eq_some_iff.1 h
    obtain ⟨other, rest', others', opened', told', same⟩ := said?_eq_some_iff.1 (same.trans h)
    obtain ⟨rfl, rfl⟩ : kind = other ∧ others = others' := by simpa using same
    rw [ofValue?_eq_opened?, ofValue?_eq_opened?, opened, opened']
    exact goesBy_ofKind? kind rest' rest (told'.trans told.symm)

end Payload

/-! ## Events -/

namespace Event

def members : List Member := [{ name := "id" }, { name := "topic" }, { name := "payload" }]

theorem ofValue?_toValue (e : Event) : ofValue? d e.toValue = some e := by
  simp [ofValue?, toValue, Value.members?, Members.required, Members.get?,
    e.id.ofValue?_toValue, e.topic.ofValue?_toValue, e.payload.ofValue?_toValue]

theorem goesBy : Value.GoesBy d members (ofValue? d) :=
  Value.goesBy_of (fun _ => rfl) fun m n same => by
    simp only [Members.required_eq, same 0 _ rfl, same 1 _ rfl, same 2 _ rfl]

end Event

end Gatehouse
