import Mathlib.Data.List.Forall2
import Gatehouse.Document.Reading

/-!
# What a record says

A record says of each of its members what is written there, or else what stands for the member. It
does not matter to a reader in which way it is said (`Value.GoesBy`): in which order the members are
named and among which others, whether they are listed instead, and whether what stands for a member
is written.
-/

namespace Gatehouse

/-- A list is read if every element is. -/
theorem mapM_eq_some_iff {α β : Type} {read : α → Option β} {l : List α} {found : List β} :
    l.mapM read = some found ↔ List.Forall₂ (fun a b => read a = some b) l found := by
  induction l generalizing found with
  | nil => simp [eq_comm]
  | cons a l ih =>
    simp only [List.mapM_cons, Option.bind_eq_bind, Option.bind_eq_some_iff, Option.pure_def,
      Option.some.injEq, ih, List.forall₂_cons_left_iff]
    grind

namespace Document

/-- A member of a record, with what stands for it where it is not named and where a list ends before
it. -/
structure Member where
  name : String
  unnamed? : Option Value := none
  unlisted? : Option Value := unnamed?

namespace Members

variable {α : Type} {m : Members} {read : Value → Option α} {place : Nat} {name : String}

/-- What is said of a member. -/
def said? (m : Members) (place : Nat) (member : Member) : Option Value :=
  (m.get? place member.name).or
    (match m with
    | named _ => member.unnamed?
    | listed _ => member.unlisted?)

theorem required_eq : m.required read place name = m.said? place { name } >>= read := by
  cases m <;> simp [required, said?]

variable {default : α} {w : Value}

theorem optional_eq (stands : read w = some default) :
    m.optional default read place name = m.said? place { name, unnamed? := some w } >>= read := by
  cases found : m.get? place name <;> cases m <;> simp [optional, said?, found, stands]

theorem omissible_eq (stands : read w = some default) :
    m.omissible default read place name =
      m.said? place { name, unnamed? := some w, unlisted? := none } >>= read := by
  cases m with
  | named fields =>
    change (named fields).optional default read place name = _
    rw [optional_eq stands]
    rfl
  | listed elements =>
    change (listed elements).required read place name = _
    rw [required_eq]
    rfl

/-- What is said of the members, in their order. -/
def said (m : Members) (members : List Member) : List (Option Value) := members.mapIdx m.said?

end Members

namespace Value

variable {α : Type} {d : Dialect} {members : List Member}

/-- What a record of these members says of them. -/
def said? (d : Dialect) (members : List Member) (v : Value) : Option (List (Option Value)) :=
  (v.members? d members.length).map (·.said members)

/-- The reader goes by what is said of the members, however it is said. -/
def GoesBy (d : Dialect) (members : List Member) (read? : Value → Option α) : Prop :=
  ∀ v w : Value, v.said? d members = w.said? d members → read? v = read? w

theorem goesBy_of {read? : Value → Option α} {body : Members → Option α}
    (reads : ∀ v, read? v = v.members? d members.length >>= body)
    (alike : ∀ m n : Members, (∀ place member, members[place]? = some member →
      m.said? place member = n.said? place member) → body m = body n) :
    GoesBy d members read? := by
  intro v w same
  rw [reads, reads]
  unfold said? at same
  cases first : v.members? d members.length with
  | none =>
    rw [first, Option.map_none, eq_comm, Option.map_eq_none_iff] at same
    rw [same]
  | some m =>
    rw [first, Option.map_some, eq_comm, Option.map_eq_some_iff] at same
    obtain ⟨n, second, said⟩ := same
    rw [second]
    refine alike m n fun place member there => ?_
    have each := congrArg (·[place]?) said
    simpa [Members.said, List.getElem?_mapIdx, there] using each.symm

/-! ## Readers of single values -/

theorem text?_eq_some_iff {v : Value} {s : String} : v.text? = some s ↔ v = .text s := by
  cases v <;> simp [text?]

theorem nullable_bool?_eq_some_iff {v : Value} {flag? : Option Bool} :
    v.nullable bool? = some flag? ↔ v = (flag?.map Value.bool).getD .null := by
  cases v <;> cases flag? <;> simp [nullable, bool?]

theorem listOf?_eq_some_iff {read : Value → Option α} {v : Value} {found : List α} :
    v.listOf? read = some found ↔
      ∃ elements, v = .list elements ∧
        List.Forall₂ (fun element a => read element = some a) elements found := by
  cases v with
  | list elements => simp [listOf?, list?, mapM_eq_some_iff]
  | _ => simp [listOf?, list?]

end Value

end Document

end Gatehouse
