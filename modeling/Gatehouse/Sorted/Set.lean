import Gatehouse.Sorted.Insertion

/-!
# Sorted sets

A finite set over an ordered type, held as its strictly ascending list: equal sets are equal values,
and listing a set lists it in order.

`mem_insert`, `mem_ofList` and `ext` describe a set by its members alone.
-/

namespace Gatehouse

/-- A finite set, listed in strictly ascending order. -/
structure SortedSet (α : Type u) [Ord α] where
  toList : List α
  ascending : Sorted.Ascending id toList

namespace SortedSet

variable {α : Type u} [Ord α]

instance [DecidableEq α] : DecidableEq (SortedSet α) := fun s t =>
  decidable_of_iff (s.toList = t.toList) <| by cases s; cases t; simp

instance : Membership α (SortedSet α) := ⟨fun s a => a ∈ s.toList⟩

instance [DecidableEq α] (a : α) (s : SortedSet α) : Decidable (a ∈ s) :=
  inferInstanceAs (Decidable (a ∈ s.toList))

theorem mem_toList {a : α} {s : SortedSet α} : a ∈ s.toList ↔ a ∈ s := .rfl

/-- The set without members. -/
def empty : SortedSet α := ⟨[], .nil⟩

instance : Inhabited (SortedSet α) := ⟨empty⟩

def singleton (a : α) : SortedSet α := ⟨[a], List.pairwise_singleton ..⟩

def isEmpty (s : SortedSet α) : Bool := s.toList.isEmpty

/-- Every member of `t` is a member of `s`. -/
def includes [DecidableEq α] (s t : SortedSet α) : Bool := t.toList.all (· ∈ s)

@[simp] theorem not_mem_empty {a : α} : ¬ a ∈ (empty : SortedSet α) := List.not_mem_nil

section Insertion

variable [Std.TransOrd α]

def insert (s : SortedSet α) (a : α) : SortedSet α :=
  ⟨Sorted.insertBy id a s.toList, s.ascending.insertBy a⟩

def insertAll (s : SortedSet α) (l : List α) : SortedSet α := l.foldl insert s

def ofList (l : List α) : SortedSet α := empty.insertAll l

variable [Std.LawfulEqOrd α]

@[simp] theorem mem_insert {s : SortedSet α} {a b : α} : b ∈ s.insert a ↔ b = a ∨ b ∈ s := by
  simp only [← mem_toList, insert, Sorted.mem_insertBy s.ascending, id]
  grind

@[simp] theorem mem_insertAll {s : SortedSet α} {l : List α} {b : α} :
    b ∈ s.insertAll l ↔ b ∈ l ∨ b ∈ s := by
  induction l generalizing s with
  | nil => simp [insertAll]
  | cons a l ih => simp only [insertAll, List.foldl_cons] at ih ⊢; grind [mem_insert]

@[simp] theorem mem_ofList {l : List α} {a : α} : a ∈ ofList l ↔ a ∈ l := by simp [ofList]

omit [Std.LawfulEqOrd α] in
/-- Sets with the same members are equal. -/
theorem ext {s t : SortedSet α} (same : ∀ a, a ∈ s ↔ a ∈ t) : s = t := by
  obtain ⟨l, hl⟩ := s
  obtain ⟨m, hm⟩ := t
  have : l = m := hl.ext hm same
  subst this
  rfl

end Insertion

theorem isEmpty_iff {s : SortedSet α} : s.isEmpty ↔ ∀ a, ¬ a ∈ s := by
  rw [isEmpty, List.isEmpty_iff]
  exact List.eq_nil_iff_forall_not_mem

theorem isEmpty_eq_false_iff {s : SortedSet α} : s.isEmpty = false ↔ ∃ a, a ∈ s := by
  rw [← Bool.not_eq_true, isEmpty_iff, Classical.not_forall_not]

theorem includes_iff [DecidableEq α] {s t : SortedSet α} : s.includes t ↔ ∀ a ∈ t, a ∈ s := by
  simp [includes, ← mem_toList]

end SortedSet

end Gatehouse
