import Gatehouse.Sorted.Insertion

/-!
# Sorted maps

A finite map over ordered keys, held as its list of entries in strictly ascending order of the keys:
equal maps are equal values, and listing a map lists it by key.

`find?_insert`, `find?_erase` and `ext` describe a map by its look-ups alone.
-/

namespace Gatehouse

/-- A finite map, listed in strictly ascending order of its keys. -/
structure SortedMap (κ : Type u) (ν : Type v) [Ord κ] where
  toList : List (κ × ν)
  ascending : Sorted.Ascending Prod.fst toList

namespace SortedMap

variable {κ : Type u} {ν : Type v} [Ord κ]

instance [DecidableEq κ] [DecidableEq ν] : DecidableEq (SortedMap κ ν) := fun m n =>
  decidable_of_iff (m.toList = n.toList) <| by cases m; cases n; simp

/-- The map without entries. -/
def empty : SortedMap κ ν := ⟨[], .nil⟩

instance : Inhabited (SortedMap κ ν) := ⟨empty⟩

def isEmpty (m : SortedMap κ ν) : Bool := m.toList.isEmpty

def size (m : SortedMap κ ν) : Nat := m.toList.length

def keys (m : SortedMap κ ν) : List κ := m.toList.map Prod.fst

/-- The value held under a key. -/
def find? [DecidableEq κ] (m : SortedMap κ ν) (k : κ) : Option ν :=
  (m.toList.find? (·.1 = k)).map Prod.snd

def contains [DecidableEq κ] (m : SortedMap κ ν) (k : κ) : Bool := (m.find? k).isSome

/-- Drops the entry of a key. -/
def erase [DecidableEq κ] (m : SortedMap κ ν) (k : κ) : SortedMap κ ν :=
  ⟨m.toList.filter (·.1 ≠ k), m.ascending.filter _⟩

theorem find?_erase [DecidableEq κ] {m : SortedMap κ ν} {k j : κ} :
    (m.erase k).find? j = if j = k then none else m.find? j := by
  simp only [find?, erase, List.find?_filter]
  split
  next h => subst h; simp
  next h =>
    congr 2
    funext e
    by_cases he : e.1 = j <;> simp [he, h]

@[simp] theorem find?_empty [DecidableEq κ] {k : κ} : (empty : SortedMap κ ν).find? k = none := rfl

section Insertion

variable [Std.TransOrd κ]

/-- Holds `v` under `k`, in place of what the key held before. -/
def insert (m : SortedMap κ ν) (k : κ) (v : ν) : SortedMap κ ν :=
  ⟨Sorted.insertBy Prod.fst (k, v) m.toList, m.ascending.insertBy (k, v)⟩

/-- Of two entries with one key the later one is held. -/
def ofList (l : List (κ × ν)) : SortedMap κ ν := l.foldl (fun m e => m.insert e.1 e.2) empty

end Insertion

section Lookup

variable [Std.TransOrd κ] [Std.LawfulEqOrd κ] [DecidableEq κ]

omit [Std.TransOrd κ] in
theorem mem_toList_iff {m : SortedMap κ ν} {k : κ} {v : ν} :
    (k, v) ∈ m.toList ↔ m.find? k = some v := by
  obtain ⟨l, asc⟩ := m
  simp only [find?]
  induction l with
  | nil => simp
  | cons e l ih =>
    obtain ⟨first, rest⟩ := List.pairwise_cons.1 asc
    have ih := ih rest
    by_cases h : e.1 = k
    · have absent : ∀ v, (k, v) ∉ l := by
        intro v hv
        have := first _ hv
        simp [h] at this
      obtain ⟨a, b⟩ := e
      subst h
      simp [absent, Eq.comm]
    · have : (k, v) ≠ e := fun h' => h (h' ▸ rfl)
      simp [h, this, ih]

omit [Std.TransOrd κ] in
theorem mem_keys_iff {m : SortedMap κ ν} {k : κ} : k ∈ m.keys ↔ ∃ v, m.find? k = some v := by
  simp [keys, ← mem_toList_iff]

theorem find?_insert {m : SortedMap κ ν} {k j : κ} {v : ν} :
    (m.insert k v).find? j = if j = k then some v else m.find? j := by
  have entry (w : ν) : (m.insert k v).find? j = some w ↔
      (j = k ∧ w = v) ∨ m.find? j = some w ∧ j ≠ k := by
    rw [← mem_toList_iff, ← mem_toList_iff]
    simp [insert, Sorted.mem_insertBy m.ascending]
  split
  · simp_all
  · refine Option.ext fun w => ?_
    simp_all

/-- Maps with the same look-ups are equal. -/
theorem ext {m n : SortedMap κ ν} (same : ∀ k, m.find? k = n.find? k) : m = n := by
  have : m.toList = n.toList := m.ascending.ext n.ascending fun (k, v) => by
    rw [mem_toList_iff, mem_toList_iff, same k]
  obtain ⟨l, _⟩ := m
  subst this
  rfl

end Lookup

end SortedMap

end Gatehouse
