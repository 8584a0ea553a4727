import Gatehouse.Sorted.Map

/-!
# Numbered objects

Objects that are referred to by number, so that several holders can share one that changes. Every
number refers to an object: one that has not been made yet is in its initial state.
-/

namespace Gatehouse

structure Arena (α : Type) where
  cells : SortedMap Nat α := .empty
  size : Nat := 0

namespace Arena

variable {α : Type} [Inhabited α]

def get (a : Arena α) (i : Nat) : α := (a.cells.find? i).getD default

def set (a : Arena α) (i : Nat) (x : α) : Arena α := { a with cells := a.cells.insert i x }

def update (a : Arena α) (i : Nat) (f : α → α) : Arena α := a.set i (f (a.get i))

/-- Makes a new object, whose number is the size before. -/
def push (a : Arena α) (x : α) : Arena α := { cells := a.cells.insert a.size x, size := a.size + 1 }

theorem get_set {a : Arena α} {i j : Nat} {x : α} :
    (a.set i x).get j = if j = i then x else a.get j := by
  simp only [get, set, SortedMap.find?_insert]
  split <;> rfl

theorem get_update {a : Arena α} {i j : Nat} {f : α → α} :
    (a.update i f).get j = if j = i then f (a.get i) else a.get j := get_set

theorem get_push {a : Arena α} {j : Nat} {x : α} :
    (a.push x).get j = if j = a.size then x else a.get j := by
  simp only [get, push, SortedMap.find?_insert]
  split <;> rfl

end Arena

end Gatehouse
