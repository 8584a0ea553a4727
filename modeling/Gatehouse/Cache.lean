import Gatehouse.Clearance
import Gatehouse.Identity

/-!
# Caches of clearances

What a realm remembers: the clearances it has loaded, by primary identifier. Every eviction of an
identity, remembered or not, begins a new generation, so that a load can tell whether one happened
while it was under way.
-/

namespace Gatehouse

structure Cache where
  entries : SortedMap String Clearance := .empty
  generation : Nat := 0

namespace Cache

instance : Inhabited Cache := ⟨{}⟩

def keep (c : Cache) (id : String) (clearance : Clearance) : Cache :=
  { c with entries := c.entries.insert id clearance }

/-- Forgets an identity. An anonymous identity has nothing to forget. -/
def evict (c : Cache) (identity : Identity) : Cache :=
  match identity.primary? with
  | some id => { entries := c.entries.erase id, generation := c.generation + 1 }
  | none => c

theorem evict_of_anonymous {c : Cache} {identity : Identity} (h : identity.primary? = none) :
    c.evict identity = c := by
  simp [evict, h]

theorem find?_entries_evict {c : Cache} {identity : Identity} {id : String} :
    (c.evict identity).entries.find? id =
      if identity.primary? = some id then none else c.entries.find? id := by
  unfold evict
  split
  next other h => simp only [h, SortedMap.find?_erase, Option.some.injEq, eq_comm]
  next h => simp [h]

theorem find?_entries_keep {c : Cache} {id other : String} {clearance : Clearance} :
    (c.keep id clearance).entries.find? other =
      if other = id then some clearance else c.entries.find? other :=
  SortedMap.find?_insert

theorem generation_evict {c : Cache} {identity : Identity} :
    (c.evict identity).generation = c.generation + if identity.primary? = none then 0 else 1 := by
  unfold evict
  split <;> simp_all

end Cache

end Gatehouse
