import Gatehouse.AccessError
import Gatehouse.Account

/-!
# Account stores

A store holds the record of each account. Its look-ups can be made to fail, and a watched store has
its look-ups recorded. Scripts that are queued in a store run one at each look-up, after the record
has been read and before it is handed out.
-/

namespace Gatehouse

structure Store (σ : Type) where
  accounts : SortedMap String Account := .empty
  /-- The name under which look-ups are recorded. -/
  watchedAs? : Option String := none
  outage? : Option AccessError := none
  queue : List σ := []

namespace Store

instance : Inhabited (Store σ) := ⟨{}⟩

def insert (s : Store σ) (id : String) (a : Account) : Store σ :=
  { s with accounts := s.accounts.insert id a }

def remove (s : Store σ) (id : String) : Store σ := { s with accounts := s.accounts.erase id }

end Store

end Gatehouse
