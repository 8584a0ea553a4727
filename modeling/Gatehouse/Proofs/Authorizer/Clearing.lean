import Gatehouse.Proofs.Authorizer.Delivery
import Gatehouse.Proofs.Realm.Loading

/-!
# What forgetting changes

Realms that are made to forget an identity evict it from the caches of the account realms among them,
and the outside realms are recorded; nothing else on the site changes (`Realm.run_clearCaching`). Of a
cache only what is remembered under the primary identifier is lost
(`AccountRealm.remembered?_clearCaching`).
-/

namespace Gatehouse

open Site

variable {σ : Type} {s : Site σ} {identity : Identity} {id : String} {realms : List Realm}

/-! ## Caches -/

/-- The caches once the identity has been evicted from each of these. -/
def Arena.evictFrom (caches : Arena Cache) (numbers : List Nat) (identity : Identity) : Arena Cache :=
  numbers.foldl (fun caches n => caches.update n (·.evict identity)) caches

namespace Arena

variable {caches : Arena Cache} {numbers : List Nat} {n : Nat}

theorem find?_entries_evictFrom :
    ((caches.evictFrom numbers identity).get n).entries.find? id =
      if identity.primary? = some id ∧ n ∈ numbers then none else (caches.get n).entries.find? id := by
  induction numbers generalizing caches with
  | nil =>
    rw [if_neg (by simp)]
    rfl
  | cons m numbers ih =>
    have evicted : ((caches.update m (·.evict identity)).get n).entries.find? id =
        if identity.primary? = some id ∧ n = m then none else (caches.get n).entries.find? id := by
      rw [get_update]
      by_cases same : n = m
      · simp only [same, if_true, Cache.find?_entries_evict, and_true]
      · simp only [same, if_false, and_false]
    rw [evictFrom, List.foldl_cons, ← evictFrom, ih, evicted]
    grind

theorem get_evictFrom_of_not_mem (other : n ∉ numbers) :
    (caches.evictFrom numbers identity).get n = caches.get n := by
  induction numbers generalizing caches with
  | nil => rfl
  | cons m numbers ih =>
    obtain ⟨apart, rest⟩ := List.ne_and_not_mem_of_not_mem_cons other
    rw [evictFrom, List.foldl_cons, ← evictFrom, ih rest, get_update, if_neg apart]

/-- An anonymous identity is in no cache. -/
theorem get_evictFrom_of_anonymous (anonymous : identity.primary? = none) :
    (caches.evictFrom numbers identity).get n = caches.get n := by
  induction numbers generalizing caches with
  | nil => rfl
  | cons m numbers ih =>
    rw [evictFrom, List.foldl_cons, ← evictFrom, ih, get_update, Cache.evict_of_anonymous anonymous]
    split
    next same => rw [same]
    next => rfl

end Arena

/-! ## Realms -/

namespace Realm

/-- The cache of an account realm. -/
def cache? : Realm → Option Nat
  | account r => some r.cache
  | outside _ => none

/-- What is recorded of a realm that is made to forget an identity. -/
def noted? (identity : Identity) : Realm → Option Happening
  | account _ => none
  | outside r => if r.caching then some (.cleared r.label identity) else none

theorem mem_filterMap_cache?_iff {n : Nat} :
    n ∈ realms.filterMap cache? ↔ ∃ r, account r ∈ realms ∧ r.cache = n := by
  rw [List.mem_filterMap]
  constructor
  · rintro ⟨_ | _, mem, found⟩
    · exact ⟨_, mem, Option.some.inj found⟩
    · contradiction
  · rintro ⟨r, mem, rfl⟩
    exact ⟨_, mem, rfl⟩

/-- The site once realms have forgotten an identity. -/
theorem run_clearCaching (realms : List Realm) (identity : Identity) (s : Site σ) :
    (clearCaching realms identity).run s = ((), { s with
      caches := s.caches.evictFrom (realms.filterMap cache?) identity
      trace := s.trace ++ realms.filterMap (noted? identity) }) := by
  induction realms generalizing s with
  | nil =>
    rw [List.filterMap_nil, List.filterMap_nil, List.append_nil]
    rfl
  | cons realm realms ih =>
    cases realm with
    | account r =>
      have first : (clearCaching (account r :: realms) identity).run s =
          (clearCaching realms identity).run
            { s with caches := s.caches.update r.cache (·.evict identity) } := rfl
      rw [first, ih]
      rfl
    | outside r =>
      cases caching : r.caching with
      | false =>
        have idle : (clearCaching (outside r :: realms) identity).run s =
            (clearCaching realms identity).run s := by
          rw [clearCaching, List.filter_cons_of_neg (by simp [isCaching, caching])]
          rfl
        rw [idle, ih]
        simp only [List.filterMap_cons, cache?, noted?, caching, Bool.false_eq_true, if_false]
      | true =>
        have first : (clearCaching (outside r :: realms) identity).run s =
            (clearCaching realms identity).run
              { s with trace := s.trace ++ [.cleared r.label identity] } := by
          rw [clearCaching, List.filter_cons_of_pos (by simp [isCaching, caching]),
            Action.run_forM_cons]
          simp only [clear, caching]
          rfl
        rw [first, ih]
        simp only [List.filterMap_cons, cache?, noted?, caching, if_true, List.append_assoc,
          List.singleton_append]

theorem caches_clearCaching :
    ((clearCaching realms identity).run s).2.caches =
      s.caches.evictFrom (realms.filterMap cache?) identity := by
  rw [run_clearCaching]

theorem stores_clearCaching : ((clearCaching realms identity).run s).2.stores = s.stores := by
  rw [run_clearCaching]

theorem buses_clearCaching : ((clearCaching realms identity).run s).2.buses = s.buses := by
  rw [run_clearCaching]

end Realm

theorem AccountRealm.remembered?_clearCaching {r : AccountRealm} :
    r.remembered? ((Realm.clearCaching realms identity).run s).2 id =
      if identity.primary? = some id ∧ r.cache ∈ realms.filterMap Realm.cache? then none
      else r.remembered? s id := by
  rw [remembered?, Realm.caches_clearCaching, Arena.find?_entries_evictFrom]
  rfl

end Gatehouse
