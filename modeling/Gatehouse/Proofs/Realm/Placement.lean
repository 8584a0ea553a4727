import Gatehouse.Proofs.Config.Validation
import Gatehouse.Proofs.Site.Steady

/-!
# Realms with stores and caches of their own

The realms of a configuration are made with a store and a cache each. `Secluded` says that these are
still their own: no name leads to them, the stores hold the accounts as written, and all that the
caches remember are the clearances of these accounts. Evictions, loads and whatever else happens on
the site by way of names leave it so.
-/

namespace Gatehouse

open Site

/-- A realm of a configuration, with the numbers of the store and the cache made for it. -/
structure Placement where
  written : Config.Realm
  store : Nat
  cache : Nat

namespace Placement

def realm (p : Placement) : AccountRealm :=
  { label := p.written.name, store := p.store, cache := p.cache }

/-- The store holds the accounts as written, and nothing but their clearances is remembered. -/
structure Holds (p : Placement) (s : Site σ) : Prop where
  store_lt : p.store < s.stores.size
  cache_lt : p.cache < s.caches.size
  stored : s.stores.get p.store = { accounts := p.written.accounts }
  cached : ∀ id c, p.realm.remembered? s id = some c →
    ∃ a, p.written.accounts.find? id = some a ∧ c = a.clearance

end Placement

/-- No two realms share a store or a cache. -/
def Apart (places : List Placement) : Prop :=
  ∀ p ∈ places, ∀ q ∈ places, p.store = q.store ∨ p.cache = q.cache → p = q

namespace Realm

/-- The realm is one of those placed, or shares neither store nor cache with them. -/
def Fits (places : List Placement) : Realm → Prop
  | account r => (∃ p ∈ places, r = p.realm) ∨ ∀ p ∈ places, r.store ≠ p.store ∧ r.cache ≠ p.cache
  | outside _ => True

/-- The store and the cache of the realm have been made. -/
def InUse (s : Site σ) : Realm → Prop
  | account r => r.store < s.stores.size ∧ r.cache < s.caches.size
  | outside _ => True

/-- The realm is one that a name may lead to. -/
structure Known (places : List Placement) (s : Site σ) (r : Realm) : Prop where
  fits : r.Fits places
  used : r.InUse s

end Realm

/-- The placed realms are as they were made, and no name leads to what is their own. -/
structure Secluded (places : List Placement) (s : Site σ) : Prop where
  held : ∀ p ∈ places, p.Holds s
  stores : ∀ name n, s.names.stores.find? name = some n →
    (∀ p ∈ places, n ≠ p.store) ∧ n < s.stores.size
  realms : ∀ name r, s.names.realms.find? name = some r → r.Known places s
  authorizers : ∀ name a, s.names.authorizers.find? name = some a →
    ∀ r ∈ a.realms, r.Known places s
  managers : ∀ name m, s.names.managers.find? name = some m →
    ∀ r ∈ m.authorizer.realms, r.Known places s

variable {σ α : Type} {places : List Placement} {s t : Site σ}

/-! ## What does not matter -/

theorem Realm.InUse.mono {r : Realm} (h : r.InUse s) (stores : s.stores.size ≤ t.stores.size)
    (caches : s.caches.size ≤ t.caches.size) : r.InUse t := by
  cases r with
  | outside r => trivial
  | account r =>
    obtain ⟨store_lt, cache_lt⟩ := h
    exact ⟨by omega, by omega⟩

theorem Realm.Known.mono {r : Realm} (h : r.Known places s) (stores : s.stores.size ≤ t.stores.size)
    (caches : s.caches.size ≤ t.caches.size) : r.Known places t :=
  ⟨h.fits, h.used.mono stores caches⟩

theorem Realm.Known.beside {r : Realm} (h : r.Known places s) (beside : s.Beside t) :
    r.Known places t := h.mono (by rw [beside.stores]) (by rw [beside.caches])

/-- Under the same names, only the stores and the caches of the placed realms matter. -/
theorem Secluded.frame (h : Secluded places s) (names : t.names = s.names)
    (stores : s.stores.size ≤ t.stores.size) (caches : s.caches.size ≤ t.caches.size)
    (held : ∀ p ∈ places, p.Holds t) : Secluded places t := by
  refine ⟨held, fun name n found => ?_, fun name r found => ?_, fun name a found r mem => ?_,
    fun name m found r mem => ?_⟩ <;> rw [names] at found
  · obtain ⟨other, lt⟩ := h.stores name n found
    exact ⟨other, by omega⟩
  · exact (h.realms name r found).mono stores caches
  · exact (h.authorizers name a found r mem).mono stores caches
  · exact (h.managers name m found r mem).mono stores caches

theorem Placement.Holds.congr {p : Placement} (h : p.Holds s)
    (stores : s.stores.size ≤ t.stores.size) (caches : s.caches.size ≤ t.caches.size)
    (store : t.stores.get p.store = s.stores.get p.store)
    (cache : t.caches.get p.cache = s.caches.get p.cache) : p.Holds t := by
  have store_lt := h.store_lt
  have cache_lt := h.cache_lt
  refine ⟨by omega, by omega, store.trans h.stored, fun id c found => ?_⟩
  have same : p.realm.remembered? t id = p.realm.remembered? s id :=
    AccountRealm.remembered?_congr cache
  rw [same] at found
  exact h.cached id c found

theorem Secluded.beside (h : Secluded places s) (beside : s.Beside t) : Secluded places t := by
  refine h.frame beside.names (by rw [beside.stores]) (by rw [beside.caches]) fun p mem => ?_
  exact (h.held p mem).congr (by rw [beside.stores]) (by rw [beside.caches])
    (by rw [beside.stores]) (by rw [beside.caches])

theorem keeps_of_quiet {x : Action σ α} (quiet : x.Quiet) : x.Keeps (Secluded places) := by
  intro s h
  exact h.beside (quiet s)

theorem keeps_record (happening : Happening) :
    (record happening : Action σ Unit).Keeps (Secluded places) :=
  keeps_of_quiet (quiet_record happening)

/-! ## Names -/

/-- Names may change as long as they lead to nothing of the placed realms' own. -/
theorem Secluded.changeNames (h : Secluded places s) {names : Names}
    (stores : ∀ name n, names.stores.find? name = some n →
      (∀ p ∈ places, n ≠ p.store) ∧ n < s.stores.size)
    (realms : ∀ name r, names.realms.find? name = some r → r.Known places s)
    (authorizers : ∀ name a, names.authorizers.find? name = some a →
      ∀ r ∈ a.realms, r.Known places s)
    (managers : ∀ name m, names.managers.find? name = some m →
      ∀ r ∈ m.authorizer.realms, r.Known places s) :
    Secluded places { s with names } where
  held p mem := (h.held p mem).congr (Nat.le_refl _) (Nat.le_refl _) rfl rfl
  stores := stores
  realms name r found := (realms name r found).mono (Nat.le_refl _) (Nat.le_refl _)
  authorizers name a found r mem :=
    (authorizers name a found r mem).mono (Nat.le_refl _) (Nat.le_refl _)
  managers name m found r mem := (managers name m found r mem).mono (Nat.le_refl _) (Nat.le_refl _)

theorem keeps_nameBus (name : String) (bus : BusName) :
    (changeNames fun names => { names with buses := names.buses.insert name bus } :
      Action σ Unit).Keeps (Secluded places) :=
  fun _ h => h.changeNames h.stores h.realms h.authorizers h.managers

/-! ## Changes to stores and caches -/

theorem keeps_changeStore {store : Nat} (other : ∀ p ∈ places, store ≠ p.store)
    (f : Store σ → Store σ) : (changeStore store f).Keeps (Secluded places) := by
  intro s h
  refine h.frame rfl (Nat.le_refl _) (Nat.le_refl _) fun p mem => ?_
  refine (h.held p mem).congr (Nat.le_refl _) (Nat.le_refl _) ?_ rfl
  exact Arena.get_update.trans (if_neg (other p mem).symm)

theorem keeps_changeCache {cache : Nat} (other : ∀ p ∈ places, cache ≠ p.cache)
    (f : Cache → Cache) : (changeCache cache f : Action σ Unit).Keeps (Secluded places) := by
  intro s h
  refine h.frame rfl (Nat.le_refl _) (Nat.le_refl _) fun p mem => ?_
  refine (h.held p mem).congr (Nat.le_refl _) (Nat.le_refl _) rfl ?_
  exact Arena.get_update.trans (if_neg (other p mem).symm)

theorem keeps_newStore (store : Store σ) : (newStore store).Keeps (Secluded places) := by
  intro s h
  refine h.frame rfl (Nat.le_succ _) (Nat.le_refl _) fun p mem => ?_
  have before := h.held p mem
  refine before.congr (Nat.le_succ _) (Nat.le_refl _) ?_ rfl
  exact Arena.get_push.trans (if_neg (Nat.ne_of_lt before.store_lt))

theorem keeps_newCache : (newCache : Action σ Nat).Keeps (Secluded places) := by
  intro s h
  refine h.frame rfl (Nat.le_refl _) (Nat.le_succ _) fun p mem => ?_
  have before := h.held p mem
  refine before.congr (Nat.le_refl _) (Nat.le_succ _) rfl ?_
  exact Arena.get_push.trans (if_neg (Nat.ne_of_lt before.cache_lt))

/-- A change to a cache that only adds what the written accounts amount to. -/
theorem Secluded.changeCache (h : Secluded places s) {cache : Nat} {f : Cache → Cache}
    (sound : ∀ p ∈ places, p.cache = cache → ∀ id c,
      (f (s.caches.get cache)).entries.find? id = some c →
        p.realm.remembered? s id = some c ∨
          ∃ a, p.written.accounts.find? id = some a ∧ c = a.clearance) :
    Secluded places { s with caches := s.caches.update cache f } := by
  refine h.frame rfl (Nat.le_refl _) (Nat.le_refl _) fun p mem => ?_
  have before := h.held p mem
  refine ⟨before.store_lt, before.cache_lt, before.stored, fun id c found => ?_⟩
  rw [AccountRealm.remembered?, Arena.get_update] at found
  split at found
  next same =>
    rcases sound p mem same id c found with old | written
    · exact before.cached id c old
    · exact written
  next => exact before.cached id c found

theorem keeps_evict (cache : Nat) (identity : Identity) :
    (changeCache cache (·.evict identity) : Action σ Unit).Keeps (Secluded places) := by
  intro s h
  refine h.changeCache fun p mem same id c found => .inl ?_
  rw [Cache.find?_entries_evict] at found
  split at found
  · contradiction
  · rw [← found, AccountRealm.remembered?, ← same]
    rfl

/-- Where scripts leave the placed realms as they are, so does what else happens in checks. -/
theorem steady_secluded {run : σ → Action σ Unit}
    (keeping : ∀ script, (run script).Keeps (Secluded places)) : Steady run (Secluded places) where
  frame _ _ beside _ h := h.beside beside
  evict := keeps_evict
  script := keeping

end Gatehouse
