import Gatehouse.Proofs.Realm.Loading

/-!
# Loads that are interfered with

While a look-up is under way, its record already read, the store can change any records and make the
realm forget any identities. Such deeds are the scripts of a store here.

A load makes one look-up after the other until one is not overtaken (`Store.attempts`). What it
answers and what the cache is after it can be told from these look-ups alone (`load_of_forgotten`).
-/

namespace Gatehouse

open Site

/-- What can happen to the store of a realm and to the realm, other than a check. -/
inductive Deed where
  | change (f : SortedMap String Account → SortedMap String Account)
  /-- The store is out of order from now on, or is no longer so. -/
  | fail (error? : Option AccessError)
  | clear (identity : Identity)

namespace Deed

/-- The primary identifier of whom the realm is told to forget. -/
def forgotten? : Deed → Option String
  | clear identity => identity.primary?
  | _ => none

/-- The realm is told to forget an identity that is not anonymous. -/
def evicts (d : Deed) : Bool := d.forgotten?.isSome

def onStore : Deed → Store (List Deed) → Store (List Deed)
  | change f, s => { s with accounts := f s.accounts }
  | fail error?, s => { s with outage? := error? }
  | clear _, s => s

def onCache : Deed → Cache → Cache
  | clear identity, c => c.evict identity
  | _, c => c

/-- Does the deed to the store and the cache of a realm. -/
def perform (r : AccountRealm) (d : Deed) : Action (List Deed) Unit :=
  match d with
  | change _ | fail _ => changeStore r.store d.onStore
  | clear identity => do let _ ← (Realm.account r).clear identity

end Deed

/-- Deeds one after the other. -/
def AccountRealm.suffer (r : AccountRealm) (deeds : List Deed) : Action (List Deed) Unit :=
  deeds.forM (·.perform r)

/-! ## Deeds on stores and caches -/

def Store.after (s : Store (List Deed)) (deeds : List Deed) : Store (List Deed) :=
  deeds.foldl (fun s d => d.onStore s) s

def Cache.after (c : Cache) (deeds : List Deed) : Cache := deeds.foldl (fun c d => d.onCache c) c

theorem Store.watchedAs?_after (s : Store (List Deed)) (deeds : List Deed) :
    (s.after deeds).watchedAs? = s.watchedAs? := by
  induction deeds generalizing s with
  | nil => rfl
  | cons d deeds ih =>
    refine (ih (d.onStore s)).trans ?_
    cases d <;> rfl

namespace Cache

variable {c : Cache} {id : String}

theorem find?_entries_onCache (d : Deed) :
    (d.onCache c).entries.find? id =
      if d.forgotten? = some id then none else c.entries.find? id := by
  cases d with
  | clear identity => exact find?_entries_evict
  | change f => rfl
  | fail error? => rfl

theorem generation_onCache (d : Deed) :
    (d.onCache c).generation = c.generation + if d.evicts then 1 else 0 := by
  cases d with
  | clear identity =>
    refine generation_evict.trans ?_
    rw [Deed.evicts, Deed.forgotten?]
    cases identity.primary? <;> rfl
  | change f => rfl
  | fail error? => rfl

/-- Nothing is remembered of an identity once it has been forgotten. -/
theorem find?_entries_after (deeds : List Deed) :
    (c.after deeds).entries.find? id =
      if deeds.any (·.forgotten? = some id) then none else c.entries.find? id := by
  induction deeds generalizing c with
  | nil => simp [after]
  | cons d deeds ih =>
    rw [show c.after (d :: deeds) = (d.onCache c).after deeds from rfl, ih, find?_entries_onCache]
    by_cases later : deeds.any (·.forgotten? = some id)
    · simp [later]
    · simp [later]

/-- The generation counts the evictions. -/
theorem generation_after (deeds : List Deed) :
    (c.after deeds).generation = c.generation + deeds.countP Deed.evicts := by
  induction deeds generalizing c with
  | nil => rfl
  | cons d deeds ih =>
    rw [show c.after (d :: deeds) = (d.onCache c).after deeds from rfl, ih, generation_onCache,
      List.countP_cons]
    omega

end Cache

/-! ## Look-ups -/

/-- A look-up: what it finds, and what happens after the record has been read. -/
structure LookUp where
  id : String
  found : Except AccessError (Option Account)
  during : List Deed

namespace LookUp

def record? (l : LookUp) : Option Account :=
  match l.found with
  | .ok record? => record?
  | .error _ => none

/-- An eviction happens while the look-up is under way. -/
def raced (l : LookUp) : Bool := l.during.any Deed.evicts

/-- A record is found, but an eviction makes it stale. -/
def overtaken (l : LookUp) : Bool := l.record?.isSome && l.raced

/-- The clearance that the realm remembers from the look-up. -/
def kept? (l : LookUp) : Option Clearance :=
  if l.raced then none else l.record?.map Account.clearance

/-- What a load answers by the look-up. -/
def outcome (l : LookUp) : Except AccessError (Option Clearance) :=
  l.found.map (·.map Account.clearance)

/-- What the deeds of the look-up and what is kept of it make of the cache. -/
def onCache (l : LookUp) (c : Cache) : Cache :=
  match l.kept? with
  | some clearance => (c.after l.during).keep l.id clearance
  | none => c.after l.during

theorem kept?_eq_some_iff {l : LookUp} {c : Clearance} :
    l.kept? = some c ↔ l.raced = false ∧ ∃ a, l.found = .ok (some a) ∧ c = a.clearance := by
  obtain ⟨id, found, during⟩ := l
  cases raced : (LookUp.mk id found during).raced with
  | true => simp [kept?, raced]
  | false =>
    rcases found with _ | _ | a
    · simp [kept?, raced, record?]
    · simp [kept?, raced, record?]
    · simp [kept?, raced, record?, eq_comm]

theorem found_of_record?_eq_some {l : LookUp} {a : Account} (h : l.record? = some a) :
    l.found = .ok (some a) := by
  rw [record?] at h
  split at h
  next found => rw [found, h]
  next => contradiction

theorem overtaken_iff {l : LookUp} :
    l.overtaken ↔ (∃ a, l.found = .ok (some a)) ∧ ∃ d ∈ l.during, d.evicts := by
  rw [overtaken, Bool.and_eq_true, raced, List.any_eq_true]
  refine and_congr_left fun _ => ?_
  rw [record?]
  rcases l.found with e | _ | a <;> simp

theorem kept?_of_overtaken {l : LookUp} (h : l.overtaken) : l.kept? = none := by
  rw [overtaken, Bool.and_eq_true] at h
  rw [kept?, if_pos h.2]

end LookUp

namespace Store

variable {s : Store (List Deed)} {id : String}

/-- The look-up that would be made now. -/
def nextLookUp (s : Store (List Deed)) (id : String) : LookUp :=
  match s.outage? with
  | some error => { id, found := .error error, during := [] }
  | none => { id, found := .ok (s.accounts.find? id), during := s.queue.headD [] }

/-- The store after its next look-up. -/
def afterLookUp (s : Store (List Deed)) : Store (List Deed) :=
  match s.outage? with
  | some _ => s
  | none => { s with queue := s.queue.tail }.after (s.queue.headD [])

/-- The next look-ups, of a given number. -/
def lookUps (id : String) : Nat → Store (List Deed) → List LookUp
  | 0, _ => []
  | n + 1, s => s.nextLookUp id :: lookUps id n s.afterLookUp

/-- The look-ups of a load that retries up to some number of times. -/
def attempts (id : String) : Nat → Store (List Deed) → List LookUp
  | 0, s => [s.nextLookUp id]
  | n + 1, s =>
    if (s.nextLookUp id).overtaken then s.nextLookUp id :: attempts id n s.afterLookUp
    else [s.nextLookUp id]

theorem watchedAs?_afterLookUp : s.afterLookUp.watchedAs? = s.watchedAs? := by
  unfold afterLookUp
  split
  · rfl
  · exact watchedAs?_after _ _

theorem id_nextLookUp (s : Store (List Deed)) (id : String) : (s.nextLookUp id).id = id := by
  unfold nextLookUp
  split <;> rfl

theorem length_attempts (n : Nat) :
    (s.attempts id (n + 1)).length =
      if (s.nextLookUp id).overtaken then (s.afterLookUp.attempts id n).length + 1 else 1 := by
  rw [attempts]
  split <;> rfl

theorem lookUps_length_attempts (n : Nat) :
    s.lookUps id (s.attempts id n).length = s.attempts id n := by
  induction n generalizing s with
  | zero => rfl
  | succ n ih =>
    unfold attempts
    split
    · rw [List.length_cons, lookUps, ih]
    · rfl

end Store

/-! ## Deeds on a site -/

/-- The entry of the record is a look-up in a watched store. -/
def Happening.isLookUp : Happening → Bool
  | lookedUp .. => true
  | _ => false

namespace AccountRealm

variable {r : AccountRealm} {s t : Site (List Deed)} {id name : String}

theorem stores_perform (d : Deed) :
    ((d.perform r).run s).2.stores.get r.store = d.onStore (s.stores.get r.store) := by
  cases d with
  | change f => exact Arena.get_update.trans (if_pos rfl)
  | fail error? => exact Arena.get_update.trans (if_pos rfl)
  | clear identity => rfl

theorem caches_perform (d : Deed) :
    ((d.perform r).run s).2.caches.get r.cache = d.onCache (s.caches.get r.cache) := by
  cases d with
  | change f => rfl
  | fail error? => rfl
  | clear identity => exact Arena.get_update.trans (if_pos rfl)

theorem trace_perform (d : Deed) : ((d.perform r).run s).2.trace = s.trace := by
  cases d <;> rfl

theorem stores_suffer (deeds : List Deed) :
    ((r.suffer deeds).run s).2.stores.get r.store = (s.stores.get r.store).after deeds := by
  induction deeds generalizing s with
  | nil => rfl
  | cons d deeds ih => exact ih.trans (congrArg (·.after deeds) (stores_perform d))

theorem caches_suffer (deeds : List Deed) :
    ((r.suffer deeds).run s).2.caches.get r.cache = (s.caches.get r.cache).after deeds := by
  induction deeds generalizing s with
  | nil => rfl
  | cons d deeds ih => exact ih.trans (congrArg (·.after deeds) (caches_perform d))

theorem trace_suffer (deeds : List Deed) : ((r.suffer deeds).run s).2.trace = s.trace := by
  induction deeds generalizing s with
  | nil => rfl
  | cons d deeds ih => exact ih.trans (trace_perform d)

/-- A look-up in a watched store, as it shows in the store, the cache and the record. -/
theorem lookUp_suffering (id : String)
    (watched : (s.stores.get r.store).watchedAs? = some name) :
    ∃ t, (lookUp r.suffer r.store id).run.run s =
        (((s.stores.get r.store).nextLookUp id).found, t) ∧
      t.stores.get r.store = (s.stores.get r.store).afterLookUp ∧
      t.caches.get r.cache =
        (s.caches.get r.cache).after ((s.stores.get r.store).nextLookUp id).during ∧
      t.trace = s.trace ++ [.lookedUp name id] := by
  rw [run_lookUp]
  rcases before : s.stores.get r.store with ⟨accounts, watchedAs?, outage?, queue⟩
  obtain rfl : watchedAs? = some name := by rw [← watched, before]
  rcases outage? with _ | error
  · rcases queue with _ | ⟨script, queue⟩
    · exact ⟨_, rfl, before, rfl, rfl⟩
    · have popped : ((s.stores.update r.store fun st => { st with queue }).get r.store) =
          ⟨accounts, some name, none, queue⟩ := by
        rw [Arena.get_update, if_pos rfl, before]
      refine ⟨_, rfl, (stores_suffer script).trans ?_, caches_suffer script, trace_suffer script⟩
      exact congrArg (fun st : Store (List Deed) => st.after script) popped
  · exact ⟨_, rfl, before, rfl, rfl⟩

/-! ## Loading -/

/-- Some look-ups lead from one site to the other, as it shows in the cache and in the record. -/
structure Passed (r : AccountRealm) (s : Site (List Deed)) (made : List LookUp)
    (t : Site (List Deed)) : Prop where
  watched : (t.stores.get r.store).watchedAs? = (s.stores.get r.store).watchedAs?
  cached : t.caches.get r.cache = made.foldl (fun c l => l.onCache c) (s.caches.get r.cache)
  noted : ∃ added, t.trace = s.trace ++ added ∧ added.countP Happening.isLookUp = made.length

theorem Passed.refl (r : AccountRealm) (s : Site (List Deed)) : r.Passed s [] s :=
  ⟨rfl, rfl, [], by simp⟩

theorem Passed.trans {u : Site (List Deed)} {first rest : List LookUp} (h : r.Passed s first t)
    (h' : r.Passed t rest u) : r.Passed s (first ++ rest) u := by
  obtain ⟨added, trace, count⟩ := h.noted
  obtain ⟨added', trace', count'⟩ := h'.noted
  refine ⟨h'.watched.trans h.watched, ?_, added ++ added', ?_, ?_⟩
  · rw [h'.cached, h.cached, List.foldl_append]
  · rw [trace', trace, List.append_assoc]
  · rw [List.countP_append, List.length_append, count, count']

theorem generation_eq_iff_not_raced {l : LookUp}
    (h : t.caches.get r.cache = (s.caches.get r.cache).after l.during) :
    r.generation t = r.generation s ↔ l.raced = false := by
  rw [generation, h, Cache.generation_after, LookUp.raced, List.any_eq_false, generation]
  rw [Nat.add_eq_left, List.countP_eq_zero]

/-- What is remembered of an identity is forgotten while a raced look-up of it is under way, or was
not there before. -/
theorem remembered?_of_after {deeds : List Deed} (forgotten : r.remembered? s id = none)
    (h : t.caches.get r.cache = (s.caches.get r.cache).after deeds) :
    r.remembered? t id = none := by
  rw [remembered?, h, Cache.find?_entries_after]
  split
  · rfl
  · exact forgotten

theorem Passed.single {l : LookUp} (warnings : List Warning)
    (stores : t.stores.get r.store = (s.stores.get r.store).afterLookUp)
    (cached : t.caches.get r.cache = l.onCache (s.caches.get r.cache))
    (trace : t.trace = s.trace ++ .lookedUp name id :: warnings.map .warned) :
    r.Passed s [l] t := by
  refine ⟨by rw [stores, Store.watchedAs?_afterLookUp], cached, _, trace, ?_⟩
  have quiet : (warnings.map Happening.warned).countP Happening.isLookUp = 0 := by
    simp [List.countP_eq_zero, Happening.isLookUp]
  rw [List.countP_cons, quiet]
  rfl

theorem load_of_unrecorded {l : LookUp} (forgotten : r.remembered? s id = none)
    (looked : (lookUp r.suffer r.store id).run.run s = (l.found, t)) (none : l.record? = none)
    (retries : Nat) : (r.load r.suffer id retries).run.run s = (l.outcome, t) := by
  rw [LookUp.outcome]
  rcases found : l.found with e | _ | a
  · exact load_of_error forgotten (found ▸ looked) retries
  · exact load_of_unknown forgotten (found ▸ looked) retries
  · rw [LookUp.record?, found] at none
    contradiction

/-- One try of a load. The load is settled by it unless it is overtaken and can be retried. -/
theorem load_once (watched : (s.stores.get r.store).watchedAs? = some name)
    (forgotten : r.remembered? s id = none) :
    let l := (s.stores.get r.store).nextLookUp id
    ∃ u, r.Passed s [l] u ∧ u.stores.get r.store = (s.stores.get r.store).afterLookUp ∧
      r.remembered? u id = l.kept? ∧
      ∀ retries, (r.load r.suffer id retries).run.run s =
        match l.overtaken, retries with
        | true, n + 1 => (r.load r.suffer id n).run.run u
        | _, _ => (l.outcome, u) := by
  obtain ⟨t, looked, stores, caches, trace⟩ := r.lookUp_suffering id watched
  have named := Store.id_nextLookUp (s.stores.get r.store) id
  generalize (s.stores.get r.store).nextLookUp id = l at *
  have gone := remembered?_of_after forgotten caches
  cases recorded : l.record? with
  | none =>
    have unkept : l.kept? = none := by rw [LookUp.kept?, recorded, Option.map_none, ite_self]
    have cached : t.caches.get r.cache = l.onCache (s.caches.get r.cache) := by
      rw [caches, LookUp.onCache, unkept]
    refine ⟨t, .single [] stores cached trace, stores, gone.trans unkept.symm,
      fun retries => ?_⟩
    rw [LookUp.overtaken, recorded]
    exact load_of_unrecorded forgotten looked recorded retries
  | some a =>
    have found := LookUp.found_of_record?_eq_some recorded
    have settled := generation_eq_iff_not_raced caches
    have load := load_of_found forgotten (found ▸ looked)
    rw [run_warnUnfiled] at load
    have grown : t.trace ++ (Clearance.unfiled a.grants).map (.warned <| .unfiled ·) = s.trace ++
        .lookedUp name id :: ((Clearance.unfiled a.grants).map Warning.unfiled).map .warned := by
      rw [trace, List.append_assoc, List.map_map]
      rfl
    cases raced : l.raced with
    | false =>
      have kept : l.kept? = some a.clearance := by rw [LookUp.kept?, raced, recorded]; rfl
      refine ⟨{ t with
          trace := t.trace ++ (Clearance.unfiled a.grants).map (.warned <| .unfiled ·)
          caches := t.caches.update r.cache (·.keep id a.clearance) },
        .single _ stores ?_ grown, stores, ?_, fun retries => ?_⟩
      · rw [LookUp.onCache, kept, Arena.get_update, if_pos rfl, caches, named]
      · rw [remembered?, Arena.get_update, if_pos rfl, Cache.find?_entries_keep, if_pos rfl, kept]
      · rw [load retries, if_pos (settled.2 raced), LookUp.overtaken, recorded, raced,
          LookUp.outcome, found]
        rfl
    | true =>
      have unkept : l.kept? = none := by rw [LookUp.kept?, if_pos raced]
      have moved : ¬ r.generation t = r.generation s := fun same => by
        simp [settled.1 same] at raced
      refine ⟨{ t with
          trace := t.trace ++ (Clearance.unfiled a.grants).map (.warned <| .unfiled ·) },
        .single _ stores ?_ grown, stores, gone.trans unkept.symm, fun retries => ?_⟩
      · rw [LookUp.onCache, unkept, caches]
      · rw [load retries, if_neg moved, LookUp.overtaken, recorded, raced, LookUp.outcome, found]
        cases retries <;> rfl

/-- A load of an identity that is not remembered makes its look-ups, and answers by the last one. -/
theorem load_of_forgotten (watched : (s.stores.get r.store).watchedAs? = some name)
    (forgotten : r.remembered? s id = none) (retries : Nat) :
    ∃ last t, ((s.stores.get r.store).attempts id retries).getLast? = some last ∧
      (r.load r.suffer id retries).run.run s = (last.outcome, t) ∧
      r.Passed s ((s.stores.get r.store).attempts id retries) t ∧
      r.remembered? t id = last.kept? := by
  induction retries generalizing s with
  | zero =>
    obtain ⟨u, passed, stores, kept, load⟩ := r.load_once watched forgotten
    refine ⟨_, u, rfl, (load 0).trans ?_, passed, kept⟩
    split
    · contradiction
    · rfl
  | succ n ih =>
    obtain ⟨u, passed, stores, kept, load⟩ := r.load_once watched forgotten
    rw [load, Store.attempts]
    cases overtaken : ((s.stores.get r.store).nextLookUp id).overtaken with
    | false => exact ⟨_, u, rfl, rfl, passed, kept⟩
    | true =>
      have raced := LookUp.kept?_of_overtaken overtaken
      obtain ⟨last, t, final, again, passed', kept'⟩ :=
        ih (passed.watched.trans watched) (kept.trans raced)
      rw [stores] at final passed'
      refine ⟨last, t, ?_, again, passed.trans passed', kept'⟩
      rw [if_pos rfl, List.getLast?_cons, final]
      rfl

end AccountRealm

end Gatehouse
