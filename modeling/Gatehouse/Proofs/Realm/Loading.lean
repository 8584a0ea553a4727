import Gatehouse.Proofs.Site.Running
import Gatehouse.Site.Realm

/-!
# How a realm loads a clearance

A load is settled by what the realm remembers, or else by a look-up in the store: by what the
look-up finds, and by whether the generation of the cache is still the same after it.
-/

namespace Gatehouse

open Site

variable {σ : Type} {run : σ → Action σ Unit} {s t : Site σ} {id : String}

/-! ## Looking up -/

/-- The site once a look-up in a store has been recorded, if the store is watched. -/
def Site.noting (s : Site σ) (watchedAs? : Option String) (id : String) : Site σ :=
  match watchedAs? with
  | some name => { s with trace := s.trace ++ [.lookedUp name id] }
  | none => s

theorem Site.alike_noting (s : Site σ) (watchedAs? : Option String) (id : String) :
    s.Alike (s.noting watchedAs? id) := by
  cases watchedAs? <;> exact ⟨rfl, rfl, rfl⟩

/-- What is found is what the store held before its script was run. -/
theorem run_lookUp {store : Nat} :
    (lookUp run store id).run.run s =
      let before := s.stores.get store
      let noted := s.noting before.watchedAs? id
      match before.outage? with
      | some error => (.error error, noted)
      | none => (.ok (before.accounts.find? id),
        match before.queue with
        | [] => noted
        | script :: queue =>
          ((run script).run
            { noted with stores := noted.stores.update store fun s => { s with queue } }).2) := by
  unfold lookUp
  rw [Check.run_get_bind]
  generalize s.stores.get store = before
  rcases before with ⟨accounts, _ | name, _ | error, _ | ⟨script, queue⟩⟩ <;> rfl

/-- A store without scripts that is not out of order just answers. -/
theorem lookUp_of_stored {store : Nat} {accounts : SortedMap String Account}
    (stored : s.stores.get store = { accounts }) (id : String) :
    (lookUp run store id).run.run s = (.ok (accounts.find? id), s) := by
  rw [run_lookUp, stored]
  rfl

/-- One cache remembers one clearance more. -/
theorem Arena.find?_entries_keep {caches : Arena Cache} {n m : Nat} {id other : String}
    {c : Clearance} :
    ((caches.update n (·.keep id c)).get m).entries.find? other =
      if m = n ∧ other = id then some c else (caches.get m).entries.find? other := by
  rw [get_update]
  by_cases same : m = n
  · simp only [same, if_true, true_and, Cache.find?_entries_keep]
  · simp only [same, if_false, false_and]

namespace AccountRealm

variable {r : AccountRealm}

/-! ## Loading -/

/-- The clearance that the realm remembers under a primary identifier. -/
def remembered? (r : AccountRealm) (s : Site σ) (id : String) : Option Clearance :=
  (s.caches.get r.cache).entries.find? id

def generation (r : AccountRealm) (s : Site σ) : Nat := (s.caches.get r.cache).generation

theorem remembered?_congr {q : AccountRealm} (same : t.caches.get r.cache = s.caches.get q.cache) :
    r.remembered? t id = q.remembered? s id := congrArg (·.entries.find? id) same

theorem run_keepSince {since : Nat} {c : Clearance} :
    (r.keepSince since id c : Action σ Bool).run s =
      if r.generation s = since then
        (true, { s with caches := s.caches.update r.cache (·.keep id c) })
      else (false, s) := by
  rw [keepSince, Action.run_get_bind, generation]
  by_cases same : (s.caches.get r.cache).generation = since
  · rw [if_pos same, if_pos same]
    rfl
  · rw [if_neg same, if_neg same]
    rfl

/-- The equation of a load, for any number of retries. -/
theorem load_eq (retries : Nat) :
    r.load run id retries = (do
      let cache := (← get).caches.get r.cache
      if let some c := cache.entries.find? id then return some c
      let some account ← lookUp run r.store id | return none
      ExceptT.lift <| warnUnfiled account.grants
      let c := account.clearance
      if ← ExceptT.lift <| r.keepSince cache.generation id c then return some c
      match retries with
      | 0 => return some c
      | n + 1 => r.load run id n) := by
  -- the equation that unfolding derives by itself takes long, as the recursion stands below binds
  cases retries <;> delta load <;> rfl

theorem load_of_remembered {c : Clearance} (h : r.remembered? s id = some c) (retries : Nat) :
    (r.load run id retries).run.run s = (.ok (some c), s) := by
  rw [remembered?] at h
  rw [load_eq, Check.run_get_bind]
  simp only [h]
  rfl

theorem load_of_error (h : r.remembered? s id = none) {e : AccessError}
    (failed : (lookUp run r.store id).run.run s = (.error e, t)) (retries : Nat) :
    (r.load run id retries).run.run s = (.error e, t) := by
  rw [remembered?] at h
  rw [load_eq, Check.run_get_bind]
  simp only [h]
  exact Check.run_bind_of_error failed

theorem load_of_unknown (h : r.remembered? s id = none)
    (unknown : (lookUp run r.store id).run.run s = (.ok none, t)) (retries : Nat) :
    (r.load run id retries).run.run s = (.ok none, t) := by
  rw [remembered?] at h
  rw [load_eq, Check.run_get_bind]
  simp only [h]
  exact Check.run_bind_of_ok unknown

/-- A record that is found is kept unless the generation has changed, which calls for another
try. -/
theorem load_of_found (h : r.remembered? s id = none) {a : Account}
    (found : (lookUp run r.store id).run.run s = (.ok (some a), t)) (retries : Nat) :
    (r.load run id retries).run.run s =
      let warned := ((warnUnfiled a.grants : Action σ Unit).run t).2
      if r.generation t = r.generation s then
        (.ok (some a.clearance),
          { warned with caches := warned.caches.update r.cache (·.keep id a.clearance) })
      else
        match retries with
        | 0 => (.ok (some a.clearance), warned)
        | n + 1 => (r.load run id n).run.run warned := by
  rw [remembered?] at h
  rw [load_eq, Check.run_get_bind]
  simp only [h]
  refine (Check.run_bind_of_ok found).trans ?_
  have unmoved : r.generation ((warnUnfiled a.grants : Action σ Unit).run t).2 =
      r.generation t := by
    rw [run_warnUnfiled]
    rfl
  dsimp only
  rw [Check.run_lift_bind, ← unmoved]
  generalize ((warnUnfiled a.grants : Action σ Unit).run t).2 = warned
  rw [Check.run_lift_bind, run_keepSince]
  by_cases same : r.generation warned = (s.caches.get r.cache).generation
  · rw [if_pos same]
    exact (if_pos same).symm
  · rw [if_neg same]
    cases retries <;> exact (if_neg same).symm

/-! ## Answering -/

/-- What is answered to an identity of that clearance, or without one. -/
def answer [Requestable ι] (r : AccountRealm) (c? : Option Clearance) (items : List ι) :
    Except AccessError (Verdicts ι) :=
  match c? with
  | some c => Requestable.judge r c items
  | none => .ok (.constant false items)

variable [Requestable ι] {identity : Identity} {items : List ι}

theorem ask_of_anonymous (h : identity.primary? = none) :
    (r.ask run identity items).run.run s = (r.answer none items, s) := by
  rw [ask, clearance?, h]
  rfl

/-- The answer is the one that the loaded clearance gives. -/
theorem ask_of_load (h : identity.primary? = some id)
    {outcome : Except AccessError (Option Clearance)}
    (loaded : (r.load run id 1).run.run s = (outcome, t)) :
    (r.ask run identity items).run.run s = (outcome.bind (r.answer · items), t) := by
  rw [ask, clearance?, h]
  rcases outcome with e | _ | c
  · exact Check.run_bind_of_error loaded
  · exact Check.run_bind_of_ok loaded
  · exact Check.run_bind_of_ok loaded

end AccountRealm

end Gatehouse
