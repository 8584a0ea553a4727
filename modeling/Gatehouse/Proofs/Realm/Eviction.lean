import Mathlib.Data.List.Induction
import Gatehouse.Proofs.Realm.Interference

/-!
# No eviction is lost

A realm goes through a run of checks and deeds, and deeds happen during the look-ups of its checks
as well. The history of the run tells the deeds and the look-ups in order, and the cache is a replay
of it (`cache_after_run`). So whatever is remembered was read after the last time its identity was
to be forgotten (`Cache.fresh_replay`).
-/

namespace Gatehouse

open Site

/-- What happens to a realm from outside. -/
inductive Move where
  | deed (d : Deed)
  /-- The deeds will be done during a later look-up. -/
  | planned (deeds : List Deed)
  | permissions (identity : Identity) (items : List Permission)
  | roles (identity : Identity) (items : List String)

def Move.perform (r : AccountRealm) : Move → Action (List Deed) Unit
  | deed d => d.perform r
  | planned deeds => changeStore r.store fun s => { s with queue := s.queue ++ [deeds] }
  | permissions identity items => do let _ ← (r.ask r.suffer identity items).run
  | roles identity items => do let _ ← (r.ask r.suffer identity items).run

/-- What a history tells. -/
inductive Occurrence where
  | deed (d : Deed)
  | lookUp (l : LookUp)

namespace Occurrence

def deeds : Occurrence → List Deed
  | deed d => [d]
  | lookUp l => l.during

def onCache : Occurrence → Cache → Cache
  | deed d => d.onCache
  | lookUp l => l.onCache

end Occurrence

/-- How many look-ups have been recorded from one site to a later one. -/
def lookUpCount (s t : Site σ) : Nat :=
  (t.trace.drop s.trace.length).countP Happening.isLookUp

namespace AccountRealm

/-- The look-ups that a check has made, as many as have been recorded. -/
def lookUpsMade (r : AccountRealm) (identity : Identity) (s t : Site (List Deed)) : List LookUp :=
  match identity.primary? with
  | some id => (s.stores.get r.store).lookUps id (lookUpCount s t)
  | none => []

end AccountRealm

/-- What a move adds to the history. -/
def Move.occurrences (r : AccountRealm) (s : Site (List Deed)) (m : Move) : List Occurrence :=
  match m with
  | deed d => [.deed d]
  | planned _ => []
  | permissions identity _ | roles identity _ =>
    (r.lookUpsMade identity s ((m.perform r).run s).2).map .lookUp

namespace AccountRealm

/-- The site at the end of a run. -/
def after (r : AccountRealm) (s : Site (List Deed)) (moves : List Move) : Site (List Deed) :=
  moves.foldl (fun s m => ((m.perform r).run s).2) s

/-- The history of a run. -/
def history (r : AccountRealm) (s : Site (List Deed)) : List Move → List Occurrence
  | [] => []
  | m :: moves => m.occurrences r s ++ history r ((m.perform r).run s).2 moves

end AccountRealm

/-! ## Replaying a history -/

namespace Cache

/-- What a history makes of a cache. -/
def replay (c : Cache) (history : List Occurrence) : Cache :=
  history.foldl (fun c o => o.onCache c) c

variable {c : Cache} {history : List Occurrence} {id : String}

theorem replay_append {more : List Occurrence} :
    c.replay (history ++ more) = (c.replay history).replay more := List.foldl_append

theorem find?_entries_lookUp (l : LookUp) :
    (l.onCache c).entries.find? id =
      if l.id = id ∧ l.kept?.isSome then l.kept? else (c.after l.during).entries.find? id := by
  rw [LookUp.onCache]
  cases l.kept? with
  | none => simp
  | some clearance => simp [find?_entries_keep, eq_comm]

theorem generation_onCache_occurrence (o : Occurrence) :
    (o.onCache c).generation = c.generation + o.deeds.countP Deed.evicts := by
  cases o with
  | deed d => exact generation_after [d]
  | lookUp l =>
    refine Eq.trans ?_ (generation_after l.during)
    rw [Occurrence.onCache, LookUp.onCache]
    cases l.kept? <;> rfl

/-- The generation counts the evictions of the history. -/
theorem generation_replay :
    (c.replay history).generation =
      c.generation + (history.flatMap Occurrence.deeds).countP Deed.evicts := by
  induction history generalizing c with
  | nil => rfl
  | cons o history ih =>
    rw [show c.replay (o :: history) = (o.onCache c).replay history from rfl, ih,
      generation_onCache_occurrence, List.flatMap_cons, List.countP_append, Nat.add_assoc]

/-- The history tells of a look-up that a clearance was kept from, and the identity has not been
forgotten since. -/
def Fresh (history : List Occurrence) (id : String) (clearance : Clearance) : Prop :=
  ∃ before l after, history = before ++ .lookUp l :: after ∧ l.id = id ∧
    l.kept? = some clearance ∧ ∀ o ∈ after, ∀ d ∈ o.deeds, d.forgotten? ≠ some id

theorem Fresh.append_singleton {clearance : Clearance} (h : Fresh history id clearance)
    {o : Occurrence} (spared : ∀ d ∈ o.deeds, d.forgotten? ≠ some id) :
    Fresh (history ++ [o]) id clearance := by
  obtain ⟨before, l, after, rfl, named, kept, untouched⟩ := h
  refine ⟨before, l, after ++ [o], by simp, named, kept, fun o' mem => ?_⟩
  rcases List.mem_append.1 mem with mem | mem
  · exact untouched o' mem
  · obtain rfl := List.mem_singleton.1 mem
    exact spared

/-- Deeds leave an entry only if they do not touch it. -/
theorem of_find?_entries_after (deeds : List Deed) {clearance : Clearance}
    (h : (c.after deeds).entries.find? id = some clearance) :
    c.entries.find? id = some clearance ∧ ∀ d ∈ deeds, d.forgotten? ≠ some id := by
  rw [find?_entries_after] at h
  split at h
  · contradiction
  next untouched => exact ⟨h, by simpa using untouched⟩

/-- All that a cache remembers at the end of a history is fresh. -/
theorem fresh_replay {clearance : Clearance}
    (h : (({} : Cache).replay history).entries.find? id = some clearance) :
    Fresh history id clearance := by
  induction history using List.reverseRecOn generalizing clearance with
  | nil => contradiction
  | append_singleton history o ih =>
    rw [replay_append] at h
    cases o with
    | deed d =>
      obtain ⟨old, spared⟩ := of_find?_entries_after [d] h
      exact (ih old).append_singleton spared
    | lookUp l =>
      have h := (find?_entries_lookUp l).symm.trans h
      split at h
      next own => exact ⟨history, l, [], rfl, own.1, h, by simp⟩
      next =>
        obtain ⟨old, spared⟩ := of_find?_entries_after l.during h
        exact (ih old).append_singleton spared

end Cache

namespace AccountRealm

variable {r : AccountRealm} {s t : Site (List Deed)} {name : String} {identity : Identity}

/-! ## Checks -/

theorem Passed.lookUpCount {made : List LookUp} (h : r.Passed s made t) :
    lookUpCount s t = made.length := by
  obtain ⟨added, trace, count⟩ := h.noted
  rw [Gatehouse.lookUpCount, trace, List.drop_left, count]

/-- The look-ups that a check is going to make. -/
def lookUpsDue (r : AccountRealm) (s : Site (List Deed)) (identity : Identity) : List LookUp :=
  match identity.primary? with
  | some id =>
    match r.remembered? s id with
    | some _ => []
    | none => (s.stores.get r.store).attempts id 1
  | none => []

section Due

variable {id : String}

theorem lookUpsDue_of_anonymous (h : identity.primary? = none) : r.lookUpsDue s identity = [] := by
  rw [lookUpsDue, h]

theorem lookUpsDue_of_remembered (known : identity.primary? = some id) {c : Clearance}
    (h : r.remembered? s id = some c) : r.lookUpsDue s identity = [] := by
  rw [lookUpsDue, known]
  simp only [h]

theorem lookUpsDue_of_forgotten (known : identity.primary? = some id)
    (h : r.remembered? s id = none) :
    r.lookUpsDue s identity = (s.stores.get r.store).attempts id 1 := by
  rw [lookUpsDue, known]
  simp only [h]

theorem lookUpsMade_eq_lookUpsDue (h : r.Passed s (r.lookUpsDue s identity) t) :
    r.lookUpsMade identity s t = r.lookUpsDue s identity := by
  rw [lookUpsMade, h.lookUpCount]
  cases known : identity.primary? with
  | none => rw [lookUpsDue_of_anonymous known]
  | some id =>
    cases found : r.remembered? s id with
    | some c => rw [lookUpsDue_of_remembered known found]; rfl
    | none => rw [lookUpsDue_of_forgotten known found]; exact Store.lookUps_length_attempts 1

end Due

section Asking

variable [Requestable ι] {id : String}

theorem ask_of_remembered (items : List ι) {c : Clearance} (known : identity.primary? = some id)
    (h : r.remembered? s id = some c) :
    (r.ask r.suffer identity items).run.run s = (r.answer (some c) items, s) :=
  ask_of_load known (load_of_remembered h 1)

theorem ask_of_forgotten (items : List ι)
    (watched : (s.stores.get r.store).watchedAs? = some name)
    (known : identity.primary? = some id) (forgotten : r.remembered? s id = none) :
    ∃ last t, (r.lookUpsDue s identity).getLast? = some last ∧
      (r.ask r.suffer identity items).run.run s =
        (last.outcome.bind (r.answer · items), t) ∧
      r.Passed s (r.lookUpsDue s identity) t ∧ r.remembered? t id = last.kept? := by
  obtain ⟨last, t, final, loaded, passed, kept⟩ := load_of_forgotten watched forgotten 1
  rw [lookUpsDue_of_forgotten known forgotten]
  exact ⟨last, t, final, ask_of_load known loaded, passed, kept⟩

/-- A check makes the look-ups that are due. -/
theorem passed_ask (identity : Identity) (items : List ι)
    (watched : (s.stores.get r.store).watchedAs? = some name) :
    r.Passed s (r.lookUpsDue s identity) ((r.ask r.suffer identity items).run.run s).2 := by
  cases known : identity.primary? with
  | none =>
    rw [ask_of_anonymous known, lookUpsDue_of_anonymous known]
    exact .refl r s
  | some id =>
    cases found : r.remembered? s id with
    | some c =>
      rw [ask_of_remembered items known found, lookUpsDue_of_remembered known found]
      exact .refl r s
    | none =>
      obtain ⟨last, t, -, asked, passed, -⟩ := ask_of_forgotten items watched known found
      rw [asked]
      exact passed

end Asking

/-! ## Runs -/

/-- The cache after a move is a replay of what the move adds to the history. -/
theorem cache_after_move (watched : (s.stores.get r.store).watchedAs? = some name) (m : Move) :
    (((m.perform r).run s).2.stores.get r.store).watchedAs? = some name ∧
      ((m.perform r).run s).2.caches.get r.cache =
        (s.caches.get r.cache).replay (m.occurrences r s) := by
  have asked {ι : Type} [Requestable ι] (identity : Identity) (items : List ι) :
      let t := ((r.ask r.suffer identity items).run.run s).2
      (t.stores.get r.store).watchedAs? = some name ∧
        t.caches.get r.cache =
          (s.caches.get r.cache).replay ((r.lookUpsMade identity s t).map .lookUp) := by
    have passed := r.passed_ask identity items watched
    refine ⟨passed.watched.trans watched, ?_⟩
    rw [lookUpsMade_eq_lookUpsDue passed, passed.cached, Cache.replay, List.foldl_map]
    rfl
  cases m with
  | deed d =>
    refine ⟨?_, caches_perform d⟩
    rw [Move.perform, stores_perform]
    exact (Store.watchedAs?_after _ [d]).trans watched
  | planned deeds =>
    refine ⟨?_, rfl⟩
    rw [Move.perform, run_changeStore, Arena.get_update, if_pos rfl]
    exact watched
  | permissions identity items => exact asked identity items
  | roles identity items => exact asked identity items

theorem cache_after_run (watched : (s.stores.get r.store).watchedAs? = some name)
    (moves : List Move) :
    ((r.after s moves).stores.get r.store).watchedAs? = some name ∧
      (r.after s moves).caches.get r.cache =
        (s.caches.get r.cache).replay (r.history s moves) := by
  induction moves generalizing s with
  | nil => exact ⟨watched, rfl⟩
  | cons m moves ih =>
    obtain ⟨still, cached⟩ := cache_after_move watched m
    obtain ⟨end_watched, replayed⟩ := ih still
    refine ⟨end_watched, replayed.trans ?_⟩
    rw [cached, history, Cache.replay_append]

/-! ## Answers -/

/-- How a check leads from one site to another with an outcome: without look-ups for an anonymous or
remembered identity, and otherwise by one look-up, or by two if the first finds a record that an
eviction makes stale. The last look-up is the one that is answered, and it is kept unless an
eviction races it too. -/
structure Answered [Requestable ι] (r : AccountRealm) (identity : Identity) (items : List ι)
    (s : Site (List Deed)) (outcome : Except AccessError (Verdicts ι)) (t : Site (List Deed)) :
    Prop where
  anonymous : identity.primary? = none →
    lookUpCount s t = 0 ∧ outcome = .ok (.constant false items)
  remembered : ∀ id c, identity.primary? = some id → r.remembered? s id = some c →
    lookUpCount s t = 0 ∧ outcome = Requestable.judge r c items
  forgotten : ∀ id, identity.primary? = some id → r.remembered? s id = none →
    let first := (s.stores.get r.store).nextLookUp id
    (lookUpCount s t = 1 ∨ lookUpCount s t = 2) ∧
    (lookUpCount s t = 2 ↔ (∃ a, first.found = .ok (some a)) ∧ ∃ d ∈ first.during, d.evicts) ∧
    ∃ last, (r.lookUpsMade identity s t).getLast? = some last ∧
      outcome = (match last.found with
        | .error e => .error e
        | .ok none => .ok (.constant false items)
        | .ok (some a) => Requestable.judge r a.clearance items) ∧
      r.remembered? t id = if last.raced then none else last.record?.map Account.clearance

theorem answered_ask [Requestable ι] (identity : Identity) (items : List ι)
    (watched : (s.stores.get r.store).watchedAs? = some name) :
    ∃ outcome t, (r.ask r.suffer identity items).run.run s = (outcome, t) ∧
      r.Answered identity items s outcome t := by
  have passed := r.passed_ask identity items watched
  rcases asked : (r.ask r.suffer identity items).run.run s with ⟨outcome, t⟩
  rw [asked] at passed
  have count := passed.lookUpCount
  refine ⟨outcome, t, rfl, fun anonymous => ?_, fun id c known h => ?_, fun id known h => ?_⟩
  · rw [lookUpsDue_of_anonymous anonymous] at count
    exact ⟨count, congrArg Prod.fst (asked.symm.trans (ask_of_anonymous anonymous))⟩
  · rw [lookUpsDue_of_remembered known h] at count
    exact ⟨count, congrArg Prod.fst (asked.symm.trans (ask_of_remembered items known h))⟩
  · obtain ⟨last, t', final, asked', -, kept⟩ := ask_of_forgotten items watched known h
    obtain ⟨rfl, rfl⟩ := Prod.mk.inj (asked.symm.trans asked')
    rw [← lookUpsMade_eq_lookUpsDue passed] at final
    rw [lookUpsDue_of_forgotten known h, Store.length_attempts] at count
    refine ⟨?_, ?_, last, final, ?_, kept⟩
    · rw [count]
      split
      · exact .inr rfl
      · exact .inl rfl
    · rw [count, ← LookUp.overtaken_iff]
      split
      next overtaken => exact iff_of_true rfl overtaken
      next settled => exact iff_of_false (by decide) settled
    · rw [LookUp.outcome]
      rcases last.found with e | _ | a <;> rfl

/-- In every run of a realm that begins with nothing remembered, what is remembered at the end was
read by a look-up that no eviction raced, and its identity has not been forgotten since. The
generation is the number of evictions, and every check that follows is answered by its last
look-up. -/
theorem no_eviction_is_lost (r : AccountRealm) {s₀ : Site (List Deed)} {name : String}
    (watched : (s₀.stores.get r.store).watchedAs? = some name)
    (nothing : s₀.caches.get r.cache = {}) (moves : List Move) :
    let s := r.after s₀ moves
    (∀ id c, r.remembered? s id = some c →
      ∃ before l after a, r.history s₀ moves = before ++ .lookUp l :: after ∧ l.id = id ∧
        l.found = .ok (some a) ∧ c = a.clearance ∧ (∀ d ∈ l.during, d.evicts = false) ∧
        ∀ o ∈ after, ∀ d ∈ o.deeds, d.forgotten? ≠ some id) ∧
    r.generation s = ((r.history s₀ moves).flatMap Occurrence.deeds).countP Deed.evicts ∧
    ∀ (ι : Type) [Requestable ι] (identity : Identity) (items : List ι),
      ∃ outcome t, (r.ask r.suffer identity items).run.run s = (outcome, t) ∧
        r.Answered identity items s outcome t := by
  intro s
  obtain ⟨watched, cached⟩ := cache_after_run watched moves
  rw [nothing] at cached
  refine ⟨fun id c h => ?_, ?_, fun ι _ identity items => answered_ask identity items watched⟩
  · rw [remembered?, cached] at h
    obtain ⟨before, l, after, told, named, kept, untouched⟩ := Cache.fresh_replay h
    obtain ⟨calm, a, found, rfl⟩ := LookUp.kept?_eq_some_iff.1 kept
    exact ⟨before, l, after, a, told, named, found, rfl, by simpa [LookUp.raced] using calm,
      untouched⟩
  · rw [generation, cached, Cache.generation_replay]
    exact Nat.zero_add _

/-- A revocation that races the load of an account is what the realm remembers. -/
theorem no_eviction_is_lost_of_revocation :
    let alice : Identity := ⟨[⟨"accounts", "alice"⟩]⟩
    let editor := Account.ofLists ["editor"] ["doc:read,write"]
    let viewer := Account.ofLists ["viewer"] ["doc:read"]
    let r : AccountRealm := { label := "accounts", store := 0, cache := 0 }
    let store : Store (List Deed) :=
      { accounts := SortedMap.empty.insert "alice" editor, watchedAs? := some "users" }
    let s₀ : Site (List Deed) := { stores := ({} : Arena _).push store }
    let moves :=
      [.planned [.change (·.insert "alice" viewer), .clear alice], .roles alice ["editor"]]
    r.remembered? (r.after s₀ moves) "alice" = some viewer.clearance ∧
      ∃ before l after a, r.history s₀ moves = before ++ .lookUp l :: after ∧ l.id = "alice" ∧
        l.found = .ok (some a) ∧ viewer.clearance = a.clearance ∧
        (∀ d ∈ l.during, d.evicts = false) ∧
        ∀ o ∈ after, ∀ d ∈ o.deeds, d.forgotten? ≠ some "alice" := by
  intro alice editor viewer r store s₀ moves
  have watched : (s₀.stores.get r.store).watchedAs? = some "users" := rfl
  have remembered : r.remembered? (r.after s₀ moves) "alice" = some viewer.clearance := by
    decide +kernel
  exact ⟨remembered, (no_eviction_is_lost r watched rfl moves).1 "alice" _ remembered⟩

end AccountRealm

end Gatehouse
