import Gatehouse.Proofs.Authorizer.Delivery
import Gatehouse.Proofs.Authorizer.Rounds
import Gatehouse.Proofs.Clearance.Filing
import Gatehouse.Proofs.Realm.Loading

/-!
# Undisturbed work

From one site to another nothing disturbs the realms (`Site.Undisturbed`) if no record changes and
no cache is made to forget. Questions and authorization events do not, as long as the scripts that
they set off do not either (`undisturbed_ask`, `undisturbed_publishAll`). What a realm once knew of
an identity it then knows for good (`AccountRealm.Knows`), and answers accordingly.
-/

namespace Gatehouse

open Site

variable {σ : Type} {run : σ → Action σ Unit} {K : σ → Prop} {behind : Nat → Nat} {s t u : Site σ}

/-! ## Sites -/

/-- Every script on the site is of a certain kind: those that are queued in stores, and those of
listeners. -/
structure Site.Scripted (K : σ → Prop) (s : Site σ) : Prop where
  queued : ∀ store, ∀ script ∈ (s.stores.get store).queue, K script
  heard : ∀ bus, ∀ r ∈ (s.buses.get bus).registrations, ∀ script,
    r.handler = .script script → K script.actions

/-- All records are as they were, and nothing has been forgotten. What caches remember in addition
are the clearances of records in the stores behind them, and new scripts are of the same kind. -/
structure Site.Undisturbed (K : σ → Prop) (behind : Nat → Nat) (s t : Site σ) : Prop where
  records : ∀ store, (t.stores.get store).accounts = (s.stores.get store).accounts
  generations : ∀ cache, (t.caches.get cache).generation = (s.caches.get cache).generation
  retained : ∀ cache id c, (s.caches.get cache).entries.find? id = some c →
    (t.caches.get cache).entries.find? id = some c
  added : ∀ cache id c, (t.caches.get cache).entries.find? id = some c →
    (s.caches.get cache).entries.find? id = some c ∨
      ∃ account, (s.stores.get (behind cache)).accounts.find? id = some account ∧
        c = account.clearance
  scripted : t.Scripted K

/-- Scripts of this kind disturb nothing. -/
def Calm (run : σ → Action σ Unit) (K : σ → Prop) (behind : Nat → Nat) : Prop :=
  ∀ script, K script → ∀ s : Site σ, s.Scripted K → s.Undisturbed K behind ((run script).run s).2

namespace Site

theorem Scripted.congr (h : s.Scripted K) (stores : t.stores = s.stores)
    (buses : t.buses = s.buses) : t.Scripted K := ⟨stores ▸ h.queued, buses ▸ h.heard⟩

theorem Scripted.heard_listening (h : s.Scripted K) (bus : Nat) (topic : Topic) :
    ∀ target ∈ (s.buses.get bus).listening topic, ∀ script,
      target.handler = .script script → K script.actions :=
  fun target mem => h.heard bus target (List.mem_filter.1 mem).1

theorem Alike.undisturbed (h : s.Alike t) (scripted : s.Scripted K) : s.Undisturbed K behind t where
  records _ := by rw [h.stores]
  generations _ := by rw [h.caches]
  retained _ _ _ := by rw [h.caches]; exact id
  added _ _ _ := by rw [h.caches]; exact .inl
  scripted := scripted.congr h.stores h.buses

namespace Undisturbed

theorem refl (scripted : s.Scripted K) : s.Undisturbed K behind s :=
  Alike.undisturbed ⟨rfl, rfl, rfl⟩ scripted

theorem trans (h : s.Undisturbed K behind t) (after : t.Undisturbed K behind u) :
    s.Undisturbed K behind u where
  records store := (after.records store).trans (h.records store)
  generations cache := (after.generations cache).trans (h.generations cache)
  retained cache id c found := after.retained cache id c (h.retained cache id c found)
  added cache id c found := by
    rcases after.added cache id c found with before | ⟨account, recorded, eq⟩
    · exact h.added cache id c before
    · exact .inr ⟨account, h.records (behind cache) ▸ recorded, eq⟩
  scripted := after.scripted

end Undisturbed

/-! ## Events -/

/-- Whatever a listener is told of an authorization, it makes nobody forget anything. -/
theorem undisturbed_notify (calm : Calm run K behind) {handler : Handler σ}
    (kind : ∀ script, handler = .script script → K script.actions) (topic : Topic)
    (notice : AuthorizationNotice) (scripted : s.Scripted K) :
    s.Undisturbed K behind ((handler.notify run ⟨topic, .authorization notice⟩).run s).2 := by
  cases handler with
  | clear listener realms =>
    have warned : s.Alike (((Handler.clear listener realms).notify run
        ⟨topic, .authorization notice⟩).run s).2 := by
      cases listener <;> exact ⟨rfl, rfl, rfl⟩
    exact warned.undisturbed scripted
  | script script =>
    let counted : Site σ := { s with
      trace := s.trace ++ [.delivered script.tag ⟨topic, .authorization notice⟩]
      deliveries := s.deliveries.set script.counter (s.deliveries.get script.counter + 1) }
    have alike : s.Alike counted := ⟨rfl, rfl, rfl⟩
    have begun : s.Undisturbed K behind counted := alike.undisturbed scripted
    have ran : (((Handler.script script).notify run ⟨topic, .authorization notice⟩).run s).2 =
        ((if s.deliveries.get script.counter < script.times then run script.actions
          else return () : Action σ Unit).run counted).2 := rfl
    rw [ran]
    split
    · exact begun.trans (calm _ (kind script rfl) counted begun.scripted)
    · exact begun

theorem undisturbed_notifyAll (calm : Calm run K behind) {targets : List (Registration (Handler σ))}
    (kind : ∀ target ∈ targets, ∀ script, target.handler = .script script → K script.actions)
    (topic : Topic) (notice : AuthorizationNotice) (scripted : s.Scripted K) :
    s.Undisturbed K behind ((notifyAll run targets ⟨topic, .authorization notice⟩).run s).2 := by
  have keeps : (notifyAll run targets ⟨topic, .authorization notice⟩).Keeps
      (s.Undisturbed K behind) :=
    .forM fun target mem t reached =>
      reached.trans (undisturbed_notify calm (kind target mem) topic notice reached.scripted)
  exact keeps s (.refl scripted)

theorem undisturbed_publishAll (calm : Calm run K behind) (bus : Nat) {messages : List Message}
    (kind : ∀ message ∈ messages, ∃ notice, message.payload = .authorization notice)
    (scripted : s.Scripted K) :
    s.Undisturbed K behind ((Authorizer.publishAll run bus messages).run s).2 := by
  have keeps : (Authorizer.publishAll run bus messages).Keeps (s.Undisturbed K behind) := by
    refine .forM fun message mem t reached => ?_
    obtain ⟨topic, _⟩ := message
    obtain ⟨notice, rfl⟩ := kind _ mem
    have heard := reached.scripted.heard_listening bus topic
    exact reached.trans (undisturbed_notifyAll calm heard topic notice reached.scripted)
  exact keeps s (.refl scripted)

/-! ## Look-ups -/

/-- That a script is taken from its queue does not matter. -/
theorem undisturbed_dequeue (scripted : s.Scripted K) {store : Nat} {script : σ} {queue : List σ}
    (stored : (s.stores.get store).queue = script :: queue) :
    s.Undisturbed K behind
      { s with stores := s.stores.update store fun s => { s with queue } } where
  records other := by
    rw [Arena.get_update]
    split
    next same => rw [same]
    next => rfl
  generations _ := rfl
  retained _ _ _ found := found
  added _ _ _ found := .inl found
  scripted := by
    refine ⟨fun other => ?_, scripted.heard⟩
    rw [Arena.get_update]
    split
    next same =>
      intro later mem
      exact scripted.queued store later (by simp [stored, mem])
    next => exact scripted.queued other

theorem undisturbed_lookUp (calm : Calm run K behind) (store : Nat) (id : String)
    (scripted : s.Scripted K) : s.Undisturbed K behind ((lookUp run store id).run.run s).2 := by
  have alike := s.alike_noting (s.stores.get store).watchedAs? id
  have begun : s.Undisturbed K behind (s.noting (s.stores.get store).watchedAs? id) :=
    alike.undisturbed scripted
  rw [run_lookUp]
  dsimp only
  split
  · exact begun
  · dsimp only
    split
    · exact begun
    next script queue stored =>
      have own : K script := scripted.queued store script (by simp [stored])
      have taken := begun.trans (undisturbed_dequeue begun.scripted (alike.stores ▸ stored))
      exact taken.trans (calm script own _ taken.scripted)

theorem fst_run_lookUp (run : σ → Action σ Unit) (store : Nat) (id : String) (s : Site σ) :
    ((lookUp run store id).run.run s).1 =
      match (s.stores.get store).outage? with
      | some error => .error error
      | none => .ok ((s.stores.get store).accounts.find? id) := by
  rw [run_lookUp]
  dsimp only
  cases (s.stores.get store).outage? <;> rfl

end Site

/-! ## Loads -/

namespace AccountRealm

variable {r : AccountRealm} {id : String}

/-- What a load comes to where nothing disturbs it: what it gives is remembered afterwards, and
otherwise the account is unknown or the store out of order. -/
inductive Settled (r : AccountRealm) (id : String) (s t : Site σ) :
    Except AccessError (Option Clearance) → Prop
  | known {c : Clearance} (remembered : r.remembered? t id = some c) :
    Settled r id s t (.ok (some c))
  | unknown (forgotten : r.remembered? s id = none)
      (unrecorded : (s.stores.get r.store).accounts.find? id = none)
      (working : (s.stores.get r.store).outage? = none) : Settled r id s t (.ok none)
  | failed {e : AccessError} (forgotten : r.remembered? s id = none)
      (outage : (s.stores.get r.store).outage? = some e) : Settled r id s t (.error e)

/-- What has been loaded meanwhile is added to what the cache remembers. -/
theorem undisturbed_keep {a : Account} (h : s.Undisturbed K behind t)
    (fed : behind r.cache = r.store) (forgotten : r.remembered? s id = none)
    (recorded : (s.stores.get r.store).accounts.find? id = some a) :
    s.Undisturbed K behind
      { t with caches := t.caches.update r.cache (·.keep id a.clearance) } where
  records := h.records
  generations cache := by
    rw [Arena.get_update]
    split
    next same => exact same ▸ h.generations r.cache
    next => exact h.generations cache
  retained cache other c found := by
    have apart : ¬ (cache = r.cache ∧ other = id) := by
      rintro ⟨rfl, rfl⟩
      rw [remembered?, found] at forgotten
      contradiction
    rw [Arena.find?_entries_keep, if_neg apart]
    exact h.retained cache other c found
  added cache other c found := by
    rw [Arena.find?_entries_keep] at found
    split at found
    next own =>
      obtain ⟨rfl, rfl⟩ := own
      cases found
      exact .inr ⟨a, fed ▸ recorded, rfl⟩
    next => exact h.added cache other c found
  scripted := ⟨h.scripted.queued, h.scripted.heard⟩

theorem exists_run_load (calm : Calm run K behind) (fed : behind r.cache = r.store) (id : String)
    (retries : Nat) (scripted : s.Scripted K) :
    ∃ outcome t, (r.load run id retries).run.run s = (outcome, t) ∧
      s.Undisturbed K behind t ∧ r.Settled id s t outcome := by
  cases remembered : r.remembered? s id with
  | some c =>
    exact ⟨_, _, load_of_remembered remembered retries, .refl scripted, .known remembered⟩
  | none =>
    have looked := undisturbed_lookUp calm r.store id scripted
    have found := fst_run_lookUp run r.store id s
    rcases ran : (lookUp run r.store id).run.run s with ⟨outcome, t⟩
    rw [ran] at looked found
    dsimp only at looked found
    cases outage : (s.stores.get r.store).outage? with
    | some e =>
      rw [found, outage] at ran
      exact ⟨_, _, load_of_error remembered ran retries, looked, .failed remembered outage⟩
    | none =>
      rw [found, outage] at ran
      cases recorded : (s.stores.get r.store).accounts.find? id with
      | none =>
        rw [recorded] at ran
        exact ⟨_, _, load_of_unknown remembered ran retries, looked,
          .unknown remembered recorded outage⟩
      | some a =>
        rw [recorded] at ran
        have warned : t.Alike ((warnUnfiled a.grants : Action σ Unit).run t).2 := by
          rw [run_warnUnfiled]
          exact ⟨rfl, rfl, rfl⟩
        have loaded := looked.trans (warned.undisturbed looked.scripted)
        -- nobody was forgotten during the look-up, so what it has found is kept
        have unmoved : r.generation t = r.generation s := looked.generations r.cache
        refine ⟨_, _, (load_of_found remembered ran retries).trans (if_pos unmoved),
          undisturbed_keep loaded fed remembered recorded, .known ?_⟩
        rw [remembered?, Arena.find?_entries_keep, if_pos ⟨rfl, rfl⟩]

/-! ## Answers -/

/-- What the realm answers an identity by: the clearance that it remembers, or none if the identity
is anonymous or neither remembered nor on record. -/
inductive Knows (r : AccountRealm) (identity : Identity) (s : Site σ) : Option Clearance → Prop
  | anonymous (anonymous : identity.primary? = none) : Knows r identity s none
  | stranger {id : String} (known : identity.primary? = some id)
      (forgotten : r.remembered? s id = none)
      (unrecorded : (s.stores.get r.store).accounts.find? id = none) : Knows r identity s none
  | known {id : String} {c : Clearance} (known : identity.primary? = some id)
      (remembered : r.remembered? s id = some c) : Knows r identity s (some c)

variable {identity : Identity} {c? : Option Clearance}

theorem stranger_after (h : s.Undisturbed K behind t) (fed : behind r.cache = r.store)
    (forgotten : r.remembered? s id = none)
    (unrecorded : (s.stores.get r.store).accounts.find? id = none) :
    r.remembered? t id = none ∧ (t.stores.get r.store).accounts.find? id = none := by
  refine ⟨?_, (congrArg (·.find? id) (h.records r.store)).trans unrecorded⟩
  cases found : r.remembered? t id with
  | none => rfl
  | some c =>
    rcases h.added r.cache id c found with before | ⟨account, recorded, -⟩
    · rw [remembered?, before] at forgotten
      contradiction
    · rw [fed, unrecorded] at recorded
      contradiction

/-- What a realm knows it goes on knowing. -/
theorem Knows.after (h : s.Undisturbed K behind t) (fed : behind r.cache = r.store)
    (knows : r.Knows identity s c?) : r.Knows identity t c? := by
  cases knows with
  | anonymous anonymous => exact .anonymous anonymous
  | stranger known forgotten unrecorded =>
    obtain ⟨still, stranger⟩ := stranger_after h fed forgotten unrecorded
    exact .stranger known still stranger
  | known known remembered => exact .known known (h.retained r.cache _ _ remembered)

variable {ι : Type} [Requestable ι] {items : List ι}

theorem undisturbed_ask (calm : Calm run K behind) (fed : behind r.cache = r.store)
    (identity : Identity) (items : List ι) (scripted : s.Scripted K) :
    s.Undisturbed K behind ((r.ask run identity items).run.run s).2 := by
  cases known : identity.primary? with
  | none =>
    rw [ask_of_anonymous known]
    exact .refl scripted
  | some id =>
    obtain ⟨outcome, t, loaded, undisturbed, -⟩ := exists_run_load calm fed id 1 scripted
    rw [ask_of_load known loaded]
    exact undisturbed

/-- Asked since the first site, the realm has answered, and knows by what. If it had to look in its
store, that was in order. -/
structure Replied (K : σ → Prop) (behind : Nat → Nat) (r : AccountRealm) (identity : Identity)
    (items : List ι) (verdicts : Verdicts ι) (s t : Site σ) (c? : Option Clearance) : Prop where
  knows : r.Knows identity t c?
  answers : r.answer c? items = .ok verdicts
  looked : c? = none → identity.primary? ≠ none →
    ∃ u, s.Undisturbed K behind u ∧ (u.stores.get r.store).outage? = none

theorem Replied.before {verdicts : Verdicts ι}
    (h : r.Replied K behind identity items verdicts t u c?) (earlier : s.Undisturbed K behind t) :
    r.Replied K behind identity items verdicts s u c? where
  knows := h.knows
  answers := h.answers
  looked unknown named := by
    obtain ⟨v, meanwhile, working⟩ := h.looked unknown named
    exact ⟨v, earlier.trans meanwhile, working⟩

theorem Replied.after {verdicts : Verdicts ι}
    (h : r.Replied K behind identity items verdicts s t c?) (later : t.Undisturbed K behind u)
    (fed : behind r.cache = r.store) : r.Replied K behind identity items verdicts s u c? :=
  ⟨h.knows.after later fed, h.answers, h.looked⟩

theorem exists_replied_of_ask (calm : Calm run K behind) (fed : behind r.cache = r.store)
    {verdicts : Verdicts ι} (asked : (r.ask run identity items).run.run s = (.ok verdicts, t))
    (scripted : s.Scripted K) : ∃ c?, r.Replied K behind identity items verdicts s t c? := by
  cases known : identity.primary? with
  | none =>
    rw [ask_of_anonymous known] at asked
    exact ⟨none, .anonymous known, congrArg Prod.fst asked, fun _ named => absurd known named⟩
  | some id =>
    obtain ⟨outcome, u, loaded, undisturbed, settled⟩ := exists_run_load calm fed id 1 scripted
    rw [ask_of_load known loaded] at asked
    obtain ⟨answered, rfl⟩ := Prod.mk.inj asked
    cases settled with
    | known remembered => exact ⟨_, .known known remembered, answered, nofun⟩
    | unknown forgotten unrecorded working =>
      obtain ⟨still, stranger⟩ := stranger_after undisturbed fed forgotten unrecorded
      exact ⟨none, .stranger known still stranger, answered,
        fun _ _ => ⟨s, .refl scripted, working⟩⟩
    | failed => contradiction

/-- A realm answers by what it knows, unless it has to look in a store that is out of order. -/
theorem ask_of_knows (calm : Calm run K behind) (fed : behind r.cache = r.store)
    (knows : r.Knows identity s c?) (items : List ι) (scripted : s.Scripted K) :
    ((r.ask run identity items).run.run s).1 = r.answer c? items ∨
      c? = none ∧ identity.primary? ≠ none ∧
        ∃ e, ((r.ask run identity items).run.run s).1 = .error e ∧
          (s.stores.get r.store).outage? = some e := by
  cases knows with
  | anonymous anonymous =>
    rw [ask_of_anonymous anonymous]
    exact .inl rfl
  | stranger known forgotten unrecorded =>
    obtain ⟨outcome, t, loaded, undisturbed, settled⟩ := exists_run_load calm fed _ 1 scripted
    rw [ask_of_load known loaded]
    cases settled with
    | known remembered =>
      rw [(stranger_after undisturbed fed forgotten unrecorded).1] at remembered
      contradiction
    | unknown => exact .inl rfl
    | failed _ outage => exact .inr ⟨rfl, by simp [known], _, rfl, outage⟩
  | known known remembered =>
    rw [ask_of_load known (load_of_remembered remembered 1)]
    exact .inl rfl

end AccountRealm

end Gatehouse
