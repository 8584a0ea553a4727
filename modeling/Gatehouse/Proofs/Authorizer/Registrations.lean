import Gatehouse.Proofs.Site.Running
import Gatehouse.Site.Authorizer

/-!
# Registrations under reserved names

Authorizers listen under two names of their own. `Bus.reserved` is what a bus holds under these names
for a topic. An authorizer that enters a bus leaves there one registration for each of its topics, in
the place of an earlier one (`reserved_enter`), and none when it leaves (`reserved_leave`); nobody else
changes that by registering under another name.
-/

namespace Gatehouse

open Site

variable {σ η : Type} {s : Site σ}

/-- Authorizers listen under this name. -/
def CacheListener.isReserved (name : String) : Bool := all.any (·.name = name)

theorem CacheListener.isReserved_name (listener : CacheListener) :
    isReserved listener.name = true := by
  cases listener <;> decide

/-- The listener of an authorizer for a topic. -/
def Topic.cacheListener? : Topic → Option CacheListener
  | sessionStop | sessionExpire => some .session
  | authenticationSucceeded => some .authentication
  | authorizationGranted | authorizationDenied | authorizationResults => none

/-- What an authorizer with these realms registers for a topic. -/
def Topic.cacheRegistrations (topic : Topic) (realms : List Realm) :
    List (Registration (Handler σ)) :=
  match topic.cacheListener? with
  | some listener => [{ topic, listener := listener.name, handler := .clear listener realms }]
  | none => []

theorem Topic.length_cacheRegistrations_le {topic : Topic} {realms : List Realm} :
    (topic.cacheRegistrations realms : List (Registration (Handler σ))).length ≤ 1 := by
  cases topic <;> simp [cacheRegistrations, cacheListener?]

theorem Registration.eq_and_eq_of_belongs {r : Registration η} {listener : String} {topic : Topic}
    (h : r.belongs listener topic) : r.topic = topic ∧ r.listener = listener := by
  simpa only [belongs, Bool.and_eq_true, decide_eq_true_eq] using h

namespace Bus

/-! ## Filtered registrations -/

section Register

variable {r : Registration η} {p : Registration η → Bool}

/-- A registration in which one is not interested changes nothing. -/
theorem filter_register_of_neg (alike : ∀ q, q.belongs r.listener r.topic → p q = p r)
    (h : p r = false) (l : List (Registration η)) : (register r l).filter p = l.filter p := by
  induction l with
  | nil => simp [register, h]
  | cons q rest ih =>
    rw [register]
    split
    next same => simp [h, (alike q same).trans h]
    next => simp only [List.filter_cons, ih]

theorem filter_register_of_pos (alike : ∀ q, q.belongs r.listener r.topic → p q = p r)
    (h : p r = true) (l : List (Registration η)) :
    (register r l).filter p = register r (l.filter p) := by
  induction l with
  | nil => simp [register, h]
  | cons q rest ih =>
    rw [register]
    split
    next same =>
      have kept : p q = true := (alike q same).trans h
      rw [List.filter_cons_of_pos h, List.filter_cons_of_pos kept, register, if_pos same]
    next other =>
      by_cases kept : p q = true
      · rw [List.filter_cons_of_pos kept, List.filter_cons_of_pos kept, register, if_neg other, ih]
      · rw [List.filter_cons_of_neg kept, List.filter_cons_of_neg kept, ih]

end Register

/-! ## Reserved names -/

/-- The registrations for a topic under reserved names. -/
def reserved (b : Bus η) (topic : Topic) : List (Registration η) :=
  (b.listening topic).filter (CacheListener.isReserved ·.listener)

theorem mem_reserved_iff {b : Bus η} {topic : Topic} {r : Registration η} :
    r ∈ b.reserved topic ↔
      r ∈ b.registrations ∧ r.topic = topic ∧ CacheListener.isReserved r.listener := by
  simp only [reserved, listening, List.mem_filter, decide_eq_true_eq, and_assoc]

theorem reserved_eq_filter {b : Bus η} {topic : Topic} :
    b.reserved topic = b.registrations.filter fun r =>
      r.topic = topic && CacheListener.isReserved r.listener := by
  simp [reserved, listening, List.filter_filter, Bool.and_comm]

/-- The registrations for a topic under other names. -/
def others (b : Bus η) (topic : Topic) : List (Registration η) :=
  (b.listening topic).filter (!CacheListener.isReserved ·.listener)

theorem others_eq_filter {b : Bus η} {topic : Topic} :
    b.others topic = b.registrations.filter fun r =>
      r.topic = topic && !CacheListener.isReserved r.listener := by
  simp [others, listening, List.filter_filter, Bool.and_comm]

theorem others_of_reserved_eq_nil {b : Bus η} {topic : Topic} (h : b.reserved topic = []) :
    b.others topic = b.listening topic := by
  rw [others, List.filter_eq_self]
  intro r mem
  have := List.filter_eq_nil_iff.1 h r mem
  simpa using this

theorem count_eq (b : Bus η) (topic : Topic) :
    b.count topic = (b.reserved topic).length + (b.others topic).length := by
  simp only [count, reserved, others, ← List.countP_eq_length_filter]
  simpa using List.length_eq_countP_add_countP fun r : Registration η =>
    CacheListener.isReserved r.listener

theorem reserved_subscribe {b : Bus η} {listener : String} {topic u : Topic} {handler : η} :
    (b.subscribe listener topic handler).reserved u =
      if topic = u ∧ CacheListener.isReserved listener then
        register { topic, listener, handler } (b.reserved u)
      else b.reserved u := by
  have alike (q : Registration η) (same : q.belongs listener topic) :
      (q.topic = u && CacheListener.isReserved q.listener) =
        (topic = u && CacheListener.isReserved listener) := by
    obtain ⟨rfl, rfl⟩ := q.eq_and_eq_of_belongs same
    rfl
  rw [reserved_eq_filter, reserved_eq_filter, subscribe]
  split
  next own => exact filter_register_of_pos alike (by simpa using own) _
  next other => exact filter_register_of_neg alike (by simpa using other) _

theorem reserved_unsubscribe {b : Bus η} {listener : String} {topic u : Topic} :
    (b.unsubscribe listener topic).reserved u =
      (b.reserved u).filter fun r => !r.belongs listener topic := by
  simp only [reserved, listening_unsubscribe, List.filter_filter, Bool.and_comm]

/-- Who registers under another name does not matter. -/
theorem reserved_subscribe_of_other {b : Bus η} {listener : String} {topic u : Topic} {handler : η}
    (other : CacheListener.isReserved listener = false) :
    (b.subscribe listener topic handler).reserved u = b.reserved u := by
  simp [reserved_subscribe, other]

theorem others_subscribe_of_reserved {b : Bus η} {listener : String} {topic u : Topic} {handler : η}
    (own : CacheListener.isReserved listener = true) :
    (b.subscribe listener topic handler).others u = b.others u := by
  rw [others_eq_filter, others_eq_filter, subscribe]
  refine filter_register_of_neg (fun q same => ?_) (by simp [own]) _
  obtain ⟨rfl, rfl⟩ := q.eq_and_eq_of_belongs same
  rfl

/-! ## Entering and leaving -/

/-- The bus once an authorizer with these realms has entered it. -/
def enter (realms : List Realm) (b : Bus (Handler σ)) : Bus (Handler σ) :=
  CacheListener.registrations.foldl (fun b r => b.subscribe r.1.name r.2 (.clear r.1 realms)) b

/-- The bus once the authorizer has left it. -/
def leave (b : Bus (Handler σ)) : Bus (Handler σ) :=
  CacheListener.registrations.foldl (fun b r => b.unsubscribe r.1.name r.2) b

/-- One authorizer at most is registered for the topic, and under the name that is for it. -/
def Orderly (b : Bus (Handler σ)) (topic : Topic) : Prop :=
  b.reserved topic = [] ∨ ∃ realms, b.reserved topic = topic.cacheRegistrations realms

variable {b : Bus (Handler σ)} {topic : Topic}

/-- Who enters takes the place of who was there before. -/
theorem reserved_enter (orderly : b.Orderly topic) (realms : List Realm) :
    (b.enter realms).reserved topic = topic.cacheRegistrations realms := by
  rcases orderly with none | ⟨old, one⟩
  · cases topic <;>
      simp_all [enter, CacheListener.registrations, CacheListener.all, CacheListener.topics,
        reserved_subscribe, CacheListener.isReserved_name, Topic.cacheRegistrations,
        Topic.cacheListener?, register]
  · cases topic <;>
      simp_all [enter, CacheListener.registrations, CacheListener.all, CacheListener.topics,
        reserved_subscribe, CacheListener.isReserved_name, Topic.cacheRegistrations,
        Topic.cacheListener?, register, Registration.belongs]

/-- Who enters does not disturb the others. -/
theorem others_enter (realms : List Realm) : (b.enter realms).others topic = b.others topic := by
  rw [enter]
  generalize CacheListener.registrations = registrations
  induction registrations generalizing b with
  | nil => rfl
  | cons r registrations ih =>
    rw [List.foldl_cons, ih, others_subscribe_of_reserved (CacheListener.isReserved_name r.1)]

theorem reserved_leave (orderly : b.Orderly topic) : b.leave.reserved topic = [] := by
  rcases orderly with none | ⟨old, one⟩
  · simp [leave, CacheListener.registrations, CacheListener.all, CacheListener.topics,
      reserved_unsubscribe, none]
  · cases topic <;>
      simp_all [leave, CacheListener.registrations, CacheListener.all, CacheListener.topics,
        reserved_unsubscribe, Topic.cacheRegistrations, Topic.cacheListener?,
        Registration.belongs]

end Bus

/-! ## On a site -/

theorem Site.buses_forM_changeBus {β : Type} (f : β → Bus (Handler σ) → Bus (Handler σ))
    (l : List β) (bus other : Nat) :
    ((l.forM fun x => changeBus bus (f x)).run s).2.buses.get other =
      if other = bus then l.foldl (fun b x => f x b) (s.buses.get bus) else s.buses.get other := by
  induction l generalizing s with
  | nil =>
    rw [Action.run_forM_nil]
    split
    next same => rw [same]; rfl
    next => rfl
  | cons x l ih =>
    have changed (n : Nat) : ((changeBus bus (f x)).run s).2.buses.get n =
        if n = bus then f x (s.buses.get bus) else s.buses.get n := Arena.get_update
    rw [Action.run_forM_cons, ih, changed, changed, if_pos rfl]
    split <;> rfl

namespace Authorizer

theorem buses_subscribeOn (realms : List Realm) (bus other : Nat) :
    ((subscribeOn realms bus : Action σ Unit).run s).2.buses.get other =
      if other = bus then (s.buses.get bus).enter realms else s.buses.get other :=
  buses_forM_changeBus _ _ _ _

theorem buses_unsubscribeFrom (bus other : Nat) :
    ((unsubscribeFrom bus : Action σ Unit).run s).2.buses.get other =
      if other = bus then (s.buses.get bus).leave else s.buses.get other :=
  buses_forM_changeBus _ _ _ _

variable {a : Authorizer}

theorem setRealms_eq {realms : List Realm} {s : Site σ} :
    ((a.setRealms realms : Action σ Authorizer).run s).1 = { a with realms? := some realms } := by
  obtain ⟨_ | _, _ | _⟩ := a <;> rfl

theorem setBus_eq {bus : Nat} {s : Site σ} :
    ((a.setBus bus : Action σ Authorizer).run s).1 = { a with bus? := some bus } := by
  obtain ⟨_ | _, _ | _⟩ := a <;> rfl

end Authorizer

end Gatehouse
