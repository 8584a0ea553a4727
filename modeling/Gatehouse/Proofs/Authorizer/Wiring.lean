import Gatehouse.Proofs.Authorizer.Delivery

/-!
# Setting up an authorizer

The realms and the bus of an authorizer are replaced as often as one likes, and its listeners are
registered in between. After each replacement its present bus, if it has realms, carries one
registration for each of its topics, for the present realms, and no other bus carries any
(`Authorizer.Wired`). So what is sent on the present bus makes the present realms forget once, and no
others (`clears_current_realms_once`).
-/

namespace Gatehouse

open Site

variable {σ : Type} {a : Authorizer} {s t : Site σ}

/-! ## The work of others -/

/-- The operation neither registers nor removes anybody under a reserved name. -/
def Action.SparesReserved {α : Type} (work : Action σ α) : Prop :=
  ∀ s bus topic, ((work.run s).2.buses.get bus).reserved topic = (s.buses.get bus).reserved topic

theorem Action.SparesReserved.changeBus {f : Bus (Handler σ) → Bus (Handler σ)}
    (spares : ∀ b topic, (f b).reserved topic = b.reserved topic) (bus : Nat) :
    (changeBus bus f).SparesReserved := by
  intro s other topic
  have changed : ((Site.changeBus bus f).run s).2.buses.get other =
      if other = bus then f (s.buses.get bus) else s.buses.get other := Arena.get_update
  rw [changed]
  split
  next same => rw [spares, same]
  next => rfl

namespace Authorizer

/-! ## Steps -/

/-- What is done to an authorizer, or beside it under other names. -/
inductive Tuning (σ : Type) where
  | setRealms (realms : List Realm)
  | setBus (bus : Nat)
  | register
  | aside (work : Action σ Unit) (spares : work.SparesReserved)

namespace Tuning

/-- Does it, and gives the authorizer as it is afterwards. -/
def perform (a : Authorizer) : Tuning σ → Action σ Authorizer
  | setRealms realms => a.setRealms realms
  | setBus bus => a.setBus bus
  | register => do
    let _ ← a.register.run
    return a
  | aside work _ => do
    work
    return a

end Tuning

/-- What becomes of a new authorizer. -/
def tune (tunings : List (Tuning σ)) : Action σ Authorizer := tunings.foldlM Tuning.perform {}

/-! ## One step -/

/-- Only the present bus carries registrations of the authorizer, and all of them for its present
realms. Before it has realms there may be none. -/
structure Wired (a : Authorizer) (s : Site σ) : Prop where
  elsewhere : ∀ bus, a.bus? ≠ some bus → ∀ topic, (s.buses.get bus).reserved topic = []
  here : ∀ bus, a.bus? = some bus →
    (∀ topic, (s.buses.get bus).reserved topic = topic.cacheRegistrations a.realms) ∨
      a.realms? = none ∧ ∀ topic, (s.buses.get bus).reserved topic = []

namespace Wired

theorem orderly (h : a.Wired s) (bus : Nat) (topic : Topic) :
    (s.buses.get bus).Orderly topic := by
  by_cases present : a.bus? = some bus
  · rcases h.here bus present with entered | ⟨-, vacant⟩
    · exact .inr ⟨a.realms, entered topic⟩
    · exact .inl (vacant topic)
  · exact .inl (h.elsewhere bus present topic)

/-- On the bus on which it stands, or on any if it stands on none, the registrations of an authorizer
take the place of what was there of it. -/
theorem subscribeOn (h : a.Wired s) {bus : Nat} (only : ∀ other, a.bus? = some other → other = bus)
    (realms : List Realm) :
    Wired ⟨some realms, some bus⟩ ((Authorizer.subscribeOn realms bus).run s).2 where
  elsewhere other apart topic := by
    have apart : other ≠ bus := fun same => apart (congrArg some same.symm)
    rw [buses_subscribeOn, if_neg apart]
    exact h.elsewhere other (fun own => apart (only other own)) topic
  here other own := by
    obtain rfl : bus = other := Option.some.inj own
    refine .inl fun topic => ?_
    rw [buses_subscribeOn, if_pos rfl]
    exact Bus.reserved_enter (h.orderly bus topic) realms

theorem setRealms (h : a.Wired s) (realms : List Realm) :
    Wired { a with realms? := some realms } ((a.setRealms realms).run s).2 := by
  obtain ⟨old, _ | bus⟩ := a
  · exact ⟨h.elsewhere, nofun⟩
  · exact h.subscribeOn (fun _ own => (Option.some.inj own).symm) realms

/-- To register without realms leaves registrations for none. -/
theorem register (h : a.Wired s) : Wired a (a.register.run.run s).2 := by
  obtain ⟨realms?, _ | bus⟩ := a
  · exact h
  · have entered := h.subscribeOn (fun _ own => (Option.some.inj own).symm) (realms?.getD [])
    exact ⟨entered.elsewhere, fun other own => .inl <| (entered.here other own).resolve_right nofun⟩

/-- An authorizer that has left its bus has no registrations anywhere. -/
theorem unsubscribeFrom {realms? : Option (List Realm)} {bus : Nat}
    (h : Wired ⟨realms?, some bus⟩ s) :
    Wired ⟨realms?, none⟩ ((Authorizer.unsubscribeFrom bus).run s).2 where
  elsewhere other _ topic := by
    rw [buses_unsubscribeFrom]
    split
    next => exact Bus.reserved_leave (h.orderly bus topic)
    next apart => exact h.elsewhere other (fun own => apart (Option.some.inj own).symm) topic
  here := nofun

theorem setBus_of_none {realms? : Option (List Realm)} (h : Wired ⟨realms?, none⟩ s) (bus : Nat) :
    Wired ⟨realms?, some bus⟩ ((Authorizer.setBus ⟨realms?, none⟩ bus).run s).2 := by
  cases realms? with
  | none =>
    have vacant (other : Nat) := h.elsewhere other nofun
    exact ⟨fun other _ => vacant other, fun other _ => .inr ⟨rfl, vacant other⟩⟩
  | some realms => exact h.subscribeOn nofun realms

/-- It does not matter whether the bus is another one or the same again. -/
theorem setBus (h : a.Wired s) (bus : Nat) :
    Wired { a with bus? := some bus } ((a.setBus bus).run s).2 := by
  obtain ⟨realms?, _ | previous⟩ := a
  · exact h.setBus_of_none bus
  · cases realms? with
    | none => exact h.unsubscribeFrom.setBus_of_none bus
    | some realms => exact h.unsubscribeFrom.setBus_of_none bus

theorem aside {α : Type} (h : a.Wired s) {work : Action σ α} (spares : work.SparesReserved) :
    a.Wired (work.run s).2 where
  elsewhere bus apart topic := (spares s bus topic).trans (h.elsewhere bus apart topic)
  here bus own := by
    simpa only [spares s bus] using h.here bus own

end Wired

theorem Tuning.wired_perform (tuning : Tuning σ) (h : a.Wired s) :
    Wired ((tuning.perform a).run s).1 ((tuning.perform a).run s).2 := by
  cases tuning with
  | setRealms realms =>
    rw [perform, setRealms_eq]
    exact h.setRealms realms
  | setBus bus =>
    rw [perform, setBus_eq]
    exact h.setBus bus
  | register => exact h.register
  | aside work spares => exact h.aside spares

/-! ## Every run -/

theorem wired_foldlM_perform (tunings : List (Tuning σ)) (h : a.Wired s) :
    Wired ((tunings.foldlM Tuning.perform a).run s).1
      ((tunings.foldlM Tuning.perform a).run s).2 := by
  induction tunings generalizing a s with
  | nil => exact h
  | cons tuning tunings ih =>
    rw [List.foldlM_cons]
    exact ih (tuning.wired_perform h)

/-- Nobody is registered under a reserved name. -/
theorem wired_of_unclaimed (unclaimed : ∀ bus topic, (s.buses.get bus).reserved topic = []) :
    Wired {} s := ⟨fun bus _ => unclaimed bus, nofun⟩

namespace Wired

/-- Where there are realms, the present bus carries the registrations for them. -/
theorem entered (h : a.Wired s) {bus : Nat} {realms : List Realm} (present : a.bus? = some bus)
    (set : a.realms? = some realms) (topic : Topic) :
    (s.buses.get bus).reserved topic = topic.cacheRegistrations realms := by
  rcases h.here bus present with entered | ⟨none, -⟩
  · rw [entered, Authorizer.realms, set, Option.getD_some]
  · rw [set] at none
    contradiction

/-- Whatever is registered under a reserved name is registered on the present bus, for the present
realms. -/
theorem own_of_reserved (h : a.Wired s) {bus : Nat} {r : Registration (Handler σ)}
    (mem : r ∈ (s.buses.get bus).registrations) (own : CacheListener.isReserved r.listener) :
    a.bus? = some bus ∧ r ∈ r.topic.cacheRegistrations a.realms := by
  have reserved : r ∈ (s.buses.get bus).reserved r.topic := Bus.mem_reserved_iff.2 ⟨mem, rfl, own⟩
  have somewhere : (s.buses.get bus).reserved r.topic ≠ [] := List.ne_nil_of_mem reserved
  have present : a.bus? = some bus :=
    Decidable.byContradiction fun absent => somewhere (h.elsewhere bus absent r.topic)
  rcases h.here bus present with entered | ⟨-, vacant⟩
  · exact ⟨present, entered r.topic ▸ reserved⟩
  · exact absurd (vacant r.topic) somewhere

theorem length_reserved_le (h : a.Wired s) (bus : Nat) (topic : Topic) :
    ((s.buses.get bus).reserved topic).length ≤ 1 := by
  rcases h.orderly bus topic with vacant | ⟨realms, entered⟩
  · rw [vacant]
    exact Nat.zero_le _
  · rw [entered]
    exact Topic.length_cacheRegistrations_le

end Wired

/-- However an authorizer was set up: what is sent on its present bus makes each of its present realms
that remembers forget once, in their order, whom the message makes stale, and does nothing else to
realms; and its listeners are registered nowhere else, nor for other realms, nor twice for a topic. -/
theorem clears_current_realms_once
    (unclaimed : ∀ bus topic, (s.buses.get bus).reserved topic = []) (tunings : List (Tuning σ)) :
    let a := ((tune tunings).run s).1
    let t := ((tune tunings).run s).2
    (∀ bus realms, a.bus? = some bus → a.realms? = some realms → ∀ run message,
      ∃ before after, before ++ after = (t.buses.get bus).others message.topic ∧
        (send run bus message).run t = (do
          notifyAll run before message
          respond realms message
          notifyAll run after message
          return (t.buses.get bus).count message.topic : Action σ Nat).run t) ∧
    (∀ bus, ∀ r ∈ (t.buses.get bus).registrations, CacheListener.isReserved r.listener →
      a.bus? = some bus ∧ r ∈ r.topic.cacheRegistrations a.realms) ∧
    ∀ bus topic, ((t.buses.get bus).reserved topic).length ≤ 1 := by
  intro a t
  have wired : a.Wired t := wired_foldlM_perform tunings (wired_of_unclaimed unclaimed)
  refine ⟨fun bus realms present set run message => ?_, fun bus r mem own => ?_,
    wired.length_reserved_le⟩
  · exact run_send_of_reserved run (wired.entered present set message.topic)
  · exact wired.own_of_reserved mem own

/-- An authorizer that moves to another bus and gets other realms, beside somebody who audits. The
realm that it had before hears nothing of an authentication. -/
theorem clears_current_realms_once_of_move :
    let alice : Identity := ⟨[⟨"accounts", "alice"⟩]⟩
    let former := Realm.outside (.fixed "former" true none true none none)
    let plain := Realm.outside (.fixed "plain" false none true none none)
    let present := Realm.outside (.fixed "present" true none true none none)
    let auditor : Handler Unit := .script ⟨"audit", 0, 0, ()⟩
    let tunings : List (Tuning Unit) := [.setBus 0, .register, .setRealms [former],
      .aside (changeBus 1 (·.subscribe "audit" .authorizationDenied auditor))
        (.changeBus (fun _ _ => Bus.reserved_subscribe_of_other (by decide)) 1),
      .setBus 1, .setRealms [plain, present]]
    let run : Unit → Action Unit Unit := fun _ => return ()
    let message : Message := ⟨.authenticationSucceeded, .authentication alice⟩
    let site : Site Unit := {}
    (∀ bus topic, (site.buses.get bus).reserved topic = []) ∧
      ((send run 1 message).run ((tune tunings).run site).2).2.trace =
        [.cleared "present" alice] := by
  intro alice former plain present auditor tunings run message site
  have unclaimed (bus : Nat) (topic : Topic) : (site.buses.get bus).reserved topic = [] := rfl
  refine ⟨unclaimed, ?_⟩
  obtain ⟨before, after, others, sent⟩ :=
    (clears_current_realms_once unclaimed tunings).1 1 [plain, present] rfl rfl run message
  have alone : ((((tune tunings).run site).2.buses.get 1).others message.topic).isEmpty := by
    decide +kernel
  rw [← others, List.isEmpty_iff, List.append_eq_nil_iff] at alone
  rw [sent, alone.1, alone.2]
  decide +kernel

end Authorizer

end Gatehouse
