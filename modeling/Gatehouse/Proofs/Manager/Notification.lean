import Gatehouse.Proofs.Authorizer.Clearing
import Gatehouse.Proofs.Authorizer.Rounds
import Gatehouse.Proofs.Authorizer.Wiring
import Gatehouse.Proofs.Manager.Configured

/-!
# Notifications of a manager

A manager and its authorizer each know the bus, and the listeners of the authorizer stand on it. They
move together whatever is done with the manager (`Manager.InTouch`), as long as nobody else uses the
names of the listeners. So its checks publish on its present bus alone, and its notifications make its
present realms forget (`Manager.notifications_reach_present_realms`), unless another listener has
something remembered again meanwhile (`Manager.remembers_by_greeter`).
-/

namespace Gatehouse

open Site

variable {σ ι α : Type} {run : σ → Action σ Unit} {s t : Site σ} {identity : Identity}

/-! ## Reserved names in checks -/

/-- Under reserved names the buses carry these registrations. -/
def Site.Carries (registrations : Nat → Topic → List (Registration (Handler σ))) (s : Site σ) : Prop :=
  ∀ bus topic, (s.buses.get bus).reserved topic = registrations bus topic

theorem Action.sparesReserved_of_keeps {work : Action σ α}
    (keeps : ∀ registrations, work.Keeps (Carries registrations)) : work.SparesReserved :=
  fun s => keeps (fun bus topic => (s.buses.get bus).reserved topic) s fun _ _ => rfl

section

variable (sparing : ∀ script, (run script).SparesReserved)
  (registrations : Nat → Topic → List (Registration (Handler σ)))

include sparing

theorem steady_carries : Steady run (Carries registrations) where
  frame s t _ buses h := by rwa [Carries, buses]
  evict _ _ _ h := h
  script script s h bus topic := (sparing script s bus topic).trans (h bus topic)

/-- No realm that is asked touches a bus. -/
theorem keeps_carries_ask [Requestable ι] (realm : Realm) (items : List ι) :
    Check.Keeps (Carries registrations) (realm.ask run identity items) := by
  have steady := steady_carries sparing registrations
  cases realm with
  | outside r => exact steady.askOutside r
  | account r => exact Steady.askAccount (steady.clearance? (fun _ _ h => h) (fun _ _ h => h) identity)

theorem Manager.Manner.sparesReserved_ask [Requestable ι] [DecidableEq ι] {m : Manager}
    (manner : Manner) (identity : Identity) (items : List ι) :
    (manner.ask run m identity items).run.SparesReserved :=
  Action.sparesReserved_of_keeps fun registrations =>
    manner.keeps_ask (steady_carries sparing registrations) fun realm _ =>
      keeps_carries_ask sparing registrations realm items

end

/-! ## Checks -/

/-- What is due once realms have been consulted; nothing if that failed. -/
def Inquiry.dueAfter [Requestable ι] (inquiry : Inquiry ι α) (identity : Identity) (items : List ι) :
    Except AccessError (Verdicts ι) → List Message
  | .ok results => inquiry.due identity items results
  | .error _ => []

section

variable [Requestable ι] [DecidableEq ι] {a : Authorizer} {items : List ι}

/-- All that an authorizer with a bus does in a check is to consult its realms and to publish on the bus
what is due. -/
theorem Inquiry.run_perform_eq (inquiry : Inquiry ι α) {bus : Nat} (set : a.bus? = some bus) :
    (inquiry.perform run a identity items).run.run s =
      let consulted := (a.consult run identity items).run.run s
      (consulted.1.bind (inquiry.answer identity items),
        ((Authorizer.publishAll run bus
          (inquiry.dueAfter identity items consulted.1)).run consulted.2).2) := by
  rcases consulted : (a.consult run identity items).run.run s with ⟨error | results, t⟩
  · exact inquiry.run_perform_of_error consulted
  · exact inquiry.run_perform_of_bus set consulted

/-- When a consultation fails there are no realms, or one of them fails. -/
theorem Authorizer.consult_eq_error {error : AccessError}
    (failed : ((a.consult run identity items).run.run s).1 = .error error) :
    error = .realmsNotConfigured ∨
      ∃ realm ∈ a.realms, ∃ u, ((realm.ask run identity items).run.run u).1 = .error error := by
  by_cases configured : a.realms = []
  · rw [run_consult_of_unconfigured configured] at failed
    exact .inl (Except.error.inj failed).symm
  rcases answered_or_failed run identity items a.realms s with
    ⟨replies, t, all, answered⟩ | ⟨replies, realm, rest, t, e, u, order, answered, failing⟩
  · rw [run_consult_of_polled ⟨configured, all, answered⟩] at failed
    contradiction
  · rw [run_consult_of_failed order answered failing] at failed
    obtain rfl := Except.error.inj failed
    exact .inr ⟨realm, by simp [order], t, congrArg Prod.fst failing⟩

omit [DecidableEq ι] in
theorem Inquiry.answer_ne_eventBusNotConfigured (inquiry : Inquiry ι α) (results : Verdicts ι) :
    inquiry.answer identity items results ≠ .error .eventBusNotConfigured := by
  cases inquiry with
  | verdicts | combined => simp [answer]
  | check operator =>
    rw [answer]
    split <;> simp

/-- With a bus, a check fails for want of one only if a realm says so. -/
theorem Inquiry.perform_ne_eventBusNotConfigured (inquiry : Inquiry ι α) {bus : Nat}
    (set : a.bus? = some bus)
    (realms : ∀ realm ∈ a.realms, ∀ u,
      ((realm.ask run identity items).run.run u).1 ≠ .error .eventBusNotConfigured) :
    ((inquiry.perform run a identity items).run.run s).1 ≠ .error .eventBusNotConfigured := by
  rw [inquiry.run_perform_eq set]
  dsimp only
  cases consulted : ((a.consult run identity items).run.run s).1 with
  | ok results => exact inquiry.answer_ne_eventBusNotConfigured results
  | error error =>
    rintro ⟨⟩
    rcases Authorizer.consult_eq_error consulted with other | ⟨realm, mem, u, failing⟩
    · contradiction
    · exact realms realm mem u failing

end

/-! ## Every manager -/

namespace Manager

/-- How a manager is made. -/
inductive Founding where
  | withBus (bus : Nat) (realms : List Realm)
  /-- On a bus of its own. -/
  | new (realms : List Realm)

def Founding.make : Founding → Action σ Manager
  | withBus bus realms => Manager.withBus bus realms
  | new realms => Manager.new realms

/-- What is done with a manager, or beside it under other names. -/
inductive Dealing (σ : Type) where
  | call (call : Call σ)
  | setRealms (realms : List Realm)
  | configure (defaultOperator : Operator) (logResults : Bool)
  | aside (work : Action σ Unit) (spares : work.SparesReserved)

/-- What becomes of a manager in a dealing. -/
def Dealing.perform (run : σ → Action σ Unit) (m : Manager) : Dealing σ → Action σ Manager
  | call c => c.perform run m
  | setRealms realms => m.setRealms realms
  | configure defaultOperator logResults => return { m with defaultOperator, logResults }
  | aside work _ => do
    work
    return m

/-- What becomes of a new manager. -/
def deal (run : σ → Action σ Unit) (founding : Founding) (dealings : List (Dealing σ)) :
    Action σ Manager := do
  let m ← founding.make
  dealings.foldlM (Dealing.perform run) m

/-- The authorizer is on the bus of the manager, and its listeners are registered there, for its present
realms, and nowhere else. -/
structure InTouch (m : Manager) (s : Site σ) : Prop where
  shared : m.authorizer.bus? = some m.bus
  configured : ∃ realms, m.authorizer.realms? = some realms
  wired : m.authorizer.Wired s

namespace InTouch

variable {m : Manager}

theorem entered (h : m.InTouch s) (topic : Topic) :
    (s.buses.get m.bus).reserved topic = topic.cacheRegistrations m.authorizer.realms := by
  obtain ⟨realms, set⟩ := h.configured
  have realms_eq : m.authorizer.realms = realms := by rw [Authorizer.realms, set, Option.getD_some]
  rw [realms_eq]
  exact h.wired.entered h.shared set topic

theorem aside (h : m.InTouch s) {work : Action σ α} (spares : work.SparesReserved) :
    m.InTouch (work.run s).2 := ⟨h.shared, h.configured, h.wired.aside spares⟩

theorem setRealms (h : m.InTouch s) (realms : List Realm) :
    InTouch ((m.setRealms realms : Action σ Manager).run s).1 ((m.setRealms realms).run s).2 := by
  have authorizer : ((m.setRealms realms : Action σ Manager).run s).1.authorizer =
      { m.authorizer with realms? := some realms } := Authorizer.setRealms_eq
  refine ⟨?_, ⟨realms, ?_⟩, ?_⟩ <;> rw [authorizer]
  · exact h.shared
  · exact h.wired.setRealms realms

theorem setBus (h : m.InTouch s) (bus : Nat) :
    InTouch ((m.setBus bus : Action σ Manager).run s).1 ((m.setBus bus).run s).2 := by
  have authorizer : ((m.setBus bus : Action σ Manager).run s).1.authorizer =
      { m.authorizer with bus? := some bus } := Authorizer.setBus_eq
  refine ⟨?_, ?_, ?_⟩ <;> rw [authorizer]
  · rfl
  · exact h.configured
  · exact h.wired.setBus bus

section

variable (sparing : ∀ script, (run script).SparesReserved)

include sparing

theorem call (h : m.InTouch s) (c : Call σ) :
    InTouch ((c.perform run m).run s).1 ((c.perform run m).run s).2 := by
  cases c with
  | permissions manner identity items =>
    exact h.aside (manner.sparesReserved_ask sparing identity items)
  | roles manner identity items => exact h.aside (manner.sparesReserved_ask sparing identity items)
  | notify notification identity =>
    exact h.aside <| Action.sparesReserved_of_keeps fun registrations =>
      (steady_carries sparing registrations).send m.bus (notification.message identity)
  | setBus bus => exact h.setBus bus
  | nameBus name => exact ⟨h.shared, h.configured, h.wired.elsewhere, h.wired.here⟩
  | others script => exact h.aside (sparing script)

theorem perform (h : m.InTouch s) (dealing : Dealing σ) :
    InTouch ((dealing.perform run m).run s).1 ((dealing.perform run m).run s).2 := by
  cases dealing with
  | call c => exact h.call sparing c
  | setRealms realms => exact h.setRealms realms
  | configure defaultOperator logResults => exact ⟨h.shared, h.configured, h.wired⟩
  | aside work spares => exact h.aside spares

theorem foldlM_perform (h : m.InTouch s) (dealings : List (Dealing σ)) :
    InTouch ((dealings.foldlM (Dealing.perform run) m).run s).1
      ((dealings.foldlM (Dealing.perform run) m).run s).2 := by
  induction dealings generalizing m s with
  | nil => exact h
  | cons dealing dealings ih =>
    rw [List.foldlM_cons]
    exact ih (h.perform sparing dealing)

end

theorem withBus (unclaimed : ∀ bus topic, (s.buses.get bus).reserved topic = []) (bus : Nat)
    (realms : List Realm) :
    InTouch ((Manager.withBus bus realms).run s).1 ((Manager.withBus bus realms).run s).2 where
  shared := rfl
  configured := ⟨realms, rfl⟩
  wired := ((Authorizer.wired_of_unclaimed unclaimed).setBus bus).setRealms realms

/-- A new bus carries nothing. -/
theorem make (unclaimed : ∀ bus topic, (s.buses.get bus).reserved topic = []) (founding : Founding) :
    InTouch (founding.make.run s).1 (founding.make.run s).2 := by
  cases founding with
  | withBus bus realms => exact withBus unclaimed bus realms
  | new realms =>
    refine withBus (s := (newBus.run s).2) (fun other topic => ?_) (newBus.run s).1 realms
    have made : (newBus.run s).2.buses.get other =
        if other = s.buses.size then {} else s.buses.get other := Arena.get_push
    rw [made]
    split
    · rfl
    · exact unclaimed other topic

end InTouch

/-! ## Notifications -/

/-- Between these sites the account realms of the manager have forgotten an identity, and no cache has
changed otherwise. -/
structure Forgotten (m : Manager) (identity : Identity) (s t : Site σ) : Prop where
  configured : ∀ r, .account r ∈ m.authorizer.realms → ∀ id, identity.primary? = some id →
    r.remembered? t id = none
  others : ∀ (r : AccountRealm) id, identity.primary? ≠ some id →
    r.remembered? t id = r.remembered? s id
  elsewhere : ∀ cache, (∀ r, .account r ∈ m.authorizer.realms → r.cache ≠ cache) →
    t.caches.get cache = s.caches.get cache
  anonymous : identity.primary? = none → ∀ cache, t.caches.get cache = s.caches.get cache

theorem forgotten_of_caches {m : Manager} (h : t.caches =
    s.caches.evictFrom (m.authorizer.realms.filterMap Realm.cache?) identity) :
    m.Forgotten identity s t where
  configured r mem id known := by
    have own : r.cache ∈ m.authorizer.realms.filterMap Realm.cache? :=
      Realm.mem_filterMap_cache?_iff.2 ⟨r, mem, rfl⟩
    rw [AccountRealm.remembered?, h, Arena.find?_entries_evictFrom, if_pos ⟨known, own⟩]
  others r id other := by
    rw [AccountRealm.remembered?, h, Arena.find?_entries_evictFrom, if_neg fun both => other both.1]
    rfl
  elsewhere cache apart := by
    rw [h]
    refine Arena.get_evictFrom_of_not_mem fun mem => ?_
    obtain ⟨r, configured, same⟩ := Realm.mem_filterMap_cache?_iff.1 mem
    exact apart r configured same
  anonymous anonymous cache := by rw [h, Arena.get_evictFrom_of_anonymous anonymous]

end Manager

/-- Whatever it is told, the handler leaves the caches alone. -/
def Handler.SparesCaches (run : σ → Action σ Unit) (handler : Handler σ) : Prop :=
  ∀ message (s : Site σ), ((handler.notify run message).run s).2.caches = s.caches

theorem Handler.sparesCaches_script {script : Script σ}
    (idle : ∀ s, ((run script.actions).run s).2.caches = s.caches) :
    (Handler.script script).SparesCaches run := by
  intro message s
  have ran : (((Handler.script script).notify run message).run s).2 =
      ((if s.deliveries.get script.counter < script.times then run script.actions
        else return () : Action σ Unit).run { s with
          trace := s.trace ++ [.delivered script.tag message]
          deliveries :=
            s.deliveries.set script.counter (s.deliveries.get script.counter + 1) }).2 := rfl
  rw [ran]
  split
  · exact idle _
  · rfl

theorem Site.caches_notifyAll {targets : List (Registration (Handler σ))}
    (spares : ∀ target ∈ targets, target.handler.SparesCaches run) (message : Message) :
    ((notifyAll run targets message).run s).2.caches = s.caches := by
  have keeps : (notifyAll run targets message).Keeps fun t => t.caches = s.caches :=
    .forM fun target mem t kept => (spares target mem message t).trans kept
  exact keeps s rfl

namespace Manager

theorem Notification.stale?_message (notification : Notification) (identity : Identity) :
    (notification.message identity).stale? = some identity := by
  cases notification <;> rfl

theorem Notification.length_cacheRegistrations (notification : Notification) (identity : Identity)
    (realms : List Realm) :
    ((notification.message identity).topic.cacheRegistrations realms :
      List (Registration (Handler σ))).length = 1 := by
  cases notification <;> rfl

theorem InTouch.exists_run_notify {m : Manager} (h : m.InTouch s) (run : σ → Action σ Unit)
    (notification : Notification) (identity : Identity) :
    let message := notification.message identity
    ∃ before after, before ++ after = (s.buses.get m.bus).others message.topic ∧
      (m.notify run notification identity).run s =
        (((s.buses.get m.bus).others message.topic).length + 1, ((do
          notifyAll run before message
          Realm.clearCaching m.authorizer.realms identity
          notifyAll run after message : Action σ Unit).run s).2) := by
  intro message
  obtain ⟨before, after, split, sent⟩ := run_send_of_reserved run (h.entered message.topic)
  have responds : Authorizer.respond m.authorizer.realms message =
      (Realm.clearCaching m.authorizer.realms identity : Action σ Unit) := by
    rw [Authorizer.respond, notification.stale?_message]
  have count : (s.buses.get m.bus).count message.topic =
      ((s.buses.get m.bus).others message.topic).length + 1 := by
    rw [Bus.count_eq, h.entered, notification.length_cacheRegistrations, Nat.add_comm]
  refine ⟨before, after, split, ?_⟩
  rw [notify, sent, responds, count]
  rfl

/-- However a manager was made and whatever has been done with it, where nobody else uses the names of
its listeners: its authorizer is on its bus; a check consults the realms and publishes what is due on
that bus, so that only a realm can say that there is none; and a notification makes the present realms
forget the identity among the other listeners, and counts it with them. Where these leave the caches
alone nothing else has changed in any cache. -/
theorem notifications_reach_present_realms
    (unclaimed : ∀ bus topic, (s.buses.get bus).reserved topic = [])
    (sparing : ∀ script, (run script).SparesReserved) (founding : Founding)
    (dealings : List (Dealing σ)) :
    let m := ((deal run founding dealings).run s).1
    let t := ((deal run founding dealings).run s).2
    m.authorizer.bus? = some m.bus ∧
    (∀ (ι α : Type) [Requestable ι] [DecidableEq ι] (inquiry : Inquiry ι α) (identity : Identity)
        (items : List ι),
      ((inquiry.perform run m.authorizer identity items).run.run t =
        let consulted := (m.authorizer.consult run identity items).run.run t
        (consulted.1.bind (inquiry.answer identity items),
          ((Authorizer.publishAll run m.bus
            (inquiry.dueAfter identity items consulted.1)).run consulted.2).2)) ∧
      ((∀ realm ∈ m.authorizer.realms, ∀ u,
          ((realm.ask run identity items).run.run u).1 ≠ .error .eventBusNotConfigured) →
        ((inquiry.perform run m.authorizer identity items).run.run t).1 ≠
          .error .eventBusNotConfigured)) ∧
    ∀ (notification : Notification) (identity : Identity),
      let message := notification.message identity
      ∃ before after, before ++ after = (t.buses.get m.bus).others message.topic ∧
        (m.notify run notification identity).run t =
          (((t.buses.get m.bus).others message.topic).length + 1, ((do
            notifyAll run before message
            Realm.clearCaching m.authorizer.realms identity
            notifyAll run after message : Action σ Unit).run t).2) ∧
        (∀ u, m.Forgotten identity u
          ((Realm.clearCaching m.authorizer.realms identity : Action σ Unit).run u).2) ∧
        ((∀ target ∈ (t.buses.get m.bus).others message.topic, target.handler.SparesCaches run) →
          m.Forgotten identity t ((m.notify run notification identity).run t).2) := by
  intro m t
  have touch : m.InTouch t := (InTouch.make unclaimed founding).foldlM_perform sparing dealings
  refine ⟨touch.shared, fun ι α _ _ inquiry identity items => ⟨?_, ?_⟩, ?_⟩
  · exact inquiry.run_perform_eq touch.shared
  · exact inquiry.perform_ne_eventBusNotConfigured touch.shared
  intro notification identity message
  have cleared (u : Site σ) : m.Forgotten identity u
      ((Realm.clearCaching m.authorizer.realms identity : Action σ Unit).run u).2 :=
    forgotten_of_caches Realm.caches_clearCaching
  obtain ⟨before, after, split, notified⟩ := touch.exists_run_notify run notification identity
  refine ⟨before, after, split, notified, cleared, fun spares => ?_⟩
  rw [← split] at spares
  obtain ⟨earlier, later⟩ := List.forall_mem_append.1 spares
  have first : ((notifyAll run before message).run t).2.caches = t.caches :=
    caches_notifyAll earlier message
  refine forgotten_of_caches ?_
  rw [notified]
  refine (caches_notifyAll later message).trans (Realm.caches_clearCaching.trans ?_)
  exact congrArg (fun caches : Arena Cache => caches.evictFrom _ identity) first

/-- A manager gets another realm and another bus, on which somebody audits. An authentication makes the
present realm forget, and the former one still remembers. -/
theorem notifications_reach_present_realms_of_move :
    let alice : Identity := ⟨[⟨"accounts", "alice"⟩]⟩
    let former : AccountRealm := { label := "former", store := 0, cache := 0 }
    let present : AccountRealm := { label := "present", store := 0, cache := 1 }
    let auditor : Handler Unit := .script ⟨"audit", 0, 0, ()⟩
    let site : Site Unit :=
      { stores := ({} : Arena (Store Unit)).set 0
          { accounts := SortedMap.empty.insert "alice" (.ofLists ["editor"] []) } }
    let run : Unit → Action Unit Unit := fun _ => return ()
    let dealings : List (Dealing Unit) :=
      [.call (.roles .verdicts alice ["editor"]), .setRealms [.account present],
        .call (.roles .check alice ["editor"]),
        .aside (changeBus 1 (·.subscribe "audit" .authenticationSucceeded auditor))
          (.changeBus (fun _ _ => Bus.reserved_subscribe_of_other (by decide)) 1),
        .call (.setBus 1)]
    let m := ((deal run (.withBus 0 [.account former]) dealings).run site).1
    let t := ((deal run (.withBus 0 [.account former]) dealings).run site).2
    let notified := (m.notify run .authenticated alice).run t
    (∀ bus topic, (site.buses.get bus).reserved topic = []) ∧
      (∀ script, (run script).SparesReserved) ∧
      (∀ target ∈ (t.buses.get m.bus).others .authenticationSucceeded,
        target.handler.SparesCaches run) ∧
      (former.remembered? t "alice").isSome ∧ (present.remembered? t "alice").isSome ∧
      notified.1 = 2 ∧ present.remembered? notified.2 "alice" = none ∧
      former.remembered? notified.2 "alice" = former.remembered? t "alice" := by
  intro alice former present auditor site run dealings m t notified
  have unclaimed (bus : Nat) (topic : Topic) : (site.buses.get bus).reserved topic = [] := rfl
  have sparing (script : Unit) : (run script).SparesReserved := fun _ _ _ => rfl
  -- the listeners and the realms themselves cannot be compared, but their kinds and numbers can
  have scripts : ((t.buses.get m.bus).others .authenticationSucceeded).all fun target =>
      match target.handler with | .script _ => true | .clear .. => false := by
    decide +kernel
  have spares (target : Registration (Handler Unit))
      (mem : target ∈ (t.buses.get m.bus).others .authenticationSucceeded) :
      target.handler.SparesCaches run := by
    have script := List.all_eq_true.1 scripts target mem
    cases handler : target.handler with
    | clear => simp [handler] at script
    | script script => exact Handler.sparesCaches_script fun _ => rfl
  have one : ((t.buses.get m.bus).others .authenticationSucceeded).length = 1 := by decide +kernel
  have caches : m.authorizer.realms.filterMap Realm.cache? = [1] := by decide +kernel
  obtain ⟨before, after, split, ran, -, forgotten⟩ :=
    (notifications_reach_present_realms unclaimed sparing (.withBus 0 [.account former])
      dealings).2.2 .authenticated alice
  have forgotten : m.Forgotten alice t notified.2 := forgotten spares
  have counted : notified.1 = ((t.buses.get m.bus).others .authenticationSucceeded).length + 1 :=
    congrArg Prod.fst ran
  refine ⟨unclaimed, sparing, spares, ?_, ?_, by rw [counted, one], ?_, ?_⟩
  · decide +kernel
  · decide +kernel
  · obtain ⟨r, mem, same⟩ : ∃ r, .account r ∈ m.authorizer.realms ∧ r.cache = present.cache :=
      Realm.mem_filterMap_cache?_iff.1 (caches ▸ List.mem_singleton_self 1)
    have none := forgotten.configured r mem "alice" rfl
    exact (AccountRealm.remembered?_congr (congrArg _ same)).symm.trans none
  · refine AccountRealm.remembered?_congr (forgotten.elsewhere former.cache fun r mem => ?_)
    have here : r.cache ∈ m.authorizer.realms.filterMap Realm.cache? :=
      Realm.mem_filterMap_cache?_iff.2 ⟨r, mem, rfl⟩
    rw [caches, List.mem_singleton] at here
    simp [here, former]

/-- A greeter who is on the bus too asks the realm for a role. So the identity is remembered again when
its notification is over. And an outside realm can itself answer that there is no bus. -/
theorem remembers_by_greeter :
    let alice : Identity := ⟨[⟨"accounts", "alice"⟩]⟩
    let realm : AccountRealm := { label := "r", store := 0, cache := 0 }
    let site : Site Unit :=
      { stores := ({} : Arena (Store Unit)).set 0
          { accounts := SortedMap.empty.insert "alice" (.ofLists ["editor"] []) } }
    let idle : Unit → Action Unit Unit := fun _ => return ()
    let run : Unit → Action Unit Unit := fun _ => do
      let _ ← (realm.ask idle alice ["editor"]).run
    let greeter : Handler Unit := .script ⟨"greeter", 0, 1, ()⟩
    let odd := Realm.outside
      { label := "odd", caching := false
        judge := fun _ _ => .error .eventBusNotConfigured
        judgeRoles := fun _ _ => .error .eventBusNotConfigured }
    let dealings : List (Dealing Unit) :=
      [.aside (changeBus 0 (·.subscribe "greeter" .authenticationSucceeded greeter))
        (.changeBus (fun _ _ => Bus.reserved_subscribe_of_other (by decide)) 0)]
    let m := ((deal run (.withBus 0 [.account realm]) dealings).run site).1
    let t := ((deal run (.withBus 0 [.account realm]) dealings).run site).2
    let strange := (Manager.withBus 0 [odd]).run site
    (∀ bus topic, (site.buses.get bus).reserved topic = []) ∧
      (∀ script, (run script).SparesReserved) ∧
      ¬ m.Forgotten alice t ((m.notify run .authenticated alice).run t).2 ∧
      ((strange.1.verdicts run alice ["editor"]).run.run strange.2).1 =
        .error .eventBusNotConfigured := by
  intro alice realm site idle run greeter odd dealings m t strange
  have sparing (script : Unit) : (run script).SparesReserved :=
    Action.sparesReserved_of_keeps fun registrations =>
      .bind (keeps_carries_ask (fun _ _ _ _ => rfl) registrations (.account realm) ["editor"])
        fun _ => .pure ()
  refine ⟨fun _ _ => rfl, sparing, fun forgotten => ?_, rfl⟩
  have remembered := forgotten.configured realm (List.mem_singleton_self _) "alice" rfl
  have kept : (realm.remembered? ((m.notify run .authenticated alice).run t).2 "alice").isSome := by
    decide +kernel
  rw [remembered] at kept
  contradiction

end Manager

end Gatehouse
