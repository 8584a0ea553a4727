import Gatehouse.Proofs.Authorizer.Clearing
import Gatehouse.Proofs.Manager.Chronicle

/-!
# What a manager remembers

A manager over account realms answers as the chronicle of what was done tells, although its realms
look into their caches first and forget when they are notified: `Chronicle.Tracks` ties the caches, the
stores and the bus to the chronicle, and every turn keeps the tie. Hence
`Manager.answers_by_first_record`.
-/

namespace Gatehouse

open Site

variable {σ ι α : Type} {run : σ → Action σ Unit} {bus : Nat} {realms : List AccountRealm}
  {s t : Site σ} {c d : Chronicle} {r : AccountRealm} {identity : Identity} {id : String}

/-- The store hands out what it holds, and nothing else happens. -/
structure Store.InOrder (s : Store σ) : Prop where
  working : s.outage? = none
  unscripted : s.queue = []

theorem Site.lookUp_of_inOrder (run : σ → Action σ Unit) {store : Nat}
    (inOrder : (s.stores.get store).InOrder) (id : String) :
    (lookUp run store id).run.run s =
      (.ok ((s.stores.get store).accounts.find? id),
        s.noting (s.stores.get store).watchedAs? id) := by
  simp only [run_lookUp, inOrder.working, inOrder.unscripted]

/-- Nobody is made stale by the outcome of a check. -/
theorem Inquiry.stale?_of_mem_due [Requestable ι] (inquiry : Inquiry ι α) {items : List ι}
    {results : Verdicts ι} {message : Message}
    (due : message ∈ inquiry.due identity items results) : message.stale? = none := by
  have harmless (topic : Topic) (notice : AuthorizationNotice) :
      Message.stale? ⟨topic, .authorization notice⟩ = none := by cases topic <;> rfl
  cases inquiry with
  | verdicts logResults =>
    cases logResults with
    | false => contradiction
    | true =>
      obtain ⟨verdict, -, rfl⟩ := List.mem_map.1 due
      exact harmless _ _
  | combined operator | check operator =>
    obtain rfl := List.mem_singleton.1 due
    exact harmless _ _

/-! ## The tie -/

namespace Chronicle

/-- The chronicle tells what the stores of the site hold and what the realms remember, and the realms
hear of what is sent on the bus, where nobody else does anything. -/
structure Tracks (run : σ → Action σ Unit) (bus : Nat) (realms : List AccountRealm) (c : Chronicle)
    (s : Site σ) : Prop where
  accounts : ∀ store, (s.stores.get store).accounts = c.accounts store
  inOrder : ∀ r ∈ realms, (s.stores.get r.store).InOrder
  remembered : ∀ r ∈ realms, ∀ id,
    r.remembered? s id = (c.record? r.cache id).map Account.clearance
  entered : ∀ topic,
    (s.buses.get bus).reserved topic = topic.cacheRegistrations (realms.map .account)
  idle : ∀ topic, ∀ target ∈ (s.buses.get bus).others topic, target.handler.Idle run

namespace Tracks

theorem congr (h : c.Tracks run bus realms s) (alike : s.Alike t)
    (accounts : d.accounts = c.accounts)
    (records : ∀ cache id, d.record? cache id = c.record? cache id) :
    d.Tracks run bus realms t := by
  obtain ⟨stores, caches, buses⟩ := alike
  refine ⟨?_, ?_, ?_, ?_, ?_⟩
  · simpa only [stores, accounts] using h.accounts
  · simpa only [stores] using h.inOrder
  · simpa only [AccountRealm.remembered?, caches, records] using h.remembered
  · simpa only [buses] using h.entered
  · simpa only [buses] using h.idle

theorem beside (h : c.Tracks run bus realms s) (alike : s.Alike t) : c.Tracks run bus realms t :=
  h.congr alike rfl fun _ _ => rfl

/-! ## Consultations -/

/-- A consultation at which nothing new is remembered. -/
theorem consulted_of_settled (h : c.Tracks run bus realms s) (known : identity.primary? = some id)
    (settled : (c.record? r.cache id).or ((c.accounts r.store).find? id) = c.record? r.cache id)
    (alike : s.Alike t) : (c.consulted r identity).Tracks run bus realms t := by
  refine h.congr alike accounts_consulted fun cache other => ?_
  rw [record?_consulted]
  split
  next own =>
    obtain ⟨rfl, named⟩ := own
    obtain rfl : id = other := Option.some.inj (known.symm.trans named)
    exact settled
  next => rfl

/-- A consultation at which a record is found and kept. -/
theorem consulted_of_found (h : c.Tracks run bus realms s) (known : identity.primary? = some id)
    (missing : c.record? r.cache id = none) {a : Account}
    (found : (c.accounts r.store).find? id = some a) (alike : s.Alike t) :
    (c.consulted r identity).Tracks run bus realms
      { t with caches := t.caches.update r.cache (·.keep id a.clearance) } := by
  have h := h.beside alike
  refine ⟨?_, h.inOrder, fun q mem other => ?_, h.entered, h.idle⟩
  · rw [accounts_consulted]
    exact h.accounts
  · have before := h.remembered q mem other
    simp only [AccountRealm.remembered?] at before ⊢
    simp only [record?_consulted, known, Option.some.injEq, Arena.find?_entries_keep]
    by_cases own : q.cache = r.cache ∧ other = id
    · obtain ⟨same, rfl⟩ := own
      rw [if_pos ⟨same, rfl⟩, if_pos ⟨same.symm, rfl⟩, same, missing, found]
      rfl
    · rw [if_neg own, if_neg fun both => own ⟨both.1.symm, both.2.symm⟩, before]

/-- A realm loads the clearance of the record by which it is to answer. -/
theorem run_load (h : c.Tracks run bus realms s) (mem : r ∈ realms)
    (known : identity.primary? = some id) :
    ∃ t, (r.load run id 1).run.run s =
        (.ok (((c.consulted r identity).record? r.cache id).map Account.clearance), t) ∧
      (c.consulted r identity).Tracks run bus realms t := by
  have record : (c.consulted r identity).record? r.cache id =
      (c.record? r.cache id).or ((c.accounts r.store).find? id) := by
    rw [record?_consulted, if_pos ⟨rfl, known⟩]
  have remembered := h.remembered r mem id
  have looked := lookUp_of_inOrder run (h.inOrder r mem) id
  have noted := s.alike_noting (s.stores.get r.store).watchedAs? id
  rw [h.accounts] at looked
  rw [record]
  cases recorded : c.record? r.cache id with
  | some a =>
    rw [recorded] at remembered
    refine ⟨s, ?_, h.consulted_of_settled known (by rw [recorded, Option.some_or]) ⟨rfl, rfl, rfl⟩⟩
    rw [AccountRealm.load_of_remembered remembered]
    rfl
  | none =>
    rw [recorded] at remembered
    cases found : (c.accounts r.store).find? id with
    | none =>
      rw [found] at looked
      refine ⟨_, AccountRealm.load_of_unknown remembered looked 1, ?_⟩
      exact h.consulted_of_settled known (by rw [recorded, found, Option.none_or]) noted
    | some a =>
      rw [found] at looked
      have loaded := AccountRealm.load_of_found remembered looked 1
      have unmoved : r.generation (s.noting (s.stores.get r.store).watchedAs? id) =
          r.generation s := by
        rw [AccountRealm.generation, noted.caches, AccountRealm.generation]
      rw [if_pos unmoved, run_warnUnfiled] at loaded
      refine ⟨_, loaded, ?_⟩
      exact h.consulted_of_found known recorded found (noted.trans ⟨rfl, rfl, rfl⟩)

section Asking

variable [Requestable ι]

/-- A realm that is asked replies as the chronicle tells. -/
theorem run_ask (h : c.Tracks run bus realms s) (mem : r ∈ realms) (identity : Identity)
    (items : List ι) :
    ∃ t, (r.ask run identity items).run.run s = (c.reply r identity items, t) ∧
      (c.consulted r identity).Tracks run bus realms t := by
  cases known : identity.primary? with
  | none =>
    have same : c.consulted r identity = c := by rw [consulted, known]
    refine ⟨s, ?_, same.symm ▸ h⟩
    rw [AccountRealm.ask_of_anonymous known, reply, known]
    rfl
  | some id =>
    obtain ⟨t, loaded, tracks⟩ := h.run_load mem known
    refine ⟨t, ?_, tracks⟩
    rw [AccountRealm.ask_of_load known loaded, reply, known]
    rfl

theorem run_round (h : c.Tracks run bus realms s) {l : List AccountRealm} (known : l ⊆ realms)
    (identity : Identity) (items : List ι) :
    ∃ found t, ((l.map Realm.account).mapM fun realm =>
        Authorizer.reporting realm (realm.ask run identity items)).run.run s = (found, t) ∧
      found.map List.flatten = (c.round identity items l).1 ∧
      (c.round identity items l).2.Tracks run bus realms t := by
  induction l generalizing c s with
  | nil => exact ⟨.ok [], s, rfl, rfl, h⟩
  | cons r rest ih =>
    obtain ⟨mem, others⟩ := List.cons_subset.1 known
    obtain ⟨t, asked, tracks⟩ := h.run_ask mem identity items
    have asked : ((Realm.account r).ask run identity items).run.run s =
        (c.reply r identity items, t) := asked
    rw [List.map_cons, List.mapM_cons, round]
    cases answered : c.reply r identity items with
    | error e =>
      rw [answered] at asked
      have reported := Authorizer.run_reporting_of_error asked
      exact ⟨.error e, _, Check.run_bind_of_error reported, rfl, tracks.beside ⟨rfl, rfl, rfl⟩⟩
    | ok verdicts =>
      rw [answered] at asked
      have reported := Authorizer.run_reporting_of_ok asked
      obtain ⟨found, u, ran, same, tracks⟩ := ih tracks others
      rw [Check.run_bind_of_ok reported]
      have joined := congrArg (Except.map (verdicts ++ ·)) same
      cases found with
      | error e => exact ⟨.error e, u, Check.run_bind_of_error ran, joined, tracks⟩
      | ok rest => exact ⟨.ok (verdicts :: rest), u, Check.run_bind_of_ok ran, joined, tracks⟩

end Asking

/-! ## Messages -/

/-- Realms that are made to forget an identity do so, and nothing else changes. -/
theorem clear (h : c.Tracks run bus realms s) (identity : Identity) :
    (c.notified identity).Tracks run bus realms
      ((Realm.clearCaching (realms.map .account) identity : Action σ Unit).run s).2 := by
  refine ⟨?_, ?_, fun r mem id => ?_, ?_, ?_⟩
  · rw [accounts_notified, Realm.stores_clearCaching]
    exact h.accounts
  · rw [Realm.stores_clearCaching]
    exact h.inOrder
  · have own : r.cache ∈ (realms.map .account).filterMap Realm.cache? :=
      Realm.mem_filterMap_cache?_iff.2 ⟨r, List.mem_map_of_mem mem, rfl⟩
    rw [AccountRealm.remembered?_clearCaching, record?_notified, h.remembered r mem]
    simp only [own, and_true]
    split <;> rfl
  · rw [Realm.buses_clearCaching]
    exact h.entered
  · rw [Realm.buses_clearCaching]
    exact h.idle

/-- What is sent on the bus makes the realms forget whom it makes stale, and does nothing else. -/
theorem send (h : c.Tracks run bus realms s) (message : Message) :
    (match message.stale? with
      | some identity => c.notified identity
      | none => c).Tracks run bus realms ((Site.send run bus message).run s).2 := by
  obtain ⟨t, alike, sent⟩ :=
    exists_run_send_of_idle (h.entered message.topic) (h.idle message.topic)
  have h := h.beside alike
  refine beside ?_ sent
  rw [Authorizer.respond]
  cases message.stale? with
  | some identity => exact h.clear identity
  | none => cases message.topic.cacheListener? <;> exact h.beside ⟨rfl, rfl, rfl⟩

theorem publishAll (h : c.Tracks run bus realms s) {messages : List Message}
    (fresh : ∀ message ∈ messages, message.stale? = none) :
    c.Tracks run bus realms ((Authorizer.publishAll run bus messages).run s).2 := by
  induction messages generalizing s with
  | nil => exact h
  | cons message messages ih =>
    obtain ⟨first, rest⟩ := List.forall_mem_cons.1 fresh
    rw [Authorizer.publishAll, Action.run_forM_cons]
    refine ih ?_ rest
    have sent := h.send message
    rw [first] at sent
    exact sent

/-! ## Checks -/

variable [Requestable ι] [DecidableEq ι]

/-- A check comes out as the chronicle tells. -/
theorem run_perform (h : c.Tracks run bus realms s) {a : Authorizer}
    (own : a = ⟨some (realms.map .account), some bus⟩) (inquiry : Inquiry ι α)
    (identity : Identity) (items : List ι) :
    ∃ t, (inquiry.perform run a identity items).run.run s =
        (c.outcome realms identity items inquiry, t) ∧
      (c.round identity items realms).2.Tracks run bus realms t := by
  have members : a.realms = realms.map .account := by
    rw [own]
    rfl
  by_cases configured : a.realms = []
  · obtain rfl : realms = [] := List.map_eq_nil_iff.1 (members.symm.trans configured)
    exact ⟨s, inquiry.run_perform_of_error (Authorizer.run_consult_of_unconfigured configured), h⟩
  · obtain ⟨found, t, asked, joined, tracks⟩ :=
      h.run_round (List.Subset.refl realms) identity items
    rw [← members] at asked
    have occupied : realms.isEmpty = false := by simpa [members] using configured
    have consulted := Authorizer.run_consult_of_configured configured asked
    rw [outcome, occupied, ← joined]
    cases found with
    | error e => exact ⟨t, inquiry.run_perform_of_error consulted, tracks⟩
    | ok verdicts =>
      have set : a.bus? = some bus := by rw [own]
      exact ⟨_, inquiry.run_perform_of_bus set consulted,
        tracks.publishAll fun _ due => inquiry.stale?_of_mem_due due⟩

theorem ask (h : c.Tracks run bus realms s) {m : Manager}
    (own : m.authorizer = ⟨some (realms.map .account), some bus⟩) (manner : Manager.Manner)
    (identity : Identity) (items : List ι) :
    (c.round identity items realms).2.Tracks run bus realms
      ((manner.ask run m identity items).run.run s).2 := by
  have performed {α : Type} (inquiry : Inquiry ι α) :
      (c.round identity items realms).2.Tracks run bus realms
        ((inquiry.perform run m.authorizer identity items).run.run s).2 := by
    obtain ⟨t, ran, tracks⟩ := h.run_perform own inquiry identity items
    rw [ran]
    exact tracks
  cases manner with
  | verdicts =>
    rw [Manager.Manner.ask, Check.run_discard_snd]
    exact performed (.verdicts m.logResults)
  | grantsAll =>
    rw [Manager.Manner.ask, Check.run_discard_snd]
    exact performed (.combined .all)
  | check => exact performed (.check m.defaultOperator)

end Tracks

/-- Asked about the items, each of the realms and the manager over them answer as the chronicle
tells. -/
structure Explains [Requestable ι] [DecidableEq ι] (c : Chronicle) (run : σ → Action σ Unit)
    (m : Manager) (realms : List AccountRealm) (s : Site σ) (identity : Identity)
    (items : List ι) : Prop where
  realm_eq : ∀ r ∈ realms, ((r.ask run identity items).run.run s).1 = c.reply r identity items
  verdicts_eq : ((m.verdicts run identity items).run.run s).1 =
    c.outcome realms identity items (.verdicts m.logResults)
  grantsAll_eq : ((m.grantsAll run identity items).run.run s).1 =
    c.outcome realms identity items (.combined .all)
  check_eq : ((m.check run identity items).run.run s).1 =
    c.outcome realms identity items (.check m.defaultOperator)

variable {m : Manager}

/-- It takes no more than what a chronicle tells of the identifier. -/
theorem Explains.congr [Requestable ι] [DecidableEq ι] {items : List ι}
    (h : c.Explains run m realms s identity items) (known : identity.primary? = some id)
    (agrees : AgreesOn id c d) : d.Explains run m realms s identity items where
  realm_eq r mem := (h.realm_eq r mem).trans (agrees.reply_eq known r items)
  verdicts_eq := h.verdicts_eq.trans (agrees.outcome_eq known realms items _)
  grantsAll_eq := h.grantsAll_eq.trans (agrees.outcome_eq known realms items _)
  check_eq := h.check_eq.trans (agrees.outcome_eq known realms items _)

theorem Tracks.explains [Requestable ι] [DecidableEq ι] (h : c.Tracks run m.bus realms s)
    (own : m.authorizer = ⟨some (realms.map .account), some m.bus⟩) (identity : Identity)
    (items : List ι) : c.Explains run m realms s identity items := by
  have performed {α : Type} (inquiry : Inquiry ι α) :
      ((inquiry.perform run m.authorizer identity items).run.run s).1 =
        c.outcome realms identity items inquiry := by
    obtain ⟨t, ran, -⟩ := h.run_perform own inquiry identity items
    rw [ran]
  refine ⟨fun r mem => ?_, performed (.verdicts m.logResults), performed (.combined .all),
    performed (.check m.defaultOperator)⟩
  obtain ⟨t, asked, -⟩ := h.run_ask mem identity items
  rw [asked]

/-! ## Turns -/

namespace Tracks

theorem changeStore (h : c.Tracks run bus realms s) {f : Store σ → Store σ}
    {g : SortedMap String Account → SortedMap String Account}
    (accounts : ∀ s, (f s).accounts = g s.accounts) (inOrder : ∀ s, s.InOrder → (f s).InOrder)
    (store : Nat) :
    (c.changeStore store g).Tracks run bus realms ((Site.changeStore store f).run s).2 := by
  have changed (n : Nat) : ((Site.changeStore store f).run s).2.stores.get n =
      if n = store then f (s.stores.get n) else s.stores.get n := by
    refine Arena.get_update.trans (if_ctx_congr Iff.rfl (fun same => ?_) fun _ => rfl)
    rw [same]
  refine ⟨fun n => ?_, fun r mem => ?_, h.remembered, h.entered, h.idle⟩
  · rw [changed, Chronicle.changeStore]
    split
    next same => simp only [same, if_true, accounts, h.accounts]
    next other => simp only [other, if_false, h.accounts]
  · rw [changed]
    split
    next => exact inOrder _ (h.inOrder r mem)
    next => exact h.inOrder r mem

variable (own : m.authorizer = ⟨some (realms.map .account), some m.bus⟩)

include own

/-- One turn of the manager or beside it. -/
theorem tell (h : c.Tracks run m.bus realms s) (turn : Manager.Turn) :
    (turn.tell realms c).Tracks run m.bus realms ((turn.perform run m).run s).2 := by
  cases turn with
  | insert store id account =>
    exact h.changeStore (f := (·.insert id account)) (g := (·.insert id account)) (fun _ => rfl)
      (fun _ inOrder => ⟨inOrder.working, inOrder.unscripted⟩) store
  | remove store id =>
    exact h.changeStore (f := (·.remove id)) (g := (·.erase id)) (fun _ => rfl)
      (fun _ inOrder => ⟨inOrder.working, inOrder.unscripted⟩) store
  | permissions manner identity items | roles manner identity items =>
    exact h.ask own manner identity items
  | notify notification identity =>
    have sent := h.send (notification.message identity)
    cases notification <;> exact sent

theorem after (h : c.Tracks run m.bus realms s) (turns : List Manager.Turn) :
    (c.after realms turns).Tracks run m.bus realms ((m.spend run turns).run s).2 := by
  induction turns generalizing c s with
  | nil => exact h
  | cons turn turns ih =>
    rw [Manager.spend, Action.run_forM_cons]
    exact ih (h.tell own turn)

end Tracks

/-- A manager that is made over realms which remember nothing. -/
theorem tracks_withBus (empty : ∀ r ∈ realms, ∀ id, r.remembered? s id = none)
    (inOrder : ∀ r ∈ realms, (s.stores.get r.store).InOrder)
    (unclaimed : ∀ topic, (s.buses.get bus).reserved topic = [])
    (idle : ∀ topic, ∀ target ∈ (s.buses.get bus).listening topic, target.handler.Idle run) :
    Tracks run bus realms { accounts := fun store => (s.stores.get store).accounts }
      ((Manager.withBus bus (realms.map .account)).run s).2 := by
  have made : ((Manager.withBus bus (realms.map .account)).run s).2 =
      ((Authorizer.subscribeOn (realms.map .account) bus).run s).2 := rfl
  have beside := Authorizer.quiet_subscribeOn (realms.map .account) bus s
  rw [made]
  refine ⟨fun store => ?_, ?_, fun r mem id => ?_, fun topic => ?_, fun topic => ?_⟩
  · rw [beside.stores]
  · rw [beside.stores]
    exact inOrder
  · rw [AccountRealm.remembered?, beside.caches]
    exact empty r mem id
  · rw [Authorizer.buses_subscribeOn, if_pos rfl]
    exact Bus.reserved_enter (.inl (unclaimed topic)) _
  · rw [Authorizer.buses_subscribeOn, if_pos rfl, Bus.others_enter,
      Bus.others_of_reserved_eq_nil (unclaimed topic)]
    exact idle topic

end Chronicle

namespace Manager

open Chronicle

/-! ## The long run -/

/-- A manager over account realms with empty caches, among idle listeners: whatever is asked, changed
and told, it and each of its realms answer by the records that the chronicle names. So who is
remembered is answered from the same clearance until the next notification, after which the first
consultation answers from what the store holds then; and nothing that concerns other identifiers makes
a difference. -/
theorem answers_by_first_record (empty : ∀ r ∈ realms, ∀ id, r.remembered? s id = none)
    (inOrder : ∀ r ∈ realms, (s.stores.get r.store).InOrder)
    (unclaimed : ∀ topic, (s.buses.get bus).reserved topic = [])
    (idle : ∀ topic, ∀ target ∈ (s.buses.get bus).listening topic, target.handler.Idle run)
    (defaultOperator : Operator) (logResults : Bool) (turns : List Turn) :
    let made := (Manager.withBus bus (realms.map .account)).run s
    let m := { made.1 with defaultOperator, logResults }
    let site (turns : List Turn) := ((m.spend run turns).run made.2).2
    let chronicle (turns : List Turn) :=
      Chronicle.after realms { accounts := fun store => (s.stores.get store).accounts } turns
    ∀ (ι : Type) [Requestable ι] [DecidableEq ι] (identity : Identity) (items : List ι),
      (chronicle turns).Explains run m realms (site turns) identity items ∧
      ∀ id, identity.primary? = some id →
        (∀ r ∈ realms, ∀ clearance, r.remembered? (site turns) id = some clearance →
          ∀ later : List Turn, (∀ turn ∈ later, !turn.notifies id) →
            ((r.ask run identity items).run.run (site (turns ++ later))).1 =
              r.answer (some clearance) items) ∧
        (∀ r ∈ realms, ∀ notice : Turn, notice.notifies id →
          ∀ later : List Turn, (∀ turn ∈ later, !turn.consults id) →
            let t := site (turns ++ notice :: later)
            ((r.ask run identity items).run.run t).1 =
              r.answer (((t.stores.get r.store).accounts.find? id).map Account.clearance) items) ∧
        (chronicle (turns.filter (·.concerns id))).Explains run m realms (site turns) identity
          items := by
  intro made m site chronicle ι _ _ identity items
  have own : m.authorizer = ⟨some (realms.map .account), some m.bus⟩ := rfl
  have tracks (turns : List Turn) : (chronicle turns).Tracks run m.bus realms (site turns) :=
    (tracks_withBus empty inOrder unclaimed idle).after own turns
  have asked (turns : List Turn) (r : AccountRealm) (mem : r ∈ realms) :=
    ((tracks turns).explains own identity items).realm_eq r mem
  refine ⟨(tracks turns).explains own identity items, fun id known => ⟨?_, ?_, ?_⟩⟩
  · intro r mem clearance remembered later silent
    rw [(tracks turns).remembered r mem, Option.map_eq_some_iff] at remembered
    obtain ⟨a, found, rfl⟩ := remembered
    have continued : chronicle (turns ++ later) = (chronicle turns).after realms later :=
      after_append
    have lasting : (chronicle (turns ++ later)).record? r.cache id = some a := by
      rw [continued]
      exact record?_after_of_eq_some found silent
    rw [asked _ r mem, reply_of_known known, lasting, Option.some_or, Option.map_some]
  · intro r mem notice notifies later unasked t
    have continued : chronicle (turns ++ notice :: later) =
        (notice.tell realms (chronicle turns)).after realms later := after_append
    have forgotten : (chronicle (turns ++ notice :: later)).record? r.cache id = none := by
      rw [continued]
      exact record?_after_of_eq_none (record?_tell_of_notifying notifies) unasked
    rw [asked _ r mem, reply_of_known known, forgotten, Option.none_or, (tracks _).accounts]
  · exact ((tracks turns).explains own identity items).congr known
      ((AgreesOn.refl id _).after_filter turns)

/-- Two realms over one store, and somebody who audits. An account that is removed still answers from
the caches, until its identity is notified. -/
theorem answers_by_first_record_of_removal :
    let alice : Identity := ⟨[⟨"accounts", "alice"⟩]⟩
    let realms : List AccountRealm :=
      [{ label := "first", store := 0, cache := 0 }, { label := "second", store := 0, cache := 1 }]
    let auditor : Handler Unit := .script ⟨"audit", 0, 0, ()⟩
    let site : Site Unit :=
      { stores := ({} : Arena (Store Unit)).set 0
          { accounts := SortedMap.empty.insert "alice" (.ofLists ["editor"] []) }
        buses := ({} : Arena (Bus (Handler Unit))).set 0
          (({} : Bus (Handler Unit)).subscribe "audit" .authorizationResults auditor) }
    let run : Unit → Action Unit Unit := fun _ => return ()
    let made := (Manager.withBus 0 (realms.map .account)).run site
    let m : Manager := { made.1 with defaultOperator := .all, logResults := true }
    let turns : List Turn := [.roles .verdicts alice ["editor"], .remove 0 "alice"]
    let notice : Turn := .notify .authenticated alice
    (∀ r ∈ realms, ∀ id, r.remembered? site id = none) ∧
      (∀ r ∈ realms, (site.stores.get r.store).InOrder) ∧
      (∀ topic, (site.buses.get 0).reserved topic = []) ∧
      (∀ topic, ∀ target ∈ (site.buses.get 0).listening topic, target.handler.Idle run) ∧
      ((m.verdicts run alice ["editor"]).run.run ((m.spend run turns).run made.2).2).1 =
        .ok [("editor", true)] ∧
      ((m.verdicts run alice ["editor"]).run.run
        ((m.spend run (turns ++ [notice])).run made.2).2).1 = .ok [("editor", false)] := by
  intro alice realms auditor site run made m turns notice
  have empty (r : AccountRealm) (_ : r ∈ realms) (id : String) : r.remembered? site id = none := rfl
  have inOrder (r : AccountRealm) (mem : r ∈ realms) : (site.stores.get r.store).InOrder := by
    simp only [realms, List.mem_cons, List.not_mem_nil, or_false] at mem
    rcases mem with rfl | rfl <;> exact ⟨rfl, rfl⟩
  have unclaimed (topic : Topic) : (site.buses.get 0).reserved topic = [] := by
    cases topic <;> rfl
  have idle (topic : Topic) (target : Registration (Handler Unit))
      (mem : target ∈ (site.buses.get 0).listening topic) : target.handler.Idle run := by
    have only : target ∈ (site.buses.get 0).registrations := (List.mem_filter.1 mem).1
    obtain rfl := List.mem_singleton.1 only
    exact fun message s => ⟨rfl, rfl, rfl⟩
  have answers (turns : List Turn) :=
    (answers_by_first_record empty inOrder unclaimed idle .all true turns String alice
      ["editor"]).1.verdicts_eq
  refine ⟨empty, inOrder, unclaimed, idle, (answers turns).trans ?_,
    (answers (turns ++ [notice])).trans ?_⟩
  · decide +kernel
  · decide +kernel

end Manager

end Gatehouse
