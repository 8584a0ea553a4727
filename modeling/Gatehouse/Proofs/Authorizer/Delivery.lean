import Gatehouse.Proofs.Authorizer.Registrations
import Gatehouse.Proofs.Site.Keeping

/-!
# Delivery to an authorizer

Of the listeners to whom a message is delivered on the bus of an authorizer, one at most is its own:
it makes every caching realm forget once whom the message makes stale, or warns of a payload that it
does not expect (`Authorizer.respond`). All others are notified before or after it.
-/

namespace Gatehouse

open Site

variable {σ α β η : Type} {run : σ → Action σ Unit} {s : Site σ} {realms : List Realm}
  {message : Message}

/-! ## Clearing -/

namespace Action

theorem run_mapM_snd {f : α → Action σ β} {l : List α} :
    ((l.mapM f).run s).2 = ((l.forM fun a => do let _ ← f a).run s).2 := by
  induction l generalizing s with
  | nil => rfl
  | cons a l ih =>
    rw [List.mapM_cons, run_forM_cons]
    exact ih

/-- Members for which nothing is done can be left out. -/
theorem run_forM_filter {f : α → Action σ Unit} {p : α → Bool}
    (idle : ∀ a, p a = false → ∀ s, (f a).run s = ((), s)) {l : List α} :
    ((l.filter p).forM f).run s = (l.forM f).run s := by
  induction l generalizing s with
  | nil => rfl
  | cons a l ih =>
    rw [run_forM_cons]
    cases h : p a with
    | true => rw [List.filter_cons_of_pos h, run_forM_cons, ih]
    | false => rw [List.filter_cons_of_neg (by simp [h]), idle a h, ih]

theorem run_forM_append {f : α → Action σ Unit} {l m : List α} :
    ((l ++ m).forM f).run s = (m.forM f).run ((l.forM f).run s).2 := by
  induction l generalizing s with
  | nil => rfl
  | cons a l ih => rw [List.cons_append, run_forM_cons, run_forM_cons, ih]

end Action

/-- Makes every realm that remembers forget an identity, one after the other. -/
def Realm.clearCaching (realms : List Realm) (identity : Identity) : Action σ Unit :=
  (realms.filter Realm.isCaching).forM fun realm => do let _ ← realm.clear identity

/-- A realm that does not remember has nothing to forget. -/
theorem Realm.run_clear_of_not_caching {realm : Realm} (h : realm.isCaching = false)
    (identity : Identity) (s : Site σ) : (realm.clear identity).run s = (false, s) := by
  cases realm with
  | account r => contradiction
  | outside r =>
    have idle : r.caching = false := h
    simp only [Realm.clear, Realm.isCaching, idle]
    rfl

theorem Realm.run_clearAll_snd (realms : List Realm) (identity : Identity) :
    ((Realm.clearAll realms identity).run s).2 = ((Realm.clearCaching realms identity).run s).2 := by
  have idle (realm : Realm) (h : realm.isCaching = false) (s : Site σ) :
      ((do let _ ← realm.clear identity) : Action σ Unit).run s = ((), s) := by
    rw [StateT.run_bind, Realm.run_clear_of_not_caching h]
    rfl
  have told : ((Realm.clearAll realms identity).run s).2 =
      ((realms.mapM fun realm : Realm => realm.clear identity).run s).2 := rfl
  rw [told, Action.run_mapM_snd, clearCaching, Action.run_forM_filter idle]

/-! ## What a message asks of an authorizer -/

/-- Whose cached clearance the message makes stale. -/
def Message.stale? (message : Message) : Option Identity :=
  match message.topic, message.payload with
  | .sessionStop, .session notice => some notice.identity
  | .sessionExpire, .session notice => some notice.identity
  | .authenticationSucceeded, .authentication identity => some identity
  | _, _ => none

/-- What an authorizer with these realms does when the message is delivered to it. -/
def Authorizer.respond (realms : List Realm) (message : Message) : Action σ Unit :=
  match message.stale?, message.topic.cacheListener? with
  | some identity, _ => Realm.clearCaching realms identity
  | none, some listener => warn (.clearSkipped listener message.topic message.payload.kind)
  | none, none => return ()

theorem Message.stale?_eq_subject? {listener : CacheListener}
    (own : message.topic.cacheListener? = some listener) :
    message.stale? = listener.subject? message.payload := by
  obtain ⟨topic, payload⟩ := message
  cases topic <;> cases own <;> cases payload <;> rfl

theorem Message.stale?_of_other (other : message.topic.cacheListener? = none) :
    message.stale? = none := by
  obtain ⟨topic, payload⟩ := message
  cases topic <;> first | rfl | contradiction

theorem CacheListener.run_notify {listener : CacheListener}
    (own : message.topic.cacheListener? = some listener) :
    (listener.notify realms message).run s = (Authorizer.respond realms message).run s := by
  rw [Authorizer.respond, Message.stale?_eq_subject? own, own, notify]
  cases listener.subject? message.payload with
  | some identity => exact Prod.ext rfl (Realm.run_clearAll_snd realms identity)
  | none => rfl

/-! ## Delivery -/

/-- Notifies listeners one after the other. -/
def Site.notifyAll (run : σ → Action σ Unit) (targets : List (Registration (Handler σ)))
    (message : Message) : Action σ Unit :=
  targets.forM fun target => target.handler.notify run message

/-- A single reserved registration stands somewhere among the others. -/
theorem Bus.exists_listening_eq {b : Bus η} {topic : Topic} {r : Registration η}
    (h : b.reserved topic = [r]) :
    ∃ before after, b.listening topic = before ++ r :: after ∧ before ++ after = b.others topic := by
  obtain ⟨before, after, split, unreserved, own, rest⟩ := List.filter_eq_cons_iff.1 h
  have others (l : List (Registration η))
      (none : ∀ q ∈ l, ¬ CacheListener.isReserved q.listener = true) :
      l.filter (!CacheListener.isReserved ·.listener) = l :=
    List.filter_eq_self.2 fun q mem => by simpa using none q mem
  refine ⟨before, after, split, ?_⟩
  rw [Bus.others, split, List.filter_append, List.filter_cons_of_neg (by simp [own]),
    others before unreserved, others after (List.filter_eq_nil_iff.1 rest)]

/-- A message that is sent on the bus of an authorizer with these realms reaches it once at most,
among the other listeners. -/
theorem Site.run_send_of_reserved (run : σ → Action σ Unit) {bus : Nat}
    (entered : (s.buses.get bus).reserved message.topic = message.topic.cacheRegistrations realms) :
    ∃ before after, before ++ after = (s.buses.get bus).others message.topic ∧
      (send run bus message).run s = (do
        notifyAll run before message
        Authorizer.respond realms message
        notifyAll run after message
        return (s.buses.get bus).count message.topic : Action σ Nat).run s := by
  have sent : (send run bus message).run s = ((s.buses.get bus).count message.topic,
      ((notifyAll run ((s.buses.get bus).listening message.topic) message).run s).2) := rfl
  rw [sent]
  cases own : message.topic.cacheListener? with
  | none =>
    rw [Topic.cacheRegistrations, own] at entered
    refine ⟨(s.buses.get bus).listening message.topic, [], ?_, ?_⟩
    · rw [List.append_nil, Bus.others_of_reserved_eq_nil entered]
    · rw [Authorizer.respond, Message.stale?_of_other own, own]
      rfl
  | some listener =>
    rw [Topic.cacheRegistrations, own] at entered
    obtain ⟨before, after, split, others⟩ := Bus.exists_listening_eq entered
    refine ⟨before, after, others, ?_⟩
    have responds (s : Site σ) : (listener.notify realms message).run s =
        (Authorizer.respond realms message).run s := CacheListener.run_notify own
    rw [split, notifyAll, Action.run_forM_append, Action.run_forM_cons, Handler.notify, responds]
    rfl

/-! ## Idle listeners -/

/-- Whatever it is told, the handler leaves stores, caches and buses alone. -/
def Handler.Idle (run : σ → Action σ Unit) (handler : Handler σ) : Prop :=
  ∀ message (s : Site σ), s.Alike ((handler.notify run message).run s).2

theorem Site.alike_notifyAll {targets : List (Registration (Handler σ))}
    (idle : ∀ target ∈ targets, target.handler.Idle run) (message : Message) (s : Site σ) :
    s.Alike ((notifyAll run targets message).run s).2 := by
  have keeps : (notifyAll run targets message).Keeps s.Alike :=
    .forM fun target mem t alike => alike.trans (idle target mem message t)
  exact keeps s ⟨rfl, rfl, rfl⟩

/-- What is sent to an authorizer among idle listeners has the effect of its response alone. -/
theorem Site.exists_run_send_of_idle {bus : Nat}
    (entered : (s.buses.get bus).reserved message.topic = message.topic.cacheRegistrations realms)
    (idle : ∀ target ∈ (s.buses.get bus).others message.topic, target.handler.Idle run) :
    ∃ t, s.Alike t ∧
      ((Authorizer.respond realms message).run t).2.Alike ((send run bus message).run s).2 := by
  obtain ⟨before, after, others, sent⟩ := run_send_of_reserved run entered
  rw [← others] at idle
  obtain ⟨earlier, later⟩ := List.forall_mem_append.1 idle
  refine ⟨((notifyAll run before message).run s).2, alike_notifyAll earlier message s, ?_⟩
  rw [sent]
  exact alike_notifyAll later message _

end Gatehouse
