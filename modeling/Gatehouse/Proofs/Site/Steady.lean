import Gatehouse.Proofs.Realm.Loading
import Gatehouse.Proofs.Site.Keeping
import Gatehouse.Site.Authorizer

/-!
# Properties that checks keep

A check records what it does, runs the scripts of stores and listeners, and makes realms forget. A
property to which none of this matters (`Steady`) is kept by whatever is sent, and by a check of any
realms that keep it when they are asked (`Steady.verdicts`, `Steady.combined`, `Steady.check`).
-/

namespace Gatehouse

open Site

/-- Neither the record, nor the counts of deliveries, nor an eviction, nor a script makes a difference
to the property. -/
structure Steady {σ : Type} (run : σ → Action σ Unit) (P : Site σ → Prop) : Prop where
  frame : ∀ s t : Site σ, s.Beside t → t.buses = s.buses → P s → P t
  evict : ∀ cache identity, (changeCache cache (·.evict identity) : Action σ Unit).Keeps P
  script : ∀ script, (run script).Keeps P

namespace Steady

variable {σ ι α : Type} {run : σ → Action σ Unit} {P : Site σ → Prop} (h : Steady run P)

include h

/-! ## Messages -/

theorem record (happening : Happening) : (record happening : Action σ Unit).Keeps P :=
  fun s hs => h.frame s _ ⟨rfl, rfl, rfl⟩ rfl hs

theorem clear (realm : Realm) (identity : Identity) :
    (realm.clear identity : Action σ Bool).Keeps P := by
  cases realm with
  | account r => exact .bind (h.evict r.cache identity) fun _ => .pure true
  | outside r =>
    rw [Realm.clear]
    dsimp only
    split
    · exact .bind (h.record _) fun _ => .pure r.caching
    · exact .pure r.caching

theorem clearAll (realms : List Realm) (identity : Identity) :
    (Realm.clearAll realms identity : Action σ Nat).Keeps P :=
  .bind (.mapM fun realm _ => h.clear realm identity) fun _ => .pure _

theorem notify (handler : Handler σ) (message : Message) :
    (handler.notify run message).Keeps P := by
  cases handler with
  | clear listener realms =>
    rw [Handler.notify, CacheListener.notify]
    split
    next identity _ => exact .bind (h.clearAll realms identity) fun _ => .pure ()
    next => exact h.record _
  | script script =>
    refine .bind (h.record _) fun _ => .bind .get fun s => ?_
    have counted (n : Nat) : Action.Keeps P (modify fun t : Site σ =>
        { t with deliveries := t.deliveries.set script.counter n }) :=
      fun u hu => h.frame u _ ⟨rfl, rfl, rfl⟩ rfl hu
    refine .bind (counted _) fun _ => ?_
    split
    · exact h.script script.actions
    · exact .pure ()

theorem send (bus : Nat) (message : Message) : (send run bus message).Keeps P :=
  .bind .get fun _ => .bind (.forM fun target _ => h.notify target.handler message) fun _ => .pure _

/-! ## Questions -/

theorem lookUp {store : Nat} (free : ∀ f, (changeStore store f).Keeps P) (id : String) :
    Check.Keeps P (lookUp run store id) := by
  intro s hs
  have noted : P (s.noting (s.stores.get store).watchedAs? id) := by
    unfold noting
    split
    · exact h.record _ s hs
    · exact hs
  change P ((Site.lookUp run store id).run.run s).2
  rw [run_lookUp]
  dsimp only
  split
  · exact noted
  · dsimp only
    split
    · exact noted
    · exact h.script _ _ (free _ _ noted)

/-- A load, whatever scripts the store runs. -/
theorem load {r : AccountRealm} (store : ∀ f, (changeStore r.store f).Keeps P)
    (cache : ∀ f, (changeCache r.cache f : Action σ Unit).Keeps P) (id : String) (retries : Nat) :
    Check.Keeps P (r.load run id retries) := by
  induction retries using Nat.strongRecOn with
  | _ retries ih =>
    intro s hs
    cases remembered : r.remembered? s id with
    | some c =>
      rw [AccountRealm.load_of_remembered remembered]
      exact hs
    | none =>
      have after : P ((Site.lookUp run r.store id).run.run s).2 := h.lookUp store id s hs
      rcases looked : (Site.lookUp run r.store id).run.run s with ⟨e | _ | a, t⟩ <;>
        rw [looked] at after
      · rw [AccountRealm.load_of_error remembered looked]
        exact after
      · rw [AccountRealm.load_of_unknown remembered looked]
        exact after
      · have warned : P ((warnUnfiled a.grants : Action σ Unit).run t).2 :=
          Action.Keeps.forM (fun _ _ => h.record _) t after
        rw [AccountRealm.load_of_found remembered looked]
        dsimp only
        split
        · exact cache _ _ warned
        · split
          · exact warned
          next n => exact ih n (Nat.lt_succ_self n) _ warned

/-- A realm over a free store and a free cache. -/
theorem clearance? {r : AccountRealm} (store : ∀ f, (changeStore r.store f).Keeps P)
    (cache : ∀ f, (changeCache r.cache f : Action σ Unit).Keeps P) (identity : Identity) :
    Check.Keeps P (r.clearance? run identity) := by
  rw [AccountRealm.clearance?]
  split
  next id _ => exact h.load store cache id 1
  next => exact .pure none

variable [Requestable ι] {identity : Identity} {items : List ι}

omit h in
theorem askAccount {r : AccountRealm} (found : Check.Keeps P (r.clearance? run identity)) :
    Check.Keeps P ((Realm.account r).ask run identity items) := by
  refine .bind found fun c? => ?_
  split
  · exact .ofExcept _
  · exact .pure _

theorem askOutside (r : OutsideRealm) :
    Check.Keeps P ((Realm.outside r).ask run identity items) :=
  .bind (.lift (h.record _)) fun _ => .ofExcept _

/-! ## Checks -/

theorem reporting {realm : Realm} {check : Check σ α} (keeps : check.Keeps P) :
    (Authorizer.reporting realm check).Keeps P :=
  .tryCatch keeps fun e => .bind (.lift (h.record _)) fun _ => .throw e

variable {a : Authorizer}

theorem publish (topic : Topic) (notice : AuthorizationNotice) :
    Check.Keeps P (a.publish run topic notice) :=
  .bind (.ofExcept _) fun bus => .lift (h.send bus _)

theorem publishResults (results : Verdicts ι) :
    Check.Keeps P (a.publishResults run identity results) :=
  .forM fun _ _ => .bind (h.publish _ _) fun _ => .pure ()

variable [DecidableEq ι]
  (asks : ∀ realm ∈ a.realms, Check.Keeps P (realm.ask run identity items))

include asks

theorem consult : Check.Keeps P (a.consult run identity items) := by
  rw [Authorizer.consult, Authorizer.assertRealms]
  split
  · exact fun s hs => hs
  · have fanned : Check.Keeps P (Authorizer.fanOut run a.realms identity items) :=
      .bind (.mapM fun realm mem => h.reporting (asks realm mem)) fun _ => .pure _
    exact fun s hs => fanned.bind (fun found => .pure found.join) s hs

theorem verdicts (logResults : Bool) :
    Check.Keeps P (a.verdicts run identity items logResults) := by
  refine .bind (h.consult asks) fun results => ?_
  split
  · exact .bind (h.publishResults results) fun _ => .pure _
  · exact .pure _

theorem combined (operator : Operator) :
    Check.Keeps P (a.combined run identity items operator) :=
  .bind (h.consult asks) fun _ => .bind (h.publish _ _) fun _ => .pure _

theorem check (operator : Operator) : Check.Keeps P (a.check run identity items operator) := by
  refine .bind (h.combined asks operator) fun granted => ?_
  split
  · exact .pure ()
  · exact .throw _

end Steady

end Gatehouse
