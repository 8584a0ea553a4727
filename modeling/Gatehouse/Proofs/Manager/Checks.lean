import Gatehouse.Proofs.Authorizer.Joining
import Gatehouse.Proofs.Authorizer.Registrations
import Gatehouse.Proofs.Realm.Answers
import Gatehouse.Site.Manager

/-!
# Checks over placed realms

To set an authorizer up is no matter to the placed realms, and a check over these realms gives verdicts
as written.
-/

namespace Gatehouse

open Site

variable {σ : Type} {places : List Placement} {run : σ → Action σ Unit}

namespace Authorizer

/-! ## Registrations -/

section

variable {a : Authorizer}

theorem quiet_subscribeOn (realms : List Realm) (bus : Nat) :
    (subscribeOn realms bus : Action σ Unit).Quiet := .forM fun _ => quiet_changeBus bus _

theorem quiet_unsubscribeFrom (bus : Nat) : (unsubscribeFrom bus : Action σ Unit).Quiet :=
  .forM fun _ => quiet_changeBus bus _

theorem quiet_setRealms (realms : List Realm) :
    (a.setRealms realms : Action σ Authorizer).Quiet := by
  obtain ⟨_ | _, _ | bus⟩ := a
  · exact .pure _
  · exact .bind (quiet_subscribeOn realms bus) fun _ => .pure _
  · exact .pure _
  · exact .bind (quiet_subscribeOn realms bus) fun _ => .pure _

theorem quiet_setBus (bus : Nat) : (a.setBus bus : Action σ Authorizer).Quiet := by
  obtain ⟨_ | realms, _ | previous⟩ := a
  · exact .pure _
  · exact .bind (quiet_unsubscribeFrom previous) fun _ => .pure _
  · exact .bind (quiet_subscribeOn realms bus) fun _ => .pure _
  · refine .bind (quiet_unsubscribeFrom previous) fun _ => ?_
    exact .bind (quiet_subscribeOn realms bus) fun _ => .pure _

end

/-! ## Joining -/

/-- Verdicts of several voices on the same items come together in one for each item, which grants it
if any voice does. -/
theorem join_flatten [DecidableEq ι] {l : List α} (nonempty : l ≠ []) (grants : α → ι → Bool)
    (items : List ι) :
    Verdicts.join (l.map fun a => items.map fun item => (item, grants a item)).flatten =
      items.eraseDups.map fun item => (item, l.any (grants · item)) := by
  have same : ∀ answer ∈ l.map fun a => items.map fun item => (item, grants a item),
      answer.map Prod.fst = items := by
    simp [Function.comp_def]
  rw [Verdicts.join_flatten (by simpa using nonempty) same]
  refine List.map_congr_left fun item mem => ?_
  have mem : item ∈ items := List.mem_eraseDups.1 mem
  simp only [List.any_map, Function.comp_def, Verdicts.grants_map mem]

/-! ## Checks over the placed realms -/

/-- The authorizer asks the placed realms, and has a bus to publish on. -/
structure Over (places : List Placement) (a : Authorizer) : Prop where
  realms : a.realms? = some (places.map fun p => .account p.realm)
  bus : ∃ bus, a.bus? = some bus

theorem Over.fits {a : Authorizer} (h : a.Over places) : ∀ r ∈ a.realms, r.Fits places := by
  intro r mem
  rw [Authorizer.realms, h.realms] at mem
  obtain ⟨p, placed, rfl⟩ := List.mem_map.1 mem
  exact .inl ⟨p, placed, rfl⟩

/-- The verdicts on some items as they are written. -/
def writtenVerdicts [Requestable ι] [DecidableEq ι] [Written ι] (places : List Placement)
    (identity : Identity) (items : List ι) : Verdicts ι :=
  items.eraseDups.map fun item => (item, places.any (·.written.grants identity item))

theorem yields_reporting (realm : Realm) {check : Check σ α} {Q : α → Prop}
    (h : Check.Yields (Secluded places) check Q) :
    Check.Yields (Secluded places) (reporting realm check) Q := by
  intro s hs
  obtain ⟨found, t, ran, hq, ht⟩ := h s hs
  exact ⟨found, t, Check.run_tryCatch_of_ok ran, hq, ht⟩

section Yields

variable [Requestable ι] (keeping : ∀ script, (run script).Keeps (Secluded places))
  {a : Authorizer} (asks : a.Over places) (identity : Identity)

include keeping asks

theorem yields_publish (topic : Topic) (notice : AuthorizationNotice) :
    Check.Yields (Secluded places) (a.publish run topic notice) fun _ => True := by
  obtain ⟨bus, set⟩ := asks.bus
  have own : a.assertBus = .ok bus := by rw [assertBus, set]
  refine .bind (.ofExcept own (Q := fun _ => True) trivial) fun bus _ => ?_
  exact .lift ((steady_secluded keeping).send bus _)

theorem yields_publishResults (results : Verdicts ι) :
    Check.Yields (Secluded places) (a.publishResults run identity results) fun _ => True :=
  .forM fun _ _ => .bind (yields_publish keeping asks _ _) fun _ _ => .pure trivial

variable [Written ι] [DecidableEq ι] (apart : Apart places)
  (sound : ∀ p ∈ places, p.written.Sound) (nonempty : places ≠ []) (items : List ι)

omit keeping asks in
include apart sound nonempty in
theorem yields_fanOut :
    Check.Yields (Secluded places)
      (fanOut run (places.map fun p => .account p.realm) identity items)
      (·.join = writtenVerdicts places identity items) := by
  have asked (p : Placement) (mem : p ∈ places) :
      Check.Yields (Secluded places)
        (reporting (.account p.realm) ((Realm.account p.realm).ask run identity items))
        (· = items.map fun item => (item, p.written.grants identity item)) :=
    yields_reporting _ (yields_ask apart mem (sound p mem) identity items)
  refine .bind (?_ : Check.Yields _ _ (· = places.map fun p =>
    items.map fun item => (item, p.written.grants identity item))) fun found h => .pure ?_
  · rw [List.mapM_map]
    exact .mapM asked
  · rw [h, join_flatten nonempty, writtenVerdicts]

include apart sound nonempty

omit keeping in
theorem yields_consult :
    Check.Yields (Secluded places) (a.consult run identity items)
      (· = writtenVerdicts places identity items) := by
  have realms : a.realms = places.map fun p => .account p.realm := by
    rw [Authorizer.realms, asks.realms, Option.getD_some]
  have own : a.assertRealms = .ok (places.map fun p => .account p.realm) := by
    rw [assertRealms, realms, if_neg (by simpa using nonempty)]
  refine .bind (.ofExcept own (Q := (· = places.map fun p => .account p.realm)) rfl)
    fun found h => ?_
  subst h
  exact .bind (yields_fanOut identity apart sound nonempty items) fun _ joined => .pure joined

theorem yields_verdicts (logResults : Bool) :
    Check.Yields (Secluded places) (a.verdicts run identity items logResults)
      (· = writtenVerdicts places identity items) := by
  refine .bind (yields_consult asks identity apart sound nonempty items) fun results h => ?_
  cases logResults with
  | false => exact .pure h
  | true => exact .bind (yields_publishResults keeping asks identity results) fun _ _ => .pure h

theorem yields_combined (operator : Operator) :
    Check.Yields (Secluded places) (a.combined run identity items operator)
      (· = operator.apply ((writtenVerdicts places identity items).map Prod.snd)) := by
  refine .bind (yields_consult asks identity apart sound nonempty items) fun results h => ?_
  exact .bind (yields_publish keeping asks _ _) fun _ _ => .pure (by rw [h])

/-- A check passes where the written verdicts do, and otherwise denies the items. -/
theorem run_check (operator : Operator) {s : Site σ} (h : Secluded places s) :
    ((a.check run identity items operator).run.run s).1 =
      if operator.apply ((writtenVerdicts places identity items).map Prod.snd) then .ok ()
      else .error (.unauthorized
        { identity, kind := Requestable.kind ι, items := items.map Requestable.text,
          operator }) := by
  obtain ⟨granted, t, ran, rfl, -⟩ :=
    yields_combined keeping asks identity apart sound nonempty items operator s h
  rw [check, Check.run_bind_of_ok ran]
  split <;> rfl

end Yields

end Authorizer

end Gatehouse
