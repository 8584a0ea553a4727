import Mathlib.Data.List.Nodup
import Gatehouse.Config.Validation
import Gatehouse.Proofs.Clearance.Account

/-!
# Valid configurations

Validation passes exactly where no realm has a blank name, no two realms have the same name and
every permission text of every account can be read.
-/

namespace Gatehouse

namespace Config

/-- The realm has a name that is not blank, and its accounts can be read. -/
structure Realm.Sound (realm : Realm) : Prop where
  name_not_blank : ¬ Text.AllBlank realm.name.toList
  accounts : ∀ id a, realm.accounts.find? id = some a → a.Sound

theorem checkAccount_eq_ok_iff {realm account : String} {a : Account} :
    checkAccount realm account a = .ok () ↔ a.Sound := by
  rw [checkAccount, forM_eq_ok_iff]
  refine forall₂_congr fun text _ => ?_
  cases Permission.parse text <;> simp

theorem checkRealm_eq_ok_iff {earlier : List String} {realm : Realm} :
    checkRealm earlier realm = .ok () ↔ realm.Sound ∧ realm.name ∉ earlier := by
  have accounts : (realm.accounts.toList.forM fun entry =>
      checkAccount realm.name entry.1 entry.2) = .ok () ↔
        ∀ id a, realm.accounts.find? id = some a → a.Sound := by
    simp only [forM_eq_ok_iff, checkAccount_eq_ok_iff, Prod.forall, SortedMap.mem_toList_iff]
  rw [checkRealm]
  split
  next blank =>
    refine iff_of_false (by simp) fun h => h.1.name_not_blank ?_
    exact Text.trimChars_eq_nil_iff.1 (List.isEmpty_iff.1 blank)
  next named =>
    split
    next repeated => exact iff_of_false (by simp) fun h => h.2 repeated
    next new =>
      rw [accounts]
      refine ⟨fun h => ⟨⟨fun blank => named ?_, h⟩, new⟩, fun h => h.1.accounts⟩
      rw [Text.trimChars_eq_nil_iff.2 blank]
      rfl

theorem checkRealms_eq_ok_iff {earlier : List String} {realms : List Realm} :
    checkRealms earlier realms = .ok () ↔
      (∀ realm ∈ realms, realm.Sound ∧ realm.name ∉ earlier) ∧ (realms.map Realm.name).Nodup := by
  induction realms generalizing earlier with
  | nil => simp [checkRealms]
  | cons realm realms ih =>
    have step : checkRealms earlier (realm :: realms) = .ok () ↔
        checkRealm earlier realm = .ok () ∧
          checkRealms (earlier ++ [realm.name]) realms = .ok () := by
      rw [checkRealms]
      cases checkRealm earlier realm <;> simp [bind, Except.bind]
    rw [step, checkRealm_eq_ok_iff, ih, List.forall_mem_cons, List.map_cons, List.nodup_cons]
    simp only [List.mem_append, List.mem_singleton, not_or, List.mem_map, not_exists, not_and]
    grind

theorem checkRealms_append {earlier : List String} {before after : List Realm} :
    checkRealms earlier (before ++ after) = (checkRealms earlier before >>= fun _ =>
      checkRealms (earlier ++ before.map Realm.name) after) := by
  induction before generalizing earlier with
  | nil =>
    rw [List.map_nil, List.append_nil]
    rfl
  | cons realm before ih =>
    rw [List.cons_append, checkRealms, checkRealms]
    cases checkRealm earlier realm with
    | error e => rfl
    | ok _ =>
      change checkRealms _ _ = (checkRealms _ before >>= fun _ => checkRealms _ after)
      rw [ih, List.map_cons, List.append_assoc, List.singleton_append]

/-- A configuration is valid if its realms are sound and have distinct names. -/
theorem validate_eq_ok_iff {config : Config} :
    config.validate = .ok () ↔
      (∀ realm ∈ config.realms, realm.Sound) ∧ (config.realms.map Realm.name).Nodup := by
  rw [validate, checkRealms_eq_ok_iff]
  simp

end Config

end Gatehouse
