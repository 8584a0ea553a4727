import Gatehouse.Proofs.Manager.Checks

/-!
# Managers of a configuration

A manager that is made from a valid configuration asks realms that are placed one by one, each with
a new store and a new cache. What was placed before stays as it was.
-/

namespace Gatehouse

open Site

variable {σ : Type} {places more : List Placement} {s t : Site σ}

/-! ## Placing realms -/

/-- The place of a realm that is made now. -/
def Config.Realm.place (written : Config.Realm) (s : Site σ) : Placement :=
  { written, store := s.stores.size, cache := s.caches.size }

/-- A realm in use shares nothing with one that is made now. -/
theorem Realm.Fits.place {r : Realm} (fits : r.Fits places) (used : r.InUse s)
    (written : Config.Realm) : r.Fits (places ++ [written.place s]) := by
  cases r with
  | outside r => trivial
  | account r =>
    obtain ⟨store_lt, cache_lt⟩ := used
    rcases fits with ⟨q, mem, same⟩ | other
    · exact .inl ⟨q, List.mem_append_left _ mem, same⟩
    · refine .inr fun q mem => ?_
      rcases List.mem_append.1 mem with mem | mem
      · exact other q mem
      · obtain rfl := List.mem_singleton.1 mem
        exact ⟨Nat.ne_of_lt store_lt, Nat.ne_of_lt cache_lt⟩

theorem Apart.place (h : Secluded places s) (apart : Apart places) (written : Config.Realm) :
    Apart (places ++ [written.place s]) := by
  have new (p : Placement) (mem : p ∈ places) :
      ¬ (p.store = (written.place s).store ∨ p.cache = (written.place s).cache) := by
    have store_lt := (h.held p mem).store_lt
    have cache_lt := (h.held p mem).cache_lt
    simp only [Config.Realm.place]
    omega
  intro p hp q hq same
  rw [List.mem_append, List.mem_singleton] at hp hq
  rcases hp with hp | rfl <;> rcases hq with hq | rfl
  · exact apart p hp q hq same
  · exact absurd same (new p hp)
  · exact absurd (same.imp Eq.symm Eq.symm) (new q hq)
  · rfl

/-- A new cache remembers nothing. -/
theorem Placement.holds_place (written : Config.Realm) :
    (written.place s).Holds ((written.build : Action σ Realm).run s).2 where
  store_lt := Nat.lt_succ_self _
  cache_lt := Nat.lt_succ_self _
  stored := Arena.get_push.trans (if_pos rfl)
  cached id c found := by
    have fresh : (s.caches.push {}).get s.caches.size = {} := Arena.get_push.trans (if_pos rfl)
    have nothing := (congrArg (·.entries.find? id) fresh).symm.trans found
    contradiction

/-- A realm that is made now is placed beside the others. -/
theorem Secluded.place (h : Secluded places s) (written : Config.Realm) :
    Secluded (places ++ [written.place s]) ((written.build : Action σ Realm).run s).2 := by
  have named {r : Realm} (h : r.Known places s) :
      r.Known (places ++ [written.place s]) ((written.build : Action σ Realm).run s).2 :=
    ⟨h.fits.place h.used written, h.used.mono (Nat.le_succ _) (Nat.le_succ _)⟩
  have kept : Secluded places ((written.build : Action σ Realm).run s).2 :=
    keeps_newCache _ (keeps_newStore _ s h)
  refine ⟨fun p mem => ?_, fun name n found => ?_, fun name r found => ?_,
    fun name a found r mem => ?_, fun name m found r mem => ?_⟩
  · rcases List.mem_append.1 mem with mem | mem
    · exact kept.held p mem
    · obtain rfl := List.mem_singleton.1 mem
      exact Placement.holds_place written
  · obtain ⟨other, lt⟩ := h.stores name n found
    refine ⟨fun p mem => ?_, Nat.lt_succ_of_lt lt⟩
    rcases List.mem_append.1 mem with mem | mem
    · exact other p mem
    · obtain rfl := List.mem_singleton.1 mem
      exact Nat.ne_of_lt lt
  · exact named (h.realms name r found)
  · exact named (h.authorizers name a found r mem)
  · exact named (h.managers name m found r mem)

/-- The making of realms, as it is done for a configuration. -/
abbrev buildAll (written : List Config.Realm) : ExceptT ConfigError (Action σ) (List Realm) :=
  written.mapM fun realm => (realm.build : Action σ Realm)

theorem exists_places (written : List Config.Realm) (h : Secluded places s) (apart : Apart places) :
    ∃ more t, (buildAll written).run.run s = (.ok (more.map fun p => .account p.realm), t) ∧
      more.map Placement.written = written ∧ Secluded (places ++ more) t ∧
      Apart (places ++ more) := by
  induction written generalizing places s with
  | nil =>
    refine ⟨[], s, rfl, rfl, ?_, ?_⟩ <;> rw [List.append_nil]
    · exact h
    · exact apart
  | cons realm written ih =>
    obtain ⟨more, t, built, same, held, apart'⟩ := ih (h.place realm) (apart.place h realm)
    rw [List.append_assoc] at held apart'
    refine ⟨realm.place s :: more, t, ?_, ?_, held, apart'⟩
    · rw [buildAll, List.mapM_cons]
      exact (Check.run_bind_of_ok rfl).trans (Check.run_bind_of_ok built)
    · rw [List.map_cons, same]
      rfl

/-- Realms can always be made. -/
theorem exists_buildAll (written : List Config.Realm) (s : Site σ) :
    ∃ realms t, (buildAll written).run.run s = (.ok realms, t) := by
  induction written generalizing s with
  | nil => exact ⟨[], s, rfl⟩
  | cons realm written ih =>
    obtain ⟨realms, t, built⟩ := ih ((realm.build : Action σ Realm).run s).2
    refine ⟨((realm.build : Action σ Realm).run s).1 :: realms, t, ?_⟩
    rw [buildAll, List.mapM_cons]
    exact (Check.run_bind_of_ok rfl).trans (Check.run_bind_of_ok built)

/-! ## Making a manager -/

theorem Manager.quiet_withBus (bus : Nat) (realms : List Realm) :
    (Manager.withBus bus realms : Action σ Manager).Quiet :=
  .bind (Authorizer.quiet_setBus bus) fun _ => .bind (Authorizer.quiet_setRealms realms) fun _ =>
    .pure _

theorem Manager.quiet_new (realms : List Realm) : (Manager.new realms : Action σ Manager).Quiet :=
  .bind quiet_newBus fun bus => Manager.quiet_withBus bus realms

/-- What the manager of a configuration is made of. -/
theorem Manager.run_ofConfig {config : Config} {realms : List Realm}
    (valid : config.validate = .ok ())
    (built : (buildAll config.realms).run.run s = (.ok realms, t)) :
    let made := (Manager.new realms : Action σ Manager).run t
    (Manager.ofConfig config).run.run s = (.ok { made.1 with
      defaultOperator := config.authz.defaultOperator
      logResults := config.authz.logResults }, made.2) := by
  intro made
  rw [Manager.ofConfig, valid]
  refine (Check.run_bind_of_ok rfl).trans ((Check.run_bind_of_ok built).trans ?_)
  exact Check.run_bind_of_ok rfl

/-- The manager of a valid configuration asks realms that are placed as written. -/
theorem exists_ofConfig {config : Config} (valid : config.validate = .ok ())
    (h : Secluded places s) (apart : Apart places) :
    ∃ m t more, (Manager.ofConfig config).run.run s = (.ok m, t) ∧
      more.map Placement.written = config.realms ∧ Secluded (places ++ more) t ∧
      Apart (places ++ more) ∧ m.authorizer.Over more ∧
      m.defaultOperator = config.authz.defaultOperator := by
  obtain ⟨more, t, built, same, held, apart'⟩ := exists_places config.realms h apart
  let made := (Manager.new (more.map fun p => .account p.realm) : Action σ Manager).run t
  have kept : Secluded (places ++ more) made.2 := keeps_of_quiet (Manager.quiet_new _) t held
  have asks : made.1.authorizer.Over more := ⟨rfl, _, rfl⟩
  exact ⟨_, made.2, more, Manager.run_ofConfig valid built, same, kept, apart', asks, rfl⟩

/-- A manager is made of a configuration wherever that is valid, and nowhere else. -/
theorem Manager.exists_ofConfig_eq_ok_iff {config : Config} {s : Site σ} :
    (∃ m t, (Manager.ofConfig config).run.run s = (.ok m, t)) ↔ config.validate = .ok () := by
  constructor
  · rintro ⟨m, t, made⟩
    rw [Manager.ofConfig] at made
    cases checked : config.validate with
    | ok _ => rfl
    | error e =>
      rw [checked] at made
      have refused := (Check.run_bind_of_error rfl).symm.trans made
      exact nomatch (Prod.mk.inj refused).1
  · intro valid
    obtain ⟨realms, t, built⟩ := exists_buildAll config.realms s
    exact ⟨_, _, Manager.run_ofConfig valid built⟩

end Gatehouse
