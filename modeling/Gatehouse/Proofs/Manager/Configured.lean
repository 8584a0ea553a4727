import Gatehouse.Proofs.Manager.Setup

/-!
# Managers in use

A manager that was made from a valid configuration decides by what is written there. Neither what it
was asked and told before nor the scripts that were at work beside it make a difference.
-/

namespace Gatehouse

open Site

variable {σ ι : Type} {config : Config} {places : List Placement} {s : Site σ}

/-! ## What is written -/

namespace Config

/-- Some realm has an account under exactly the primary identifier, and the property holds of it. -/
def Lists (config : Config) (identity : Identity) (holds : Account → Prop) : Prop :=
  ∃ realm ∈ config.realms, ∃ id a,
    identity.primary? = some id ∧ realm.accounts.find? id = some a ∧ holds a

/-- An account lists a text whose permission implies the requested one. -/
def Permits (config : Config) (identity : Identity) (requested : Permission) : Prop :=
  config.Lists identity fun a =>
    ∃ text ∈ a.permissions, ∃ p, Permission.parse text = .ok p ∧ p.implies requested

/-- An account has exactly this role. -/
def Assigns (config : Config) (identity : Identity) (role : String) : Prop :=
  config.Lists identity (role ∈ ·.roles)

theorem any_grants_iff [Requestable ι] [Written ι]
    (same : places.map Placement.written = config.realms) {identity : Identity} {item : ι} :
    places.any (·.written.grants identity item) ↔
      config.Lists identity (Written.grants · item) := by
  have grants (realm : Realm) : realm.grants identity item ↔ ∃ id a,
      identity.primary? = some id ∧ realm.accounts.find? id = some a ∧ Written.grants a item := by
    simp only [Realm.grants, Option.any_eq_true, Option.bind_eq_some_iff]
    grind
  simp only [Lists, ← same, List.any_eq_true, grants, List.mem_map, exists_exists_and_eq_and]

end Config

namespace Manager

/-! ## Decisions -/

/-- Asked in whichever way, the manager decides by these verdicts: one for each distinct item, in
order of first appearance, which grants what ought to be granted. Everything is granted if all of
them grant; a check passes if they do under the operator, and otherwise denies the request. -/
structure Decides [Requestable ι] [DecidableEq ι] (run : σ → Action σ Unit) (m : Manager)
    (s : Site σ) (operator : Operator) (granted : Identity → ι → Prop) (identity : Identity)
    (items : List ι) (verdicts : Verdicts ι) : Prop where
  distinct : verdicts.map Prod.fst = items.eraseDups
  right : ∀ verdict ∈ verdicts, verdict.2 ↔ granted identity verdict.1
  verdicts_eq : ((m.verdicts run identity items).run.run s).1 = .ok verdicts
  grantsAll_eq : ∃ all : Bool, (all ↔ ∀ verdict ∈ verdicts, verdict.2) ∧
    ((m.grantsAll run identity items).run.run s).1 = .ok all
  passes : operator.Requires (·.2) verdicts →
    ((m.check run identity items).run.run s).1 = .ok ()
  denies : ¬ operator.Requires (·.2) verdicts →
    ((m.check run identity items).run.run s).1 = .error (.unauthorized
      { identity, kind := Requestable.kind ι, items := items.map Requestable.text, operator })

/-- There is only one way to decide. -/
theorem Decides.eq_map [Requestable ι] [DecidableEq ι] {run : σ → Action σ Unit} {m : Manager}
    {operator : Operator} {granted : Identity → ι → Prop} {identity : Identity} {items : List ι}
    {verdicts : Verdicts ι} (h : m.Decides run s operator granted identity items verdicts)
    {grants : ι → Bool} (told : ∀ item, grants item ↔ granted identity item) :
    verdicts = items.eraseDups.map fun item => (item, grants item) := by
  have same (verdict : ι × Bool) (mem : verdict ∈ verdicts) :
      (verdict.1, grants verdict.1) = verdict :=
    Prod.ext rfl (Bool.eq_iff_iff.2 ((told _).trans (h.right verdict mem).symm))
  calc verdicts
    _ = verdicts.map fun verdict => (verdict.1, grants verdict.1) := by
      rw [List.map_congr_left same, List.map_id']
    _ = items.eraseDups.map fun item => (item, grants item) := by
      rw [← h.distinct, List.map_map]
      rfl

/-- The manager asks the placed realms, which are those of the configuration. -/
structure Configured (config : Config) (places : List Placement) (m : Manager) : Prop where
  written : places.map Placement.written = config.realms
  asks : m.authorizer.Over places
  operator : m.defaultOperator = config.authz.defaultOperator

variable {m : Manager} {run : σ → Action σ Unit}

section Keeping

variable (keeping : ∀ script, (run script).Keeps (Secluded places))

include keeping

theorem Configured.decides [Requestable ι] [DecidableEq ι] [Written ι]
    (made : Configured config places m) (apart : Apart places) (valid : config.validate = .ok ())
    (nonempty : config.realms ≠ []) (h : Secluded places s) {granted : Identity → ι → Prop}
    (means : ∀ identity item,
      config.Lists identity (Written.grants · item) ↔ granted identity item)
    (identity : Identity) (items : List ι) :
    ∃ verdicts,
      m.Decides run s config.authz.defaultOperator granted identity items verdicts := by
  have sound (p : Placement) (mem : p ∈ places) : p.written.Sound := by
    refine (Config.validate_eq_ok_iff.1 valid).1 _ ?_
    rw [← made.written]
    exact List.mem_map_of_mem mem
  have placed : places ≠ [] := by
    rintro rfl
    exact nonempty made.written.symm
  have checked : ((m.check run identity items).run.run s).1 = _ :=
    Authorizer.run_check keeping made.asks identity apart sound placed items _ h
  rw [made.operator] at checked
  refine ⟨Authorizer.writtenVerdicts places identity items, ?_, ?_, ?_, ?_, ?_, ?_⟩
  · simp [Authorizer.writtenVerdicts, Function.comp_def]
  · intro verdict mem
    obtain ⟨item, -, rfl⟩ := List.mem_map.1 mem
    exact (Config.any_grants_iff made.written).trans (means identity item)
  · obtain ⟨verdicts, t, ran, rfl, -⟩ := Authorizer.yields_verdicts keeping made.asks identity
      apart sound placed items m.logResults s h
    exact congrArg Prod.fst ran
  · obtain ⟨all, t, ran, rfl, -⟩ := Authorizer.yields_combined keeping made.asks identity
      apart sound placed items .all s h
    exact ⟨_, Operator.apply_map_iff, congrArg Prod.fst ran⟩
  · intro required
    rw [checked, if_pos (Operator.apply_map_iff.2 required)]
  · intro lacking
    rw [checked, if_neg (mt Operator.apply_map_iff.1 lacking)]

end Keeping

/-! ## Histories -/

/-- A way to ask a manager. -/
inductive Manner where
  | verdicts
  | grantsAll
  | check
  deriving DecidableEq

/-- Asks a manager and pays no regard to the answer. -/
def Manner.ask [Requestable ι] [DecidableEq ι] (run : σ → Action σ Unit) (m : Manager)
    (identity : Identity) (items : List ι) : Manner → Check σ Unit
  | verdicts => do let _ ← m.verdicts run identity items
  | grantsAll => do let _ ← m.grantsAll run identity items
  | check => m.check run identity items

/-- What is done with a manager, or beside it. -/
inductive Call (σ : Type) where
  | permissions (manner : Manner) (identity : Identity) (items : List Permission)
  | roles (manner : Manner) (identity : Identity) (items : List String)
  | notify (notification : Notification) (identity : Identity)
  | setBus (bus : Nat)
  /-- Gives the bus of the manager a name, under which scripts find it. -/
  | nameBus (name : String)
  | others (script : σ)

/-- What becomes of a manager on a call. -/
def Call.perform (run : σ → Action σ Unit) (m : Manager) : Call σ → Action σ Manager
  | permissions manner identity items => do
    let _ ← (manner.ask run m identity items).run
    return m
  | roles manner identity items => do
    let _ ← (manner.ask run m identity items).run
    return m
  | notify notification identity => do
    let _ ← m.notify run notification identity
    return m
  | setBus bus => m.setBus bus
  | nameBus name => do
    changeNames fun names =>
      { names with buses := names.buses.insert name { bus := m.bus, showsCounts := false } }
    return m
  | others script => do
    run script
    return m

/-- What becomes of a manager after some calls. -/
def after (run : σ → Action σ Unit) (m : Manager) (calls : List (Call σ)) : Action σ Manager :=
  calls.foldlM (Call.perform run) m

theorem Configured.fits (made : Configured config places m) :
    ∀ r ∈ m.authorizer.realms, r.Fits places := made.asks.fits

/-- A new bus changes nothing else. -/
theorem Configured.setBus (made : Configured config places m) (bus : Nat) :
    Configured config places ((m.setBus bus : Action σ Manager).run s).1 := by
  refine ⟨made.written, ?_, made.operator⟩
  change Authorizer.Over places ((m.authorizer.setBus bus : Action σ Authorizer).run s).1
  rw [Authorizer.setBus_eq]
  exact ⟨made.asks.realms, bus, rfl⟩

theorem Configured.perform (made : Configured config places m) (call : Call σ) :
    Configured config places ((call.perform run m).run s).1 := by
  cases call with
  | setBus bus => exact made.setBus bus
  | permissions manner identity items => exact made
  | roles manner identity items => exact made
  | notify notification identity => exact made
  | nameBus name => exact made
  | others script => exact made

/-- In whichever way a manager is asked, it keeps what its realms keep. -/
theorem Manner.keeps_ask {P : Site σ → Prop} (steady : Steady run P) [Requestable ι] [DecidableEq ι]
    (manner : Manner) {identity : Identity} {items : List ι}
    (asks : ∀ r ∈ m.authorizer.realms, Check.Keeps P (r.ask run identity items)) :
    (manner.ask run m identity items).Keeps P := by
  cases manner with
  | verdicts => exact .bind (steady.verdicts asks _) fun _ => .pure ()
  | grantsAll => exact .bind (steady.combined asks _) fun _ => .pure ()
  | check => exact steady.check asks _

section Keeping

variable (keeping : ∀ script, (run script).Keeps (Secluded places)) (apart : Apart places)
  (fits : ∀ r ∈ m.authorizer.realms, r.Fits places)

include keeping apart fits

theorem Call.keeps_perform (call : Call σ) : (call.perform run m).Keeps (Secluded places) := by
  have steady := steady_secluded keeping
  have asks {ι : Type} [Requestable ι] (identity : Identity) (items : List ι) (r : Realm)
      (mem : r ∈ m.authorizer.realms) := keeps_ask keeping apart (fits r mem) identity items
  cases call with
  | permissions manner identity items =>
    exact .bind (manner.keeps_ask steady (asks identity items)) fun _ => .pure m
  | roles manner identity items =>
    exact .bind (manner.keeps_ask steady (asks identity items)) fun _ => .pure m
  | notify notification identity => exact .bind (steady.send _ _) fun _ => .pure m
  | setBus bus => exact .bind (keeps_of_quiet (Authorizer.quiet_setBus bus)) fun _ => .pure _
  | nameBus name => exact .bind (keeps_nameBus name _) fun _ => .pure m
  | others script => exact .bind (keeping script) fun _ => .pure m

omit fits in
/-- Whatever calls there were, the manager is still as configured, and its realms are as written. -/
theorem Configured.after (made : Configured config places m) (h : Secluded places s)
    (calls : List (Call σ)) :
    Configured config places ((m.after run calls).run s).1 ∧
      Secluded places ((m.after run calls).run s).2 := by
  induction calls generalizing m s with
  | nil => exact ⟨made, h⟩
  | cons call calls ih =>
    rw [Manager.after, List.foldlM_cons]
    exact ih (made.perform call) (call.keeps_perform keeping apart made.fits s h)

end Keeping

end Manager

end Gatehouse
