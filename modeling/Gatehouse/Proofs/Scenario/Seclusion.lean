import Gatehouse.Proofs.Scenario.Naming

/-!
# Scripts and placed realms

Whatever the steps of a script do, they leave the placed realms as they are. This goes for the
scripts that they hand to listeners and stores, too.
-/

namespace Gatehouse

open Site

variable {σ : Type} {places : List Placement} {s : Site σ}

/-! ## Steps -/

namespace ClearanceStep

theorem keeps_assign (name : String) (c : Clearance) :
    (assign name c : Action σ Answer).Keeps (Secluded places) :=
  fun _ h => h.changeNames h.stores h.realms h.authorizers h.managers

theorem keeps_changeBy (name : String) (grants : List GrantText) (change : List Grant → Clearance) :
    (changeBy name grants change : Action σ Answer).Keeps (Secluded places) :=
  keeps_orElse fun grants => .bind (keeps_of_quiet (quiet_warnUnfiled grants)) fun _ =>
    keeps_assign name (change grants)

theorem keeps_perform (name : String) (step : ClearanceStep) :
    (step.perform name : Action σ Answer).Keeps (Secluded places) := by
  cases step with
  | new => exact keeps_assign name .empty
  | ofParts roles grants => exact keeps_changeBy name grants _
  | addRoles roles => exact keeps_withNamed fun c => keeps_assign name _
  | addGrants grants => exact keeps_withNamed fun c => keeps_changeBy name grants _
  | setGrants grants => exact keeps_withNamed fun c => keeps_changeBy name grants _
  | filed domain => exact keeps_withNamed fun c => .pure _
  | hasRole role => exact keeps_withNamed fun c => .pure _
  | equals other => exact keeps_withNamed fun c => keeps_withNamed fun d => .pure _
  | candidates text => exact keeps_withNamed fun c => keeps_orElse fun held => .pure _
  | judge request =>
    cases request with
    | permissions texts => exact keeps_withNamed fun c => keeps_orElse fun found => .pure _
    | roles roles => exact keeps_withNamed fun c => .pure _

end ClearanceStep

namespace StoreStep

/-- A new store is not one of a placed realm. -/
theorem after_new (h : Secluded places s) (name : String) (store : Store σ) :
    Secluded places ((do
      let n ← newStore store
      changeNames fun names => { names with stores := names.stores.insert name n } :
        Action σ Unit).run s).2 := by
  have made := keeps_newStore store s h
  have other (p : Placement) (mem : p ∈ places) : s.stores.size ≠ p.store := by
    have lt := (h.held p mem).store_lt
    omega
  exact made.nameStore name other (Nat.lt_succ_self _)

theorem keeps_perform (name : String) (step : StoreStep σ) :
    (step.perform name : Action σ Answer).Keeps (Secluded places) := by
  have changed (f : Store σ → Store σ) (answer : Nat → Site σ → Answer) :
      (withNamed (·.stores.find? name) fun store => do
        let before ← get
        changeStore store f
        return answer store before : Action σ Answer).Keeps (Secluded places) := by
    intro s h
    refine after_withNamed h fun store found => ?_
    exact keeps_changeStore (h.stores name store found).1 f s h
  cases step with
  | new entries => exact fun s h => after_new h name _
  | insert entry => exact changed _ _
  | remove id => exact changed _ _
  | find id => exact keeps_withNamed fun store => .bind .get fun _ => .pure _
  | extent => exact keeps_withNamed fun store => .bind .get fun _ => .pure _
  | fail message? => exact changed _ fun _ _ => .none
  | queue actions => exact changed _ fun _ _ => .none

end StoreStep

section Scripts

variable {run : σ → Action σ Unit} (keeping : ∀ script, (run script).Keeps (Secluded places))

namespace BusStep

theorem keeps_assign (name : String) (bus : BusName) :
    (assign name bus : Action σ Unit).Keeps (Secluded places) := keeps_nameBus name bus

theorem keeps_subscribeScript (bus : Nat) (listener : String) (topic : Topic) (tag : String)
    (times : Nat) (actions : σ) :
    (subscribeScript bus listener topic tag times actions).Keeps (Secluded places) :=
  keeps_of_quiet <| .bind quiet_newCounter fun _ => quiet_changeBus _ _

include keeping in
theorem keeps_perform (name : String) (step : BusStep σ) :
    (step.perform run name).Keeps (Secluded places) := by
  cases step with
  | new =>
    refine .bind (keeps_of_quiet quiet_newBus) fun bus => ?_
    exact .bind (keeps_assign name _) fun _ => .pure _
  | subscribe listener topic tag times actions =>
    refine keeps_withNamed fun named => ?_
    refine .bind (keeps_subscribeScript named.bus listener topic tag times actions) fun _ => ?_
    exact .bind .get fun _ => .pure _
  | unsubscribe listener topic =>
    refine keeps_withNamed fun named => .bind .get fun before => ?_
    exact .bind (keeps_of_quiet (quiet_changeBus named.bus _)) fun _ => .pure _
  | isSubscribed listener topic => exact keeps_withNamed fun named => .bind .get fun _ => .pure _
  | counts => exact keeps_withNamed fun named => .bind .get fun _ => .pure _
  | send message =>
    refine keeps_withNamed fun named => ?_
    exact .bind ((steady_secluded keeping).send named.bus message) fun _ => .pure _
  | describe =>
    refine keeps_withNamed fun named => ?_
    split
    · exact .bind .get fun _ => .pure _
    · exact .pure _

end BusStep

variable (apart : Apart places)

namespace RealmStep

/-- A new realm over a store that has a name is not one of those placed. -/
theorem after_newAccount (h : Secluded places s) (name label : String)
    (grantsPermissions grantsRoles : Bool) {store : Nat} (other : ∀ p ∈ places, store ≠ p.store)
    (lt : store < s.stores.size) :
    Secluded places ((do
      let cache ← newCache
      assign name (.account (accountRealm label store cache grantsPermissions grantsRoles)) :
        Action σ Answer).run s).2 := by
  have made := keeps_newCache s h
  refine made.nameRealm name ⟨.inr fun p mem => ⟨other p mem, ?_⟩, lt, Nat.lt_succ_self _⟩
  have cache_lt := (h.held p mem).cache_lt
  change s.caches.size ≠ p.cache
  omega

include keeping apart in
theorem keeps_perform (name : String) (step : RealmStep) :
    (step.perform run name).Keeps (Secluded places) := by
  intro s h
  cases step with
  | newAccount label store grantsPermissions grantsRoles =>
    refine after_withNamed h fun store found => ?_
    obtain ⟨other, lt⟩ := h.stores _ store found
    exact after_newAccount h name label grantsPermissions grantsRoles other lt
  | newOutside label caching answers =>
    refine keeps_orElse (fun permissions? => ?_) s h
    exact fun s h => h.nameRealm name ⟨trivial, trivial⟩
  | ask identity request =>
    refine after_withNamed h fun realm found => keeps_reading (fun items => ?_) s h
    have fits := (h.realms name realm found).fits
    exact keeps_answer _ (keeps_ask keeping apart fits identity items)
  | clear identity =>
    refine keeps_withNamed (fun realm => ?_) s h
    exact .bind ((steady_secluded keeping).clear realm identity) fun _ => .pure _
  | clearance identity =>
    refine after_withNamed h fun realm found => ?_
    cases realm with
    | outside r => exact h
    | account r =>
      have fits := (h.realms name _ found).fits
      exact keeps_answer _ (keeps_clearance? keeping apart fits identity) s h
  | remembers id =>
    refine after_withNamed h fun realm _ => ?_
    cases realm <;> exact h
  | describe =>
    refine after_withNamed h fun realm _ => ?_
    cases realm <;> exact h

end RealmStep

namespace AuthorizerStep

include keeping apart

theorem keeps_perform (name : String) (step : AuthorizerStep) :
    (step.perform run name).Keeps (Secluded places) := by
  intro s h
  have steady := steady_secluded keeping
  have asks {a : Authorizer} (found : s.names.authorizers.find? name = some a) {ι : Type}
      [Requestable ι] (identity : Identity) (items : List ι) (r : Realm) (mem : r ∈ a.realms) :=
    keeps_ask keeping apart (h.authorizers name a found r mem).fits identity items
  cases step with
  | new => exact h.nameAuthorizer name nofun
  | setRealms l =>
    refine after_withNamed h fun a _ => after_withRealms h fun realms known => ?_
    have set := keeps_of_quiet (Authorizer.quiet_setRealms (a := a) realms) s h
    exact set.nameAuthorizer name (Authorizer.known_setRealms known)
  | setBus bus =>
    refine after_withNamed h fun a found => after_withNamed h fun bus _ => ?_
    have set := keeps_of_quiet (Authorizer.quiet_setBus (a := a) bus) s h
    exact set.nameAuthorizer name (Authorizer.known_setBus (h.authorizers name a found))
  | clone other =>
    exact after_withNamed h fun a found => h.nameAuthorizer other (h.authorizers name a found)
  | realms => exact after_withNamed h fun a _ => h
  | assertRealms => exact after_withNamed h fun a _ => h
  | usesBus bus => exact after_withNamed h fun a _ => after_withNamed h fun bus _ => h
  | describe => exact after_withNamed h fun a _ => h
  | verdicts identity request logResults =>
    refine after_withNamed h fun a found => keeps_reading (fun items => ?_) s h
    exact keeps_answer _ (steady.verdicts (asks found identity items) _)
  | combined identity request operator =>
    refine after_withNamed h fun a found => keeps_reading (fun items => ?_) s h
    exact keeps_answer _ (steady.combined (asks found identity items) _)
  | check identity request operator =>
    refine after_withNamed h fun a found => keeps_reading (fun items => ?_) s h
    exact keeps_answer _ (steady.check (asks found identity items) _)
  | register =>
    refine after_withNamed h fun a _ => keeps_answer _ (.bind (.ofExcept _) fun bus => ?_) s h
    exact .lift (keeps_of_quiet (Authorizer.quiet_subscribeOn _ _))
  | clear identity =>
    refine after_withNamed h fun a _ => ?_
    exact Action.Keeps.bind (steady.clearAll a.realms identity) (fun _ => .pure _) s h
  | publish topic notice =>
    refine after_withNamed h fun a _ => ?_
    exact keeps_answer _ (steady.publish topic notice) s h

end AuthorizerStep

namespace ManagerStep

include apart

theorem keeps_ofToml (name toml : String) :
    (ofToml name toml : Action σ Answer).Keeps (Secluded places) := by
  intro s h
  rw [ofToml]
  split
  next => exact h
  next config _ =>
    obtain ⟨kept, known⟩ := Manager.known_ofConfig h apart config
    rcases ran : (Manager.ofConfig config).run.run s with ⟨e | m, t⟩ <;> rw [ran] at kept known
    · rw [StateT.run_bind, ran]
      exact kept
    · rw [StateT.run_bind, ran]
      exact kept.nameManager name (known m rfl)

include keeping

theorem keeps_perform (name : String) (step : ManagerStep) :
    (step.perform run name).Keeps (Secluded places) := by
  intro s h
  have steady := steady_secluded keeping
  have asks {m : Manager} (found : s.names.managers.find? name = some m) {ι : Type}
      [Requestable ι] (identity : Identity) (items : List ι) (r : Realm)
      (mem : r ∈ m.authorizer.realms) :=
    keeps_ask keeping apart (h.managers name m found r mem).fits identity items
  cases step with
  | new l =>
    refine after_withRealms h fun realms known => ?_
    have quiet := Manager.quiet_new realms s
    exact (h.beside quiet).nameManager name fun r mem => (known r mem).beside quiet
  | withBus bus l =>
    refine after_withNamed h fun bus _ => after_withRealms h fun realms known => ?_
    have quiet := Manager.quiet_withBus bus realms s
    exact (h.beside quiet).nameManager name fun r mem => (known r mem).beside quiet
  | ofConfig toml => exact keeps_ofToml apart name toml s h
  | defaultOperator operator =>
    exact after_withNamed h fun m found => h.nameManager name (h.managers name m found)
  | logResults value =>
    exact after_withNamed h fun m found => h.nameManager name (h.managers name m found)
  | setRealms l =>
    refine after_withNamed h fun m _ => after_withRealms h fun realms known => ?_
    have set := keeps_of_quiet (Authorizer.quiet_setRealms (a := m.authorizer) realms) s h
    exact set.nameManager name (Authorizer.known_setRealms known)
  | setBus bus =>
    refine after_withNamed h fun m found => after_withNamed h fun bus _ => ?_
    have set := keeps_of_quiet (Authorizer.quiet_setBus (a := m.authorizer) bus) s h
    exact set.nameManager name (Authorizer.known_setBus (h.managers name m found))
  | nameBus other => exact after_withNamed h fun m _ => BusStep.keeps_assign other _ s h
  | view => exact after_withNamed h fun m _ => h
  | verdicts identity request =>
    refine after_withNamed h fun m found => keeps_reading (fun items => ?_) s h
    exact keeps_answer _ (steady.verdicts (asks found identity items) _)
  | grantsAll identity request =>
    refine after_withNamed h fun m found => keeps_reading (fun items => ?_) s h
    exact keeps_answer _ (steady.combined (asks found identity items) _)
  | check identity request =>
    refine after_withNamed h fun m found => keeps_reading (fun items => ?_) s h
    exact keeps_answer _ (steady.check (asks found identity items) _)
  | notify notification identity =>
    exact after_withNamed h fun m _ => steady.send m.bus _ s h

end ManagerStep

end Scripts

/-! ## Scripts -/

section

variable (apart : Apart places)

include apart

theorem Step.keeps_perform {run : List Step → Action (List Step) Unit}
    (keeping : ∀ script, (run script).Keeps (Secluded places)) (step : Step) :
    (step.perform run).Keeps (Secluded places) := by
  cases step with
  | clearance name step => exact step.keeps_perform name
  | bus name step => exact step.keeps_perform keeping name
  | store name step => exact step.keeps_perform name
  | realm name step => exact step.keeps_perform keeping apart name
  | authorizer name step => exact step.keeps_perform keeping apart name
  | manager name step => exact step.keeps_perform keeping apart name

/-- However deep its scripts nest, a script leaves the placed realms as they are. -/
theorem Scenario.keeps_runScript (depth : Nat) (steps : List Step) :
    (runScript depth steps).Keeps (Secluded places) := by
  induction depth generalizing steps with
  | zero => exact .pure ()
  | succ depth ih =>
    exact .forM fun step _ => .bind (step.keeps_perform apart ih) fun answer => keeps_record _

end

end Gatehouse
