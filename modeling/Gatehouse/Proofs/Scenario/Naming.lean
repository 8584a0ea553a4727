import Gatehouse.Proofs.Manager.Setup
import Gatehouse.Scenario

/-!
# Objects with names

A script finds objects by name only, so what it finds are no placed realms' own. What it makes of them
may have a name in turn.
-/

namespace Gatehouse

open Site

variable {σ α : Type} {places more : List Placement} {s : Site σ} {P : Site σ → Prop}

/-! ## Finding by name -/

/-- What holds before holds after, if it does for whatever the name refers to. -/
theorem after_withNamed {find? : Names → Option α} {act : α → Action σ Answer} (h : P s)
    (found : ∀ a, find? s.names = some a → P ((act a).run s).2) :
    P ((withNamed find? act).run s).2 := by
  rw [withNamed, Action.run_get_bind]
  cases name : find? s.names with
  | none => exact h
  | some a => exact found a name

theorem keeps_withNamed {find? : Names → Option α} {act : α → Action σ Answer}
    (found : ∀ a, (act a).Keeps P) : (withNamed find? act).Keeps P := by
  intro s h
  exact after_withNamed h fun a _ => found a s h

theorem exists_of_mem_mapM {β : Type} {f : α → Option β} {l : List α} {found : List β}
    (h : l.mapM f = some found) {b : β} (mem : b ∈ found) : ∃ a ∈ l, f a = some b := by
  induction l generalizing found with
  | nil =>
    obtain rfl : [] = found := by simpa using h
    contradiction
  | cons a l ih =>
    simp only [List.mapM_cons, Option.bind_eq_bind, Option.bind_eq_some_iff] at h
    obtain ⟨first, here, rest, there, same⟩ := h
    obtain rfl := Option.some.inj same
    rcases List.mem_cons.1 mem with rfl | mem
    · exact ⟨a, List.mem_cons_self, here⟩
    · obtain ⟨a', mem', there⟩ := ih there mem
      exact ⟨a', List.mem_cons_of_mem a mem', there⟩

theorem after_withRealms {l : List String} {act : List Realm → Action σ Answer}
    (h : Secluded places s)
    (found : ∀ realms, (∀ r ∈ realms, r.Known places s) → Secluded places ((act realms).run s).2) :
    Secluded places ((withRealms l act).run s).2 := by
  refine after_withNamed h fun realms named => found realms fun r mem => ?_
  obtain ⟨name, -, here⟩ := exists_of_mem_mapM named mem
  exact h.realms name r here

/-! ## Answering -/

theorem keeps_answer {check : Check σ α} (f : α → Answer) (h : check.Keeps P) :
    (check.answer f).Keeps P := .bind h fun _ => .pure _

theorem keeps_orElse {attempt : Except FormatError α} {act : α → Action σ Answer}
    (h : ∀ a, (act a).Keeps P) : (Answer.orElse attempt act).Keeps P := by
  cases attempt with
  | error e => exact .pure _
  | ok a => exact h a

theorem keeps_reading {request : Request}
    {act : {ι : Type} → [Requestable ι] → [DecidableEq ι] → List ι → Action σ Answer}
    (h : ∀ {ι : Type} [Requestable ι] [DecidableEq ι] (items : List ι), (act items).Keeps P) :
    (request.reading act).Keeps P := by
  cases request with
  | permissions texts => exact keeps_orElse h
  | roles l => exact h l

/-! ## Giving names -/

/-- All values of a map have a property if those before have it and a new one has it. -/
theorem SortedMap.forall_find?_insert {ν : Type} {m : SortedMap String ν} {v : ν} {Q : ν → Prop}
    (key : String) (before : ∀ k w, m.find? k = some w → Q w) (new : Q v) :
    ∀ k w, (m.insert key v).find? k = some w → Q w := by
  intro k w found
  rw [SortedMap.find?_insert] at found
  split at found
  · obtain rfl := Option.some.inj found
    exact new
  · exact before k w found

namespace Secluded

variable (h : Secluded places s) (name : String)

include h

theorem nameStore {n : Nat} (other : ∀ p ∈ places, n ≠ p.store) (lt : n < s.stores.size) :
    Secluded places ((Site.changeNames fun names =>
      { names with stores := names.stores.insert name n } : Action σ Unit).run s).2 := by
  have stores := SortedMap.forall_find?_insert name h.stores ⟨other, lt⟩
  exact h.changeNames stores h.realms h.authorizers h.managers

theorem nameRealm {r : Realm} (known : r.Known places s) :
    Secluded places ((RealmStep.assign name r : Action σ Answer).run s).2 := by
  have realms := SortedMap.forall_find?_insert name h.realms known
  exact h.changeNames h.stores realms h.authorizers h.managers

theorem nameAuthorizer {a : Authorizer} (known : ∀ r ∈ a.realms, r.Known places s) :
    Secluded places ((AuthorizerStep.assign name a : Action σ Answer).run s).2 := by
  have authorizers := SortedMap.forall_find?_insert name h.authorizers known
  exact h.changeNames h.stores h.realms authorizers h.managers

theorem nameManager {m : Manager} (known : ∀ r ∈ m.authorizer.realms, r.Known places s) :
    Secluded places ((ManagerStep.assign name m : Action σ Answer).run s).2 := by
  have managers := SortedMap.forall_find?_insert name h.managers known
  exact h.changeNames h.stores h.realms h.authorizers managers

end Secluded

/-! ## Authorizers and managers in hand -/

namespace Authorizer

variable {a : Authorizer}

theorem known_setRealms {realms : List Realm} (known : ∀ r ∈ realms, r.Known places s) :
    ∀ r ∈ ((a.setRealms realms : Action σ Authorizer).run s).1.realms,
      r.Known places ((a.setRealms realms : Action σ Authorizer).run s).2 := by
  intro r mem
  rw [setRealms_eq] at mem
  exact (known r mem).beside (quiet_setRealms realms s)

theorem known_setBus {bus : Nat} (known : ∀ r ∈ a.realms, r.Known places s) :
    ∀ r ∈ ((a.setBus bus : Action σ Authorizer).run s).1.realms,
      r.Known places ((a.setBus bus : Action σ Authorizer).run s).2 := by
  intro r mem
  rw [setBus_eq] at mem
  exact (known r mem).beside (quiet_setBus bus s)

end Authorizer

/-- What fits in with more realms fits in with those that were there before. -/
theorem Realm.Fits.of_append {r : Realm} (apart : Apart (places ++ more))
    (fits : r.Fits (places ++ more)) : r.Fits places := by
  cases r with
  | outside r => trivial
  | account r =>
    rcases fits with ⟨q, mem, rfl⟩ | other
    · by_cases before : q ∈ places
      · exact .inl ⟨q, before, rfl⟩
      · refine .inr fun p placed => not_or.1 fun shared => before ?_
        exact apart q mem p (List.mem_append_left _ placed) shared ▸ placed
    · exact .inr fun p placed => other p (List.mem_append_left _ placed)

theorem Realm.Known.of_append {r : Realm} (apart : Apart (places ++ more))
    (known : r.Known (places ++ more) s) : r.Known places s :=
  ⟨known.fits.of_append apart, known.used⟩

theorem Secluded.of_append (apart : Apart (places ++ more)) (h : Secluded (places ++ more) s) :
    Secluded places s where
  held p mem := h.held p (List.mem_append_left _ mem)
  stores name n found :=
    (h.stores name n found).imp_left fun other p mem => other p (List.mem_append_left _ mem)
  realms name r found := (h.realms name r found).of_append apart
  authorizers name a found r mem := (h.authorizers name a found r mem).of_append apart
  managers name m found r mem := (h.managers name m found r mem).of_append apart

/-- The realms of another manager may be asked like any others. -/
theorem Manager.known_ofConfig (h : Secluded places s) (apart : Apart places) (config : Config) :
    Secluded places ((Manager.ofConfig config).run.run s).2 ∧
      ∀ m, ((Manager.ofConfig config).run.run s).1 = .ok m →
        ∀ r ∈ m.authorizer.realms, r.Known places ((Manager.ofConfig config).run.run s).2 := by
  cases valid : config.validate with
  | error e =>
    have failed : (Manager.ofConfig config).run.run s = (.error e, s) := by
      rw [Manager.ofConfig, valid]
      exact Check.run_bind_of_error rfl
    rw [failed]
    refine ⟨h, fun m same => ?_⟩
    contradiction
  | ok _ =>
    obtain ⟨made, t, more, ran, -, ht, apart', asks, -⟩ := exists_ofConfig valid h apart
    rw [ran]
    refine ⟨ht.of_append apart', fun m same r mem => ?_⟩
    obtain rfl : made = m := Except.ok.inj same
    rw [Authorizer.realms, asks.realms] at mem
    obtain ⟨p, placed, rfl⟩ := List.mem_map.1 mem
    have held := ht.held p (List.mem_append_right _ placed)
    have known : (Realm.account p.realm).Known (places ++ more) t :=
      ⟨.inl ⟨p, List.mem_append_right _ placed, rfl⟩, held.store_lt, held.cache_lt⟩
    exact known.of_append apart'

end Gatehouse
