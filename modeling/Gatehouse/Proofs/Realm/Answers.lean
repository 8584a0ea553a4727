import Gatehouse.Proofs.Realm.Placement

/-!
# Answers of placed realms

A placed realm loads the clearances of the accounts as written, and so gives the verdicts that can
be told from the configuration. Other realms, whatever scripts their stores run, are no matter to
it.
-/

namespace Gatehouse

open Site

variable {σ : Type} {places : List Placement}

/-! ## Loads -/

section Loading

variable {run : σ → Action σ Unit}

/-- A placed realm loads what is written. -/
theorem yields_load (apart : Apart places) {p : Placement} (mem : p ∈ places) (id : String)
    (retries : Nat) :
    Check.Yields (Secluded places) (p.realm.load run id retries)
      (· = (p.written.accounts.find? id).map Account.clearance) := by
  intro s h
  have held := h.held p mem
  have looked : (lookUp run p.realm.store id).run.run s = (.ok (p.written.accounts.find? id), s) :=
    lookUp_of_stored held.stored id
  cases remembered : p.realm.remembered? s id with
  | some c =>
    obtain ⟨a, found, rfl⟩ := held.cached id c remembered
    refine ⟨_, s, AccountRealm.load_of_remembered remembered retries, ?_, h⟩
    rw [found]
    rfl
  | none =>
    cases found : p.written.accounts.find? id with
    | none =>
      rw [found] at looked
      exact ⟨none, s, AccountRealm.load_of_unknown remembered looked retries, rfl, h⟩
    | some a =>
      rw [found] at looked
      have loaded := AccountRealm.load_of_found remembered looked retries
      rw [if_pos rfl] at loaded
      refine ⟨_, _, loaded, rfl, ?_⟩
      have warned := keeps_of_quiet (quiet_warnUnfiled a.grants) s h
      refine warned.changeCache fun q mem' same id' c kept => ?_
      obtain rfl := apart q mem' p mem (.inr same)
      rw [Cache.find?_entries_keep] at kept
      split at kept
      next here =>
        subst here
        exact .inr ⟨a, found, (Option.some.inj kept).symm⟩
      next => exact .inl kept

variable (keeping : ∀ script, (run script).Keeps (Secluded places))

include keeping

theorem keeps_clearance? (apart : Apart places) {r : AccountRealm}
    (fits : (Realm.account r).Fits places) (identity : Identity) :
    Check.Keeps (Secluded places) (r.clearance? run identity) := by
  rw [AccountRealm.clearance?]
  split
  next id _ =>
    rcases fits with ⟨p, mem, rfl⟩ | other
    · exact (yields_load apart mem id 1).keeps
    · have store := keeps_changeStore (σ := σ) fun p mem => (other p mem).1
      exact (steady_secluded keeping).load store (keeps_changeCache fun p mem => (other p mem).2) id 1
  next => exact .pure none

/-- A realm that fits in with the placed ones leaves them as they are when it is asked. -/
theorem keeps_ask [Requestable ι] (apart : Apart places) {r : Realm} (fits : r.Fits places)
    (identity : Identity) (items : List ι) :
    Check.Keeps (Secluded places) (r.ask run identity items) := by
  cases r with
  | outside r => exact (steady_secluded keeping).askOutside r
  | account r => exact Steady.askAccount (keeps_clearance? keeping apart fits identity)

end Loading

/-! ## Answers -/

/-- A kind of item of which an account tells itself what its clearance grants. -/
class Written (ι : Type) [Requestable ι] where
  grants : Account → ι → Bool
  judge_clearance (p : Placement) {a : Account} (h : a.Sound) (items : List ι) :
    Requestable.judge p.realm a.clearance items = .ok (items.map fun item => (item, grants a item))

instance : Written Permission where
  grants := Account.implies
  judge_clearance _ a h items := by
    change (a.clearance.judge items).mapError _ = _
    rw [Account.judge_clearance h]
    rfl

instance : Written String where
  grants a role := decide (role ∈ a.roles)
  judge_clearance _ _ _ items := congrArg Except.ok (Account.judgeRoles_clearance items)

section Answers

variable {ι : Type} [Requestable ι] [Written ι]

/-- The account written for the primary identifier, if there is one, grants the item. -/
def Config.Realm.grants (realm : Config.Realm) (identity : Identity) (item : ι) : Bool :=
  (identity.primary?.bind realm.accounts.find?).any (Written.grants · item)

variable {run : σ → Action σ Unit}

/-- A placed realm answers as it is written. -/
theorem yields_ask (apart : Apart places) {p : Placement} (mem : p ∈ places)
    (sound : p.written.Sound) (identity : Identity) (items : List ι) :
    Check.Yields (Secluded places) (p.realm.ask run identity items)
      (· = items.map fun item => (item, p.written.grants identity item)) := by
  intro s h
  cases known : identity.primary? with
  | none =>
    refine ⟨_, s, AccountRealm.ask_of_anonymous known, ?_, h⟩
    simp only [Config.Realm.grants, known]
    rfl
  | some id =>
    have loads : Check.Yields (Secluded places) (p.realm.load run id 1) _ :=
      yields_load apart mem id 1
    obtain ⟨c?, t, loaded, rfl, ht⟩ := loads s h
    have asked : (p.realm.ask run identity items).run.run s = _ :=
      AccountRealm.ask_of_load known loaded
    simp only [Config.Realm.grants, known, Option.bind_some]
    cases found : p.written.accounts.find? id with
    | none =>
      rw [found] at asked
      exact ⟨_, t, asked, rfl, ht⟩
    | some a =>
      rw [found] at asked
      refine ⟨_, t, asked.trans ?_, rfl, ht⟩
      exact congrArg (·, t) (Written.judge_clearance p (sound.accounts id a found) items)

end Answers

end Gatehouse
