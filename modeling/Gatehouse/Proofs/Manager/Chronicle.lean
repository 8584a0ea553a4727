import Gatehouse.Proofs.Authorizer.Rounds
import Gatehouse.Proofs.Manager.Configured
import Gatehouse.Proofs.Realm.Loading

/-!
# Chronicles

A chronicle tells what the stores hold, and in which order realms were consulted and identities
notified. There are no caches in it: by which record a realm answers is read off what was mentioned
(`Chronicle.record?`), and so are the answers of a realm and of all realms together.

What is mentioned of one identifier, and the changes of its records, settle what is answered to it;
nothing else makes a difference (`Chronicle.AgreesOn`).
-/

namespace Gatehouse

variable {ι α : Type}

/-- Something that happened to an identifier. -/
inductive Mention where
  /-- The realm of this cache was consulted while its store held this record. -/
  | consulted (cache : Nat) (id : String) (held? : Option Account)
  | notified (id : String)
  deriving DecidableEq

/-- The record that a mention offers to the realm of a cache. -/
def Mention.record? (cache : Nat) (id : String) : Mention → Option Account
  | consulted n other held? => if n = cache ∧ other = id then held? else none
  | notified _ => none

/-- What the stores hold, and what happened so far, the latest first. -/
structure Chronicle where
  accounts : Nat → SortedMap String Account
  mentions : List Mention := []

namespace Chronicle

/-- What happened since the last notification of an identifier, the earliest first. -/
def since (c : Chronicle) (id : String) : List Mention :=
  (c.mentions.takeWhile (· ≠ .notified id)).reverse

/-- The record by which the realm of a cache answers: the first one that its store held at a
consultation since the last notification. -/
def record? (c : Chronicle) (cache : Nat) (id : String) : Option Account :=
  (c.since id).findSome? (Mention.record? cache id)

def mention (c : Chronicle) (m : Mention) : Chronicle := { c with mentions := m :: c.mentions }

def changeStore (c : Chronicle) (store : Nat)
    (f : SortedMap String Account → SortedMap String Account) : Chronicle :=
  { c with accounts := fun n => if n = store then f (c.accounts n) else c.accounts n }

variable {c d : Chronicle} {cache store : Nat} {id other : String} {r : AccountRealm}
  {identity : Identity}

/-! ## Records -/

theorem record?_mention {m : Mention} (m_ne : m ≠ .notified id) :
    (c.mention m).record? cache id = (c.record? cache id).or (m.record? cache id) := by
  simp [record?, since, mention, m_ne]

/-- A consultation finds a record only if there was none before. -/
theorem record?_mention_consulted {n : Nat} {held? : Option Account} :
    (c.mention (.consulted n other held?)).record? cache id =
      if n = cache ∧ other = id then (c.record? cache id).or held? else c.record? cache id := by
  have apart : Mention.consulted n other held? ≠ .notified id := nofun
  rw [record?_mention apart, Mention.record?]
  split
  next => rfl
  next => exact Option.or_none

theorem record?_mention_notified :
    (c.mention (.notified other)).record? cache id =
      if other = id then none else c.record? cache id := by
  by_cases same : other = id
  · simp [record?, since, mention, same]
  · rw [record?_mention (by simpa using same), if_neg same, Mention.record?, Option.or_none]

/-! ## Consultations -/

/-- The realm is consulted for an identity, which is known by its primary identifier. -/
def consulted (c : Chronicle) (r : AccountRealm) (identity : Identity) : Chronicle :=
  match identity.primary? with
  | some id => c.mention (.consulted r.cache id ((c.accounts r.store).find? id))
  | none => c

/-- The identity is notified. -/
def notified (c : Chronicle) (identity : Identity) : Chronicle :=
  match identity.primary? with
  | some id => c.mention (.notified id)
  | none => c

theorem accounts_consulted : (c.consulted r identity).accounts = c.accounts := by
  unfold consulted
  split <;> rfl

theorem accounts_notified : (c.notified identity).accounts = c.accounts := by
  unfold notified
  split <;> rfl

theorem record?_consulted :
    (c.consulted r identity).record? cache id =
      if r.cache = cache ∧ identity.primary? = some id then
        (c.record? cache id).or ((c.accounts r.store).find? id)
      else c.record? cache id := by
  unfold consulted
  split
  next other known =>
    simp only [record?_mention_consulted, known, Option.some.injEq]
    refine if_ctx_congr Iff.rfl (fun same => ?_) fun _ => rfl
    rw [same.2]
  next anonymous => rw [anonymous, if_neg (by simp)]

theorem record?_notified :
    (c.notified identity).record? cache id =
      if identity.primary? = some id then none else c.record? cache id := by
  unfold notified
  split
  next other known => simp only [record?_mention_notified, known, Option.some.injEq]
  next anonymous => rw [anonymous, if_neg nofun]

/-! ## Answers -/

section Answers

variable [Requestable ι] {items : List ι}

/-- What a realm answers that is consulted now. Without a record it denies every item. -/
def reply (c : Chronicle) (r : AccountRealm) (identity : Identity) (items : List ι) :
    Except AccessError (Verdicts ι) :=
  r.answer (identity.primary?.bind fun id =>
    ((c.consulted r identity).record? r.cache id).map Account.clearance) items

theorem reply_of_known (known : identity.primary? = some id) :
    c.reply r identity items =
      r.answer (((c.record? r.cache id).or ((c.accounts r.store).find? id)).map Account.clearance)
        items := by
  rw [reply, known, Option.bind_some, record?_consulted, if_pos ⟨rfl, known⟩]

/-- Realms are consulted one after the other, until one fails. -/
def round (identity : Identity) (items : List ι) :
    List AccountRealm → Chronicle → Except AccessError (Verdicts ι) × Chronicle
  | [], c => (.ok [], c)
  | r :: rest, c =>
    match c.reply r identity items with
    | .error e => (.error e, c.consulted r identity)
    | .ok verdicts =>
      let after := round identity items rest (c.consulted r identity)
      (after.1.map (verdicts ++ ·), after.2)

/-- What comes out of a check over all realms. -/
def outcome [DecidableEq ι] (c : Chronicle) (realms : List AccountRealm) (identity : Identity)
    (items : List ι) (inquiry : Inquiry ι α) : Except AccessError α :=
  if realms.isEmpty then .error .realmsNotConfigured
  else (c.round identity items realms).1.bind fun verdicts =>
    inquiry.answer identity items verdicts.join

/-- A round leads from consultation to consultation. -/
theorem round_induction {P : Chronicle → Prop}
    (step : ∀ r c, P c → P (c.consulted r identity)) (realms : List AccountRealm) (h : P c) :
    P (c.round identity items realms).2 := by
  induction realms generalizing c with
  | nil => exact h
  | cons r rest ih =>
    rw [round]
    split
    next => exact step r c h
    next => exact ih (step r c h)

end Answers

/-! ## What matters to one identifier -/

/-- The two chronicles tell the same of an identifier. -/
structure AgreesOn (id : String) (c d : Chronicle) : Prop where
  held : ∀ store, (c.accounts store).find? id = (d.accounts store).find? id
  record : ∀ cache, c.record? cache id = d.record? cache id

namespace AgreesOn

theorem refl (id : String) (c : Chronicle) : AgreesOn id c c := ⟨fun _ => rfl, fun _ => rfl⟩

theorem consulted (h : AgreesOn id c d) (r : AccountRealm) (identity : Identity) :
    AgreesOn id (c.consulted r identity) (d.consulted r identity) where
  held store := by rw [accounts_consulted, accounts_consulted, h.held]
  record cache := by rw [record?_consulted, record?_consulted, h.record, h.held]

theorem consulted_of_other (h : AgreesOn id c d) (other : identity.primary? ≠ some id)
    (r : AccountRealm) : AgreesOn id (c.consulted r identity) d where
  held store := by rw [accounts_consulted, h.held]
  record cache := by rw [record?_consulted, if_neg fun own => other own.2, h.record]

theorem notified (h : AgreesOn id c d) (identity : Identity) :
    AgreesOn id (c.notified identity) (d.notified identity) where
  held store := by rw [accounts_notified, accounts_notified, h.held]
  record cache := by rw [record?_notified, record?_notified, h.record]

theorem notified_of_other (h : AgreesOn id c d) (other : identity.primary? ≠ some id) :
    AgreesOn id (c.notified identity) d where
  held store := by rw [accounts_notified, h.held]
  record cache := by rw [record?_notified, if_neg other, h.record]

theorem changeStore {f : SortedMap String Account → SortedMap String Account}
    (h : AgreesOn id c d) (alike : ∀ a b, a.find? id = b.find? id → (f a).find? id = (f b).find? id)
    (store : Nat) : AgreesOn id (c.changeStore store f) (d.changeStore store f) where
  held n := by
    simp only [Chronicle.changeStore]
    split
    next => exact alike _ _ (h.held n)
    next => exact h.held n
  record := h.record

theorem changeStore_of_other {f : SortedMap String Account → SortedMap String Account}
    (h : AgreesOn id c d) (same : ∀ a, (f a).find? id = a.find? id) (store : Nat) :
    AgreesOn id (c.changeStore store f) d where
  held n := by
    simp only [Chronicle.changeStore]
    split
    next => rw [same, h.held]
    next => exact h.held n
  record := h.record

variable [Requestable ι] {items : List ι}

/-- A realm answers alike. -/
theorem reply_eq (h : AgreesOn id c d) (known : identity.primary? = some id) (r : AccountRealm)
    (items : List ι) : c.reply r identity items = d.reply r identity items := by
  rw [reply, reply, known, Option.bind_some, Option.bind_some,
    (h.consulted r identity).record]

theorem round (h : AgreesOn id c d) (known : identity.primary? = some id) (items : List ι)
    (realms : List AccountRealm) :
    (c.round identity items realms).1 = (d.round identity items realms).1 ∧
      AgreesOn id (c.round identity items realms).2 (d.round identity items realms).2 := by
  induction realms generalizing c d with
  | nil => exact ⟨rfl, h⟩
  | cons r rest ih =>
    have next := ih (h.consulted r identity)
    rw [Chronicle.round, Chronicle.round, h.reply_eq known r items]
    cases d.reply r identity items with
    | error e => exact ⟨rfl, h.consulted r identity⟩
    | ok verdicts => exact ⟨congrArg (Except.map (verdicts ++ ·)) next.1, next.2⟩

theorem round_of_other (h : AgreesOn id c d) (other : identity.primary? ≠ some id)
    (items : List ι) (realms : List AccountRealm) :
    AgreesOn id (c.round identity items realms).2 d :=
  round_induction (P := (AgreesOn id · d)) (fun r _ agrees => agrees.consulted_of_other other r) realms h

theorem outcome_eq [DecidableEq ι] (h : AgreesOn id c d) (known : identity.primary? = some id)
    (realms : List AccountRealm) (items : List ι) (inquiry : Inquiry ι α) :
    c.outcome realms identity items inquiry = d.outcome realms identity items inquiry := by
  rw [outcome, outcome, (h.round known items realms).1]

end AgreesOn

end Chronicle

namespace Manager

open Site

/-! ## Turns -/

/-- What is done with a manager or with a store. -/
inductive Turn where
  | insert (store : Nat) (id : String) (account : Account)
  | remove (store : Nat) (id : String)
  | permissions (manner : Manner) (identity : Identity) (items : List Permission)
  | roles (manner : Manner) (identity : Identity) (items : List String)
  | notify (notification : Notification) (identity : Identity)

namespace Turn

def perform (run : σ → Action σ Unit) (m : Manager) : Turn → Action σ Unit
  | insert store id account => changeStore store (·.insert id account)
  | remove store id => changeStore store (·.remove id)
  | permissions manner identity items => do let _ ← (manner.ask run m identity items).run
  | roles manner identity items => do let _ ← (manner.ask run m identity items).run
  | notify notification identity => do let _ ← m.notify run notification identity

/-- What a chronicle tells after the turn. -/
def tell (realms : List AccountRealm) (c : Chronicle) : Turn → Chronicle
  | insert store id account => c.changeStore store (·.insert id account)
  | remove store id => c.changeStore store (·.erase id)
  | permissions _ identity items => (c.round identity items realms).2
  | roles _ identity items => (c.round identity items realms).2
  | notify _ identity => c.notified identity

/-- The turn has realms consulted for the identifier. -/
def consults (id : String) : Turn → Bool
  | permissions _ identity _ | roles _ identity _ => identity.primary? = some id
  | insert .. | remove .. | notify .. => false

def notifies (id : String) : Turn → Bool
  | notify _ identity => identity.primary? = some id
  | _ => false

/-- The turn changes a record of the identifier. -/
def changes (id : String) : Turn → Bool
  | insert _ other _ | remove _ other => other = id
  | _ => false

def concerns (id : String) (turn : Turn) : Bool :=
  turn.consults id || turn.notifies id || turn.changes id

end Turn

/-- Turns are taken one after the other. -/
def spend (run : σ → Action σ Unit) (m : Manager) (turns : List Turn) : Action σ Unit :=
  turns.forM (Turn.perform run m)

end Manager

namespace Chronicle

open Manager

variable {c d : Chronicle} {realms : List AccountRealm} {id : String} {cache : Nat} {turn : Turn}
  {turns : List Turn}

/-- What a chronicle tells after some turns. -/
def after (realms : List AccountRealm) (c : Chronicle) (turns : List Turn) : Chronicle :=
  turns.foldl (Turn.tell realms) c

theorem after_append {later : List Turn} :
    c.after realms (turns ++ later) = (c.after realms turns).after realms later :=
  List.foldl_append

/-- A property that no turn ends lasts. -/
theorem after_induction {P : Chronicle → Prop} {p : Turn → Bool}
    (step : ∀ turn c, p turn → P c → P (turn.tell realms c)) (all : ∀ turn ∈ turns, p turn)
    (h : P c) : P (c.after realms turns) := by
  induction turns generalizing c with
  | nil => exact h
  | cons turn turns ih =>
    obtain ⟨first, rest⟩ := List.forall_mem_cons.1 all
    exact ih rest (step turn c first h)

/-! ## The course of a record -/

theorem record?_tell_of_notifying (notifies : turn.notifies id) :
    (turn.tell realms c).record? cache id = none := by
  cases turn with
  | notify notification identity =>
    have named : identity.primary? = some id := by simpa [Turn.notifies] using notifies
    rw [Turn.tell, record?_notified, if_pos named]
  | insert | remove | permissions | roles => contradiction

/-- Once there is a record, only a notification ends it. -/
theorem record?_tell_of_eq_some {a : Account} (found : c.record? cache id = some a)
    (silent : !turn.notifies id) : (turn.tell realms c).record? cache id = some a := by
  have consulted (identity : Identity) (r : AccountRealm) (c : Chronicle)
      (found : c.record? cache id = some a) :
      (c.consulted r identity).record? cache id = some a := by
    rw [record?_consulted, found, Option.some_or, ite_self]
  cases turn with
  | insert | remove => exact found
  | permissions manner identity items | roles manner identity items =>
    exact round_induction (consulted identity) realms found
  | notify notification identity =>
    have other : identity.primary? ≠ some id := by simpa [Turn.notifies] using silent
    rw [Turn.tell, record?_notified, if_neg other, found]

/-- As long as there is none, it takes a consultation to find one. -/
theorem record?_tell_of_eq_none (none : c.record? cache id = none) (unasked : !turn.consults id) :
    (turn.tell realms c).record? cache id = .none := by
  have consulted (identity : Identity) (other : identity.primary? ≠ some id) (r : AccountRealm)
      (c : Chronicle) (none : c.record? cache id = .none) :
      (c.consulted r identity).record? cache id = .none := by
    rw [record?_consulted, if_neg fun own => other own.2, none]
  cases turn with
  | insert | remove => exact none
  | permissions manner identity items | roles manner identity items =>
    have other : identity.primary? ≠ some id := by simpa [Turn.consults] using unasked
    exact round_induction (consulted identity other) realms none
  | notify notification identity => rw [Turn.tell, record?_notified, none, ite_self]

theorem record?_after_of_eq_some {a : Account} (found : c.record? cache id = some a)
    (silent : ∀ turn ∈ turns, !turn.notifies id) :
    (c.after realms turns).record? cache id = some a :=
  after_induction (P := (·.record? cache id = some a))
    (fun _ _ silent found => record?_tell_of_eq_some found silent) silent found

theorem record?_after_of_eq_none (none : c.record? cache id = none)
    (unasked : ∀ turn ∈ turns, !turn.consults id) :
    (c.after realms turns).record? cache id = .none :=
  after_induction (P := (·.record? cache id = .none))
    (fun _ _ unasked none => record?_tell_of_eq_none none unasked) unasked none

/-! ## What does not matter -/

theorem AgreesOn.tell (h : AgreesOn id c d) (concerned : turn.concerns id) :
    AgreesOn id (turn.tell realms c) (turn.tell realms d) := by
  cases turn with
  | insert store other account =>
    refine h.changeStore (f := (·.insert other account)) (fun a b same => ?_) store
    simp only [SortedMap.find?_insert, same]
  | remove store other =>
    refine h.changeStore (f := (·.erase other)) (fun a b same => ?_) store
    simp only [SortedMap.find?_erase, same]
  | permissions manner identity items | roles manner identity items =>
    have known : identity.primary? = some id := by
      simpa [Turn.concerns, Turn.consults, Turn.notifies, Turn.changes] using concerned
    exact (h.round known items realms).2
  | notify notification identity => exact h.notified identity

theorem AgreesOn.tell_of_unconcerned (h : AgreesOn id c d) (unconcerned : ¬ turn.concerns id) :
    AgreesOn id (turn.tell realms c) d := by
  simp only [Turn.concerns, Bool.or_eq_true, not_or] at unconcerned
  obtain ⟨⟨unasked, silent⟩, unchanged⟩ := unconcerned
  cases turn with
  | insert store other account =>
    have apart : id ≠ other := by simpa [Turn.changes, eq_comm] using unchanged
    refine h.changeStore_of_other (f := (·.insert other account)) (fun a => ?_) store
    rw [SortedMap.find?_insert, if_neg apart]
  | remove store other =>
    have apart : id ≠ other := by simpa [Turn.changes, eq_comm] using unchanged
    refine h.changeStore_of_other (f := (·.erase other)) (fun a => ?_) store
    rw [SortedMap.find?_erase, if_neg apart]
  | permissions manner identity items | roles manner identity items =>
    exact h.round_of_other (by simpa [Turn.consults] using unasked) items realms
  | notify notification identity =>
    exact h.notified_of_other (by simpa [Turn.notifies] using silent)

/-- Turns that do not concern an identifier can be left out. -/
theorem AgreesOn.after_filter (h : AgreesOn id c d) (turns : List Turn) :
    AgreesOn id (c.after realms turns) (d.after realms (turns.filter (·.concerns id))) := by
  induction turns generalizing c d with
  | nil => exact h
  | cons turn turns ih =>
    by_cases concerned : turn.concerns id
    · rw [List.filter_cons_of_pos concerned]
      exact ih (h.tell concerned)
    · rw [List.filter_cons_of_neg concerned]
      exact ih (h.tell_of_unconcerned concerned)

end Chronicle

end Gatehouse
