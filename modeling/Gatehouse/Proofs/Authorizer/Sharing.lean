import Gatehouse.Proofs.Authorizer.Wiring
import Gatehouse.Site.Manager

/-!
# Authorizers that share buses

All authorizers listen under the same two names, whether they stand alone, are copies of others or
belong to managers. So of those that share a bus the one that entered or left it last decides whom a
message reaches (`Sharing.last_touch_decides`): an authorizer that has realms and a bus is sure to hear
of a stale clearance only while nobody else has touched the bus since it did. A copy that moves to
another bus silences the original (`Sharing.silenced_by_copy`).
-/

namespace Gatehouse.Sharing

open Site

variable {σ : Type} {s : Site σ} {i bus : Nat} {realms : List Realm}

/-! ## Touches -/

/-- A member of a group of authorizers registers its listeners on a bus for some realms, or removes
them. -/
structure Touch where
  member : Nat
  bus : Nat
  /-- Nothing if the member left the bus. -/
  entered? : Option (List Realm)

/-- What members did to buses, the latest first. -/
abbrev Trail := List Touch

namespace Trail

def last? (trail : Trail) (bus : Nat) : Option Touch := trail.find? (·.bus = bus)

/-- The realms for which the bus was entered last, if nobody has left it since. -/
def standing? (trail : Trail) (bus : Nat) : Option (List Realm) :=
  (trail.last? bus).bind Touch.entered?

/-- The registrations that the last touch of the bus has left there. -/
def carried (trail : Trail) (bus : Nat) (topic : Topic) : List (Registration (Handler σ)) :=
  match trail.standing? bus with
  | some realms => topic.cacheRegistrations realms
  | none => []

variable {trail : Trail}

theorem last?_cons {touch : Touch} {other : Nat} :
    last? (touch :: trail) other = if touch.bus = other then some touch else trail.last? other := by
  rw [last?, List.find?_cons]
  split <;> simp_all [last?]

theorem standing?_cons {touch : Touch} {other : Nat} :
    standing? (touch :: trail) other =
      if touch.bus = other then touch.entered? else trail.standing? other := by
  rw [standing?, last?_cons]
  split <;> rfl

/-- Under reserved names the buses carry what the trail tells. -/
def Tells (trail : Trail) (s : Site σ) : Prop :=
  ∀ bus topic, (s.buses.get bus).reserved topic = trail.carried bus topic

namespace Tells

theorem orderly (h : trail.Tells s) (bus : Nat) (topic : Topic) :
    (s.buses.get bus).Orderly topic := by
  rw [Bus.Orderly, h bus topic, carried]
  cases trail.standing? bus with
  | some realms => exact .inr ⟨realms, rfl⟩
  | none => exact .inl rfl

theorem congr {other : Trail} (h : trail.Tells s)
    (same : ∀ bus, other.standing? bus = trail.standing? bus) : other.Tells s := by
  intro bus topic
  rw [h bus topic, carried, carried, same]

theorem subscribeOn (h : trail.Tells s) (i bus : Nat) (realms : List Realm) :
    Tells (⟨i, bus, some realms⟩ :: trail) ((Authorizer.subscribeOn realms bus).run s).2 := by
  intro other topic
  rw [Authorizer.buses_subscribeOn, carried, standing?_cons]
  by_cases same : bus = other
  · rw [if_pos same.symm, if_pos same, Bus.reserved_enter (h.orderly bus topic)]
  · rw [if_neg (Ne.symm same), if_neg same, h other topic, carried]

theorem unsubscribeFrom (h : trail.Tells s) (i bus : Nat) :
    Tells (⟨i, bus, none⟩ :: trail) ((Authorizer.unsubscribeFrom bus).run s).2 := by
  intro other topic
  rw [Authorizer.buses_unsubscribeFrom, carried, standing?_cons]
  by_cases same : bus = other
  · rw [if_pos same.symm, if_pos same, Bus.reserved_leave (h.orderly bus topic)]
  · rw [if_neg (Ne.symm same), if_neg same, h other topic, carried]

/-- A new bus is as if somebody had left it. -/
theorem newBus (h : trail.Tells s) (i : Nat) :
    Tells (⟨i, s.buses.size, none⟩ :: trail) ((newBus : Action σ Nat).run s).2 := by
  intro other topic
  have made : ((Site.newBus : Action σ Nat).run s).2.buses.get other =
      if other = s.buses.size then {} else s.buses.get other := Arena.get_push
  rw [made, carried, standing?_cons]
  by_cases same : s.buses.size = other
  · rw [if_pos same.symm, if_pos same]
    rfl
  · rw [if_neg (Ne.symm same), if_neg same, h other topic, carried]

theorem aside (h : trail.Tells s) {work : Action σ Unit} (spares : work.SparesReserved) :
    trail.Tells (work.run s).2 :=
  fun bus topic => (spares s bus topic).trans (h bus topic)

end Tells

end Trail

/-! ## Touches of an authorizer -/

section

variable {a : Authorizer} {trail : Trail}

/-- The touches of an authorizer that replaces its realms. -/
def realmTouches (i : Nat) (a : Authorizer) (realms : List Realm) : Trail :=
  (a.bus?.map fun bus => ⟨i, bus, some realms⟩).toList

/-- The touches of an authorizer that replaces its bus. -/
def busTouches (i : Nat) (a : Authorizer) (bus : Nat) : Trail :=
  (a.realms?.map fun realms => ⟨i, bus, some realms⟩).toList ++
    (a.bus?.map fun previous => ⟨i, previous, none⟩).toList

theorem member_of_mem_realmTouches {touch : Touch} (h : touch ∈ realmTouches i a realms) :
    touch.member = i := by
  obtain ⟨bus, -, rfl⟩ : ∃ bus, a.bus? = some bus ∧ ⟨i, bus, some realms⟩ = touch := by
    simpa [realmTouches] using h
  rfl

theorem member_of_mem_busTouches {touch : Touch} (h : touch ∈ busTouches i a bus) :
    touch.member = i := by
  rcases List.mem_append.1 h with entering | leaving
  · obtain ⟨realms, -, rfl⟩ : ∃ realms, a.realms? = some realms ∧ ⟨i, bus, some realms⟩ = touch := by
      simpa using entering
    rfl
  · obtain ⟨previous, -, rfl⟩ : ∃ previous, a.bus? = some previous ∧ ⟨i, previous, none⟩ = touch := by
      simpa using leaving
    rfl

theorem Trail.Tells.setRealms (h : trail.Tells s) (i : Nat) (a : Authorizer) (realms : List Realm) :
    Trail.Tells (realmTouches i a realms ++ trail) ((a.setRealms realms).run s).2 := by
  obtain ⟨realms?, _ | bus⟩ := a
  · exact h
  · exact h.subscribeOn i bus realms

theorem Trail.Tells.setBus (h : trail.Tells s) (i : Nat) (a : Authorizer) (bus : Nat) :
    Trail.Tells (busTouches i a bus ++ trail) ((a.setBus bus).run s).2 := by
  obtain ⟨_ | realms, _ | previous⟩ := a
  · exact h
  · exact h.unsubscribeFrom i previous
  · exact h.subscribeOn i bus realms
  · exact (h.unsubscribeFrom i previous).subscribeOn i bus realms

/-- If the last touch of its bus is its own, the authorizer has entered it for its realms. -/
def InPlace (trail : Trail) (i : Nat) (a : Authorizer) : Prop :=
  ∀ bus realms touch, a.bus? = some bus → a.realms? = some realms → trail.last? bus = some touch →
    touch.member = i → touch.entered? = some realms

theorem inPlace_setRealms (trail : Trail) (i : Nat) (a : Authorizer) (realms : List Realm) :
    InPlace (realmTouches i a realms ++ trail) i { a with realms? := some realms } := by
  rintro bus _ touch present ⟨⟩ last -
  have present : a.bus? = some bus := present
  rw [realmTouches, present, Option.map_some, Option.toList_some, List.singleton_append,
    Trail.last?_cons, if_pos rfl] at last
  rw [← Option.some.inj last]

theorem inPlace_setBus (trail : Trail) (i : Nat) (a : Authorizer) (bus : Nat) :
    InPlace (busTouches i a bus ++ trail) i { a with bus? := some bus } := by
  rintro _ realms touch ⟨⟩ set last -
  have set : a.realms? = some realms := set
  rw [busTouches, set, Option.map_some, Option.toList_some, List.singleton_append,
    List.cons_append, Trail.last?_cons, if_pos rfl] at last
  rw [← Option.some.inj last]

/-- What others do afterwards does not count as its own touch. -/
theorem InPlace.append (h : InPlace trail i a) {later : Trail}
    (others : ∀ touch ∈ later, touch.member ≠ i) : InPlace (later ++ trail) i a := by
  intro bus realms touch present set last own
  rw [Trail.last?, List.find?_append, Option.or_eq_some_iff] at last
  rcases last with found | ⟨-, found⟩
  · exact absurd own (others touch (List.mem_of_find?_eq_some found))
  · exact h bus realms touch present set found own

theorem inPlace_of_untouched (untouched : ∀ touch ∈ trail, touch.member ≠ i) : InPlace trail i a :=
  fun _ _ touch _ _ last own => absurd own (untouched touch (List.mem_of_find?_eq_some last))

end

/-! ## Members -/

/-- An authorizer by itself, or the one of a manager. -/
inductive Member where
  | free (a : Authorizer)
  | managed (m : Manager)

namespace Member

def authorizer : Member → Authorizer
  | free a => a
  | managed m => m.authorizer

def setRealms (member : Member) (realms : List Realm) : Action σ Member :=
  match member with
  | free a => return free (← a.setRealms realms)
  | managed m => return managed (← m.setRealms realms)

def setBus (member : Member) (bus : Nat) : Action σ Member :=
  match member with
  | free a => return free (← a.setBus bus)
  | managed m => return managed (← m.setBus bus)

/-- A manager replaces the realms as its authorizer does. -/
theorem run_setRealms (member : Member) (realms : List Realm) (s : Site σ) :
    ((member.setRealms realms : Action σ Member).run s).1.authorizer =
        { member.authorizer with realms? := some realms } ∧
      ((member.setRealms realms).run s).2 = ((member.authorizer.setRealms realms).run s).2 := by
  cases member <;> exact ⟨Authorizer.setRealms_eq, rfl⟩

theorem run_setBus (member : Member) (bus : Nat) (s : Site σ) :
    ((member.setBus bus : Action σ Member).run s).1.authorizer =
        { member.authorizer with bus? := some bus } ∧
      ((member.setBus bus).run s).2 = ((member.authorizer.setBus bus).run s).2 := by
  cases member <;> exact ⟨Authorizer.setBus_eq, rfl⟩

end Member

/-! ## Groups -/

/-- Authorizers that live side by side, with the trail of what they did to buses. -/
structure Group where
  members : List Member := []
  trail : Trail := []

namespace Group

/-- Takes a member in that has left these touches. -/
def join (g : Group) (member : Member) (touches : Trail) : Group :=
  { members := g.members ++ [member], trail := touches ++ g.trail }

/-- Puts a member in the place of what it was before these touches. -/
def renew (g : Group) (i : Nat) (member : Member) (touches : Trail) : Group :=
  { members := g.members.set i member, trail := touches ++ g.trail }

end Group

/-- What happens in a group of authorizers, or beside it under other names. -/
inductive Move (σ : Type) where
  | found
  | copy (i : Nat)
  | manage (bus : Nat) (realms : List Realm)
  /-- Makes a manager on a bus of its own. -/
  | manageAlone (realms : List Realm)
  | setRealms (i : Nat) (realms : List Realm)
  | setBus (i bus : Nat)
  | aside (work : Action σ Unit) (spares : work.SparesReserved)

/-- Does what a move asks for; a member that does not exist does nothing. -/
def Move.perform (g : Group) : Move σ → Action σ Group
  | found => return g.join (.free {}) []
  | copy i =>
    match g.members[i]? with
    | some member => return g.join (.free member.authorizer) []
    | none => return g
  | manage bus realms => do
    let m ← Manager.withBus bus realms
    return g.join (.managed m) [⟨g.members.length, bus, some realms⟩]
  | manageAlone realms => do
    let m ← Manager.new realms
    return g.join (.managed m) [⟨g.members.length, m.bus, some realms⟩]
  | setRealms i realms =>
    match g.members[i]? with
    | some member => do
      let renewed ← member.setRealms realms
      return g.renew i renewed (realmTouches i member.authorizer realms)
    | none => return g
  | setBus i bus =>
    match g.members[i]? with
    | some member => do
      let renewed ← member.setBus bus
      return g.renew i renewed (busTouches i member.authorizer bus)
    | none => return g
  | aside work _ => do
    work
    return g

/-- What becomes of nobody. -/
def gather (moves : List (Move σ)) : Action σ Group := moves.foldlM Move.perform {}

/-! ## One move -/

/-- The trail is true of the buses, and of each member whose touch was the last. -/
structure Kept (g : Group) (s : Site σ) : Prop where
  tells : g.trail.Tells s
  known : ∀ touch ∈ g.trail, touch.member < g.members.length
  inPlace : ∀ i member, g.members[i]? = some member → InPlace g.trail i member.authorizer

namespace Kept

variable {g : Group} {t : Site σ} {member : Member} {touches : Trail}

theorem join (h : Kept g s) (tells : Trail.Tells (touches ++ g.trail) t)
    (own : ∀ touch ∈ touches, touch.member = g.members.length)
    (inPlace : InPlace (touches ++ g.trail) g.members.length member.authorizer) :
    Kept (g.join member touches) t where
  tells
  known touch mem := by
    rw [Group.join, List.length_append, List.length_singleton]
    rcases List.mem_append.1 mem with new | old
    · have := own touch new
      omega
    · have := h.known touch old
      omega
  inPlace i other found := by
    rw [Group.join, List.getElem?_append] at found
    split at found
    next before =>
      refine (h.inPlace i other found).append fun touch mem => ?_
      have := own touch mem
      omega
    next after =>
      obtain ⟨last, rfl⟩ : i - g.members.length = 0 ∧ member = other := by
        simpa [List.getElem?_singleton] using found
      obtain rfl : i = g.members.length := by omega
      exact inPlace

theorem renew (h : Kept g s) (found : g.members[i]? = some member)
    {renewed : Member} (tells : Trail.Tells (touches ++ g.trail) t)
    (own : ∀ touch ∈ touches, touch.member = i)
    (inPlace : InPlace (touches ++ g.trail) i renewed.authorizer) :
    Kept (g.renew i renewed touches) t where
  tells
  known touch mem := by
    rw [Group.renew, List.length_set]
    rcases List.mem_append.1 mem with new | old
    · rw [own touch new]
      exact (List.getElem?_eq_some_iff.1 found).1
    · exact h.known touch old
  inPlace j other here := by
    rw [Group.renew, List.getElem?_set] at here
    split at here
    next same =>
      subst same
      split at here
      · obtain rfl := Option.some.inj here
        exact inPlace
      · contradiction
    next apart =>
      refine (h.inPlace j other here).append fun touch mem => ?_
      rw [own touch mem]
      exact apart

/-- A member that has touched nothing is in place. -/
theorem join_untouched (h : Kept g s) (a : Authorizer) : Kept (g.join (.free a) []) s :=
  h.join h.tells nofun <| inPlace_of_untouched fun touch mem => by
    have := h.known touch mem
    omega

theorem manage (h : Kept g s) (bus : Nat) (realms : List Realm) :
    Kept (g.join (.managed ((Manager.withBus bus realms).run s).1)
      [⟨g.members.length, bus, some realms⟩]) ((Manager.withBus bus realms).run s).2 := by
  refine h.join (h.tells.subscribeOn g.members.length bus realms) (by simp) ?_
  exact inPlace_setRealms g.trail g.members.length ⟨none, some bus⟩ realms

theorem manageAlone (h : Kept g s) (realms : List Realm) :
    Kept (g.join (.managed ((Manager.new realms).run s).1)
      [⟨g.members.length, ((Manager.new realms).run s).1.bus, some realms⟩])
      ((Manager.new realms).run s).2 := by
  have bus : ((Manager.new realms).run s).1.bus = s.buses.size := rfl
  have made := (h.tells.newBus g.members.length).subscribeOn g.members.length s.buses.size realms
  refine h.join (made.congr fun other => ?_) (by simp) ?_
  · rw [bus]
    simp only [List.singleton_append, Trail.standing?_cons]
    split <;> rfl
  · exact inPlace_setRealms g.trail g.members.length ⟨none, some s.buses.size⟩ realms

end Kept

theorem Move.kept_perform {g : Group} (move : Move σ) (h : Kept g s) :
    Kept ((move.perform g).run s).1 ((move.perform g).run s).2 := by
  cases move with
  | found => exact h.join_untouched {}
  | copy i =>
    rw [perform]
    cases g.members[i]? with
    | some member => exact h.join_untouched member.authorizer
    | none => exact h
  | manage bus realms => exact h.manage bus realms
  | manageAlone realms => exact h.manageAlone realms
  | setRealms i realms =>
    rw [perform]
    cases found : g.members[i]? with
    | none => exact h
    | some member =>
      obtain ⟨authorizer, left⟩ := member.run_setRealms realms s
      refine h.renew found ?_ (fun _ => member_of_mem_realmTouches) ?_
      · exact left ▸ h.tells.setRealms i member.authorizer realms
      · exact authorizer ▸ inPlace_setRealms g.trail i member.authorizer realms
  | setBus i bus =>
    rw [perform]
    cases found : g.members[i]? with
    | none => exact h
    | some member =>
      obtain ⟨authorizer, left⟩ := member.run_setBus bus s
      refine h.renew found ?_ (fun _ => member_of_mem_busTouches) ?_
      · exact left ▸ h.tells.setBus i member.authorizer bus
      · exact authorizer ▸ inPlace_setBus g.trail i member.authorizer bus
  | aside work spares => exact ⟨h.tells.aside spares, h.known, h.inPlace⟩

/-! ## Every run -/

theorem kept_foldlM_perform (moves : List (Move σ)) {g : Group} (h : Kept g s) :
    Kept ((moves.foldlM Move.perform g).run s).1 ((moves.foldlM Move.perform g).run s).2 := by
  induction moves generalizing g s with
  | nil => exact h
  | cons move moves ih =>
    rw [List.foldlM_cons]
    exact ih (move.kept_perform h)

/-- Nobody is registered under a reserved name. -/
theorem kept_of_unclaimed (unclaimed : ∀ bus topic, (s.buses.get bus).reserved topic = []) :
    Kept {} s := ⟨unclaimed, nofun, nofun⟩

/-- What a message asks of the realms for which its bus was entered last. -/
def respond (standing? : Option (List Realm)) (message : Message) : Action σ Unit :=
  match standing? with
  | some realms => Authorizer.respond realms message
  | none => return ()

theorem Trail.Tells.exists_run_send {trail : Trail} (h : trail.Tells s) (run : σ → Action σ Unit)
    (bus : Nat) (message : Message) :
    ∃ before after, before ++ after = (s.buses.get bus).others message.topic ∧
      (send run bus message).run s = (do
        notifyAll run before message
        respond (trail.standing? bus) message
        notifyAll run after message
        return (s.buses.get bus).count message.topic : Action σ Nat).run s := by
  have carried := h bus message.topic
  rw [Trail.carried] at carried
  cases standing : trail.standing? bus with
  | some realms =>
    rw [standing] at carried
    exact run_send_of_reserved run carried
  | none =>
    rw [standing] at carried
    refine ⟨(s.buses.get bus).listening message.topic, [], ?_, rfl⟩
    rw [List.append_nil, Bus.others_of_reserved_eq_nil carried]

/-- Whatever the members of a group do: a bus carries the registrations of who entered it last, if
nobody has left it since, and a message on it is heard on their account alone. So the realms of a member
whose own touch of its bus was the last are cleared, each that remembers, of whom the message makes
stale. -/
theorem last_touch_decides (unclaimed : ∀ bus topic, (s.buses.get bus).reserved topic = [])
    (moves : List (Move σ)) :
    let g := ((gather moves).run s).1
    let t := ((gather moves).run s).2
    (∀ bus topic, (t.buses.get bus).reserved topic = g.trail.carried bus topic) ∧
    (∀ run bus message, ∃ before after, before ++ after = (t.buses.get bus).others message.topic ∧
      (send run bus message).run t = (do
        notifyAll run before message
        respond (g.trail.standing? bus) message
        notifyAll run after message
        return (t.buses.get bus).count message.topic : Action σ Nat).run t) ∧
    ∀ i member bus realms touch, g.members[i]? = some member →
      member.authorizer.bus? = some bus → member.authorizer.realms? = some realms →
      g.trail.last? bus = some touch → touch.member = i →
      ∀ run message identity, message.stale? = some identity →
        ∃ before after, before ++ after = (t.buses.get bus).others message.topic ∧
          (send run bus message).run t = (do
            notifyAll run before message
            Realm.clearCaching realms identity
            notifyAll run after message
            return (t.buses.get bus).count message.topic : Action σ Nat).run t := by
  intro g t
  have kept : Kept g t := kept_foldlM_perform moves (kept_of_unclaimed unclaimed)
  refine ⟨kept.tells, fun run bus message => kept.tells.exists_run_send run bus message, ?_⟩
  intro i member bus realms touch found present set last own run message identity stale
  have standing : g.trail.standing? bus = some realms := by
    rw [Trail.standing?, last]
    exact kept.inPlace i member found bus realms touch present set last own
  obtain ⟨before, after, others, sent⟩ := kept.tells.exists_run_send run bus message
  refine ⟨before, after, others, ?_⟩
  rw [sent, standing, respond, Authorizer.respond, stale]

/-- An authorizer gets a bus on which a manager stood before. Of an authentication its own realm hears
and the realm of the manager does not. -/
theorem last_touch_decides_of_newcomer :
    let alice : Identity := ⟨[⟨"accounts", "alice"⟩]⟩
    let theirs := Realm.outside (.fixed "theirs" true none true none none)
    let own := Realm.outside (.fixed "own" true none true none none)
    let moves : List (Move Unit) := [.manage 0 [theirs], .found, .setRealms 1 [own], .setBus 1 0]
    let run : Unit → Action Unit Unit := fun _ => return ()
    let message : Message := ⟨.authenticationSucceeded, .authentication alice⟩
    let site : Site Unit := {}
    (∀ bus topic, (site.buses.get bus).reserved topic = []) ∧
      ((send run 0 message).run ((gather moves).run site).2).2.trace = [.cleared "own" alice] := by
  intro alice theirs own moves run message site
  have unclaimed (bus : Nat) (topic : Topic) : (site.buses.get bus).reserved topic = [] := rfl
  refine ⟨unclaimed, ?_⟩
  obtain ⟨before, after, others, sent⟩ :=
    (last_touch_decides unclaimed moves).2.2 1 (.free ⟨some [own], some 0⟩) 0 [own]
      ⟨1, 0, some [own]⟩ rfl rfl rfl rfl rfl run message alice rfl
  have alone : ((((gather moves).run site).2.buses.get 0).others message.topic).isEmpty := by
    decide +kernel
  rw [← others, List.isEmpty_iff, List.append_eq_nil_iff] at alone
  rw [sent, alone.1, alone.2]
  decide +kernel

/-- A copy of an authorizer moves to another bus. The original still has its realm and its bus, but an
authentication on that bus is not heard any more. -/
theorem silenced_by_copy :
    let alice : Identity := ⟨[⟨"accounts", "alice"⟩]⟩
    let realm := Realm.outside (.fixed "r" true none true none none)
    let moves : List (Move Unit) :=
      [.found, .setRealms 0 [realm], .setBus 0 0, .copy 0, .setBus 1 1]
    let run : Unit → Action Unit Unit := fun _ => return ()
    let message : Message := ⟨.authenticationSucceeded, .authentication alice⟩
    let g := ((gather moves).run {}).1
    let t := ((gather moves).run {}).2
    g.members[0]? = some (.free ⟨some [realm], some 0⟩) ∧ realm.isCaching ∧
      ((send run 0 message).run t).1 = 0 ∧
      .cleared realm.label alice ∉ ((send run 0 message).run t).2.trace := by
  refine ⟨rfl, ?_, ?_, ?_⟩ <;> decide +kernel

end Gatehouse.Sharing
