import Mathlib.Data.List.Induction
import Mathlib.Data.List.Nodup
import Gatehouse.Proofs.Authorizer.Delivery
import Gatehouse.Proofs.Site.Steady
import Gatehouse.Scenario.Bus

/-!
# Who stands on a bus

A bus can be told from the history of what was done with it (`Bus.Follows`): a listener stands there
for a topic if the last that was said of the two is a subscription, with the handler of that
subscription, and in the place that it took when it came and has not left since. `Follows.onBus`
says so of one turn, and `Bus.follows_history` of every run among handlers that leave the bus alone.
-/

namespace Gatehouse

open Site

variable {σ η : Type} {run : σ → Action σ Unit} {s : Site σ} {b : Bus η} {l m : String}
  {t u : Topic}

namespace Bus

/-! ## Names -/

/-- The listeners for a topic, in order. -/
def names (b : Bus η) (topic : Topic) : List String :=
  (b.listening topic).map Registration.listener

theorem count_eq_length_names : b.count t = (b.names t).length := by simp [count, names]

theorem topic_of_mem_listening {r : Registration η} (mem : r ∈ b.listening t) : r.topic = t := by
  simpa using (List.mem_filter.1 mem).2

theorem isSubscribed_iff : b.isSubscribed l t ↔ l ∈ b.names t := by
  simp only [isSubscribed, names, listening, Registration.belongs, List.any_eq_true, List.mem_map,
    List.mem_filter, Bool.and_eq_true, decide_eq_true_eq]
  grind

theorem names_register {r : Registration η} {registrations : List (Registration η)}
    (alike : ∀ q ∈ registrations, q.topic = r.topic) :
    (register r registrations).map Registration.listener =
      if r.listener ∈ registrations.map Registration.listener
      then registrations.map Registration.listener
      else registrations.map Registration.listener ++ [r.listener] := by
  induction registrations with
  | nil => simp [register]
  | cons q rest ih =>
    obtain ⟨first, others⟩ := List.forall_mem_cons.1 alike
    have ih := ih others
    rw [register]
    by_cases same : q.listener = r.listener
    · simp [Registration.belongs, first, same]
    · simp only [Registration.belongs, first, same, decide_true, decide_false, Bool.and_false,
        Bool.false_eq_true, if_false, List.map_cons, ih, List.mem_cons, Ne.symm same, false_or]
      split <;> simp

/-- A registration drives out the one of its listener, and no other. -/
theorem mem_register {r : Registration η} {registrations : List (Registration η)}
    (alike : ∀ q ∈ registrations, q.topic = r.topic)
    (distinct : (registrations.map Registration.listener).Nodup) {q : Registration η} :
    q ∈ register r registrations ↔ q = r ∨ q ∈ registrations ∧ q.listener ≠ r.listener := by
  induction registrations with
  | nil => simp [register]
  | cons first rest ih =>
    obtain ⟨own, alike⟩ := List.forall_mem_cons.1 alike
    obtain ⟨unlike, distinct⟩ := List.nodup_cons.1 distinct
    have unlike (q : Registration η) (mem : q ∈ rest) : q.listener ≠ first.listener := by
      intro same
      have : q.listener ∈ rest.map Registration.listener := List.mem_map_of_mem mem
      exact unlike (same ▸ this)
    have ih := ih alike distinct
    rw [register]
    split
    next same =>
      have same : first.listener = r.listener := (first.eq_and_eq_of_belongs same).2
      grind
    next other =>
      have other : first.listener ≠ r.listener := by simpa [Registration.belongs, own] using other
      grind

theorem listening_subscribe {handler : η} :
    (b.subscribe l t handler).listening t = register ⟨t, l, handler⟩ (b.listening t) := by
  refine filter_register_of_pos (fun q same => ?_) (by simp) _
  simp [(q.eq_and_eq_of_belongs same).1]

/-- A new listener comes last, and one that is there already keeps its place. -/
theorem names_subscribe {handler : η} :
    (b.subscribe l t handler).names u =
      if t = u ∧ l ∉ b.names u then b.names u ++ [l] else b.names u := by
  by_cases own : t = u
  · subst own
    have alike : ∀ q ∈ b.listening t, q.topic = t := fun q mem => topic_of_mem_listening mem
    rw [names, listening_subscribe, names_register alike]
    by_cases there : l ∈ b.names t
    · simp only [names] at there ⊢
      simp [there]
    · simp only [names] at there ⊢
      simp [there]
  · rw [if_neg (by simp [own]), names, listening_subscribe_of_ne own, names]

theorem names_unsubscribe :
    (b.unsubscribe l t).names u = if t = u then (b.names u).filter (· ≠ l) else b.names u := by
  rw [names, listening_unsubscribe, names]
  by_cases own : t = u
  · subst own
    rw [if_pos rfl, List.filter_map]
    refine congrArg _ (List.filter_congr fun r mem => ?_)
    simp [Registration.belongs, topic_of_mem_listening mem]
  · rw [if_neg own]
    refine congrArg _ (List.filter_eq_self.2 fun r mem => ?_)
    simp [Registration.belongs, topic_of_mem_listening mem, Ne.symm own]

theorem mem_listening_subscribe {handler : η} (distinct : (b.names t).Nodup)
    {r : Registration η} :
    r ∈ (b.subscribe l t handler).listening t ↔
      r = ⟨t, l, handler⟩ ∨ r ∈ b.listening t ∧ r.listener ≠ l := by
  have alike : ∀ q ∈ b.listening t, q.topic = t := fun q mem => topic_of_mem_listening mem
  rw [listening_subscribe]
  exact mem_register alike distinct

/-! ## Histories -/

/-- What is done with a bus. -/
inductive Turn (σ : Type) where
  | subscribe (listener : String) (topic : Topic) (handler : Handler σ)
  | unsubscribe (listener : String) (topic : Topic)
  | send (message : Message)

namespace Turn

def perform (run : σ → Action σ Unit) (bus : Nat) : Turn σ → Action σ Unit
  | subscribe listener topic handler => changeBus bus (·.subscribe listener topic handler)
  | unsubscribe listener topic => changeBus bus (·.unsubscribe listener topic)
  | send message => do let _ ← Site.send run bus message

/-- What the turn itself makes of the bus. -/
def onBus : Turn σ → Bus (Handler σ) → Bus (Handler σ)
  | subscribe listener topic handler, b => b.subscribe listener topic handler
  | unsubscribe listener topic, b => b.unsubscribe listener topic
  | send _, b => b

/-- The turn subscribes or unsubscribes the listener for the topic. -/
def concerns (listener : String) (topic : Topic) : Turn σ → Bool
  | subscribe l t _ | unsubscribe l t => l = listener && t = topic
  | send _ => false

/-- The turn subscribes or unsubscribes somebody for the topic. -/
def touches (topic : Topic) : Turn σ → Bool
  | subscribe _ t _ | unsubscribe _ t => t = topic
  | send _ => false

def handler? : Turn σ → Option (Handler σ)
  | subscribe _ _ handler => some handler
  | unsubscribe .. | send _ => none

end Turn

/-- What was done with a bus, in order. -/
abbrev History (σ : Type) := List (Turn σ)

namespace History

/-- The handler of the last subscription of a listener for a topic, if it was not unsubscribed
since. -/
def standing? (turns : History σ) (listener : String) (topic : Topic) : Option (Handler σ) :=
  (turns.reverse.find? (·.concerns listener topic)).bind Turn.handler?

/-- The turn in this place is a subscription with which the listener came, and it has not left
since. -/
structure Began (turns : History σ) (listener : String) (topic : Topic) (i : Nat) : Prop where
  subscribed : ∃ handler, turns[i]? = some (.subscribe listener topic handler)
  new : standing? (turns.take i) listener topic = none
  lasting : ∀ j, i < j → turns[j]? ≠ some (.unsubscribe listener topic)

variable {turns : History σ} {turn : Turn σ} {i : Nat}

theorem standing?_append_singleton :
    standing? (turns ++ [turn]) l t =
      if turn.concerns l t then turn.handler? else turns.standing? l t := by
  simp only [standing?, List.reverse_append, List.reverse_singleton, List.singleton_append,
    List.find?_cons]
  cases turn.concerns l t <;> simp

theorem Began.lt_length (h : turns.Began l t i) : i < turns.length := by
  obtain ⟨handler, here⟩ := h.subscribed
  exact (List.getElem?_eq_some_iff.1 here).1

/-- With one more turn, what has begun goes on unless the turn ends it, and the turn itself may be a
beginning. -/
theorem began_append_singleton_iff :
    Began (turns ++ [turn]) l t i ↔
      turns.Began l t i ∧ turn ≠ .unsubscribe l t ∨
        i = turns.length ∧ (∃ handler, turn = .subscribe l t handler) ∧
          turns.standing? l t = none := by
  constructor
  · rintro ⟨⟨handler, here⟩, new, lasting⟩
    have bound : i < turns.length + 1 := by
      simpa using (List.getElem?_eq_some_iff.1 here).1
    -- the beginning is the turn itself, or a turn before it which nothing has ended
    by_cases last : i = turns.length
    · subst last
      refine .inr ⟨rfl, ⟨handler, by simpa using here⟩, by simpa using new⟩
    · have early : i < turns.length := by omega
      rw [List.getElem?_append_left early] at here
      rw [List.take_append_of_le_length (by omega)] at new
      refine .inl ⟨⟨⟨handler, here⟩, new, fun j later there => ?_⟩, fun ends => ?_⟩
      · have inside := (List.getElem?_eq_some_iff.1 there).1
        exact lasting j later (by rwa [List.getElem?_append_left inside])
      · exact lasting turns.length early (by simp [ends])
  · rintro (⟨h, goes_on⟩ | ⟨rfl, ⟨handler, rfl⟩, new⟩)
    · have early := h.lt_length
      obtain ⟨handler, here⟩ := h.subscribed
      refine ⟨⟨handler, by rwa [List.getElem?_append_left early]⟩, ?_, fun j later there => ?_⟩
      · rw [List.take_append_of_le_length (by omega)]
        exact h.new
      · by_cases inside : j < turns.length
        · rw [List.getElem?_append_left inside] at there
          exact h.lasting j later there
        · have : j = turns.length := by
            have := (List.getElem?_eq_some_iff.1 there).1
            simp at this
            omega
          subst this
          exact goes_on (by simpa using there)
    · refine ⟨⟨handler, by simp⟩, by simpa using new, fun j later there => ?_⟩
      have := (List.getElem?_eq_some_iff.1 there).1
      simp at this
      omega

/-- Who has begun and not left is standing. -/
theorem Began.standing (h : turns.Began l t i) : (turns.standing? l t).isSome := by
  induction turns using List.reverseRecOn with
  | nil => simpa using h.lt_length
  | append_singleton turns turn ih =>
    rw [standing?_append_singleton]
    rcases began_append_singleton_iff.1 h with ⟨before, goes_on⟩ | ⟨-, ⟨handler, rfl⟩, -⟩
    · cases turn with
      | subscribe m u handler =>
        split
        · rfl
        · exact ih before
      | unsubscribe m u =>
        have other : Turn.concerns l t (.unsubscribe m u : Turn σ) = false := by
          simp only [Turn.concerns, Bool.and_eq_false_iff, decide_eq_false_iff_not]
          grind
        rw [other]
        exact ih before
      | send message => exact ih before
    · simp [Turn.concerns, Turn.handler?]

end History

/-! ## One turn -/

/-- The bus is as its history tells. -/
structure Follows (b : Bus (Handler σ)) (turns : History σ) : Prop where
  registered (l : String) (t : Topic) : b.isSubscribed l t = (turns.standing? l t).isSome
  held (t : Topic) : ∀ r ∈ b.listening t, turns.standing? r.listener t = some r.handler
  distinct (t : Topic) : (b.names t).Nodup
  begun (t : Topic) : ∀ l ∈ b.names t, ∃ i, turns.Began l t i
  ordered (t : Topic) : (b.names t).Pairwise fun first second =>
    ∀ i j, turns.Began first t i → turns.Began second t j → i < j

namespace Follows

variable {b : Bus (Handler σ)} {turns : History σ} {turn : Turn σ}

theorem empty : Follows ({} : Bus (Handler σ)) [] where
  registered _ _ := rfl
  held _ := nofun
  distinct _ := List.nodup_nil
  begun _ := nofun
  ordered _ := List.Pairwise.nil

/-- Who is not registered has not begun, or has left. -/
theorem not_began (h : b.Follows turns) (away : l ∉ b.names t) (i : Nat) :
    ¬ turns.Began l t i := by
  intro began
  have standing := began.standing
  rw [← h.registered, isSubscribed_iff] at standing
  exact away standing

theorem standing_of_mem (h : b.Follows turns) (there : l ∈ b.names t) :
    (turns.standing? l t).isSome := by
  rw [← h.registered]
  exact isSubscribed_iff.2 there

theorem standing_of_notMem (h : b.Follows turns) (away : l ∉ b.names t) :
    turns.standing? l t = none := by
  have gone : b.isSubscribed l t = false := Bool.eq_false_iff.2 (mt isSubscribed_iff.1 away)
  simpa [gone] using h.registered l t

/-- Who is there already does not begin again. -/
theorem began_before (h : b.Follows turns) (there : l ∈ b.names t) {i : Nat}
    (began : History.Began (turns ++ [turn]) l t i) : turns.Began l t i := by
  rcases History.began_append_singleton_iff.1 began with ⟨before, -⟩ | ⟨-, -, new⟩
  · exact before
  · have standing := h.standing_of_mem there
    simp [new] at standing

/-- Who is there and not sent away by the turn has begun when it had. -/
theorem begun_after (h : b.Follows turns) (there : l ∈ b.names t)
    (stays : turn ≠ .unsubscribe l t) : ∃ i, History.Began (turns ++ [turn]) l t i := by
  obtain ⟨i, began⟩ := h.begun t l there
  exact ⟨i, History.began_append_singleton_iff.2 (.inl ⟨began, stays⟩)⟩

/-- The order of those who are there already does not change. -/
theorem ordered_after (h : b.Follows turns) (turn : Turn σ) (t : Topic) :
    (b.names t).Pairwise fun first second => ∀ i j, History.Began (turns ++ [turn]) first t i →
      History.Began (turns ++ [turn]) second t j → i < j := by
  refine (h.ordered t).imp_of_mem fun {first second} hfirst hsecond earlier i j hi hj => ?_
  exact earlier i j (h.began_before hfirst hi) (h.began_before hsecond hj)

theorem subscribe (h : b.Follows turns) (l : String) (t : Topic) (handler : Handler σ) :
    (b.subscribe l t handler).Follows (turns ++ [.subscribe l t handler]) where
  registered m u := by
    rw [isSubscribed_subscribe, History.standing?_append_singleton, h.registered]
    simp only [Turn.concerns, Turn.handler?]
    grind
  held u r mem := by
    rw [History.standing?_append_singleton]
    by_cases own : t = u
    · subst own
      rcases (mem_listening_subscribe (h.distinct t)).1 mem with rfl | ⟨old, other⟩
      · simp [Turn.concerns, Turn.handler?]
      · simpa [Turn.concerns, other.symm] using h.held t r old
    · rw [listening_subscribe_of_ne own] at mem
      simpa [Turn.concerns, own] using h.held u r mem
  distinct u := by
    rw [names_subscribe]
    split
    next new =>
      have away (m : String) (there : m ∈ b.names u) : m ≠ l := fun same => new.2 (same ▸ there)
      simpa [List.nodup_append, h.distinct u] using away
    next => exact h.distinct u
  begun u m mem := by
    rw [names_subscribe] at mem
    by_cases there : m ∈ b.names u
    · exact h.begun_after there (by simp)
    · have new : t = u ∧ m = l := by grind
      obtain ⟨rfl, rfl⟩ := new
      refine ⟨turns.length, History.began_append_singleton_iff.2 (.inr ⟨rfl, ⟨handler, rfl⟩, ?_⟩)⟩
      exact h.standing_of_notMem there
  ordered u := by
    rw [names_subscribe]
    split
    next new =>
      obtain ⟨rfl, away⟩ := new
      refine List.pairwise_append.2 ⟨h.ordered_after _ t, List.pairwise_singleton _ _, ?_⟩
      intro first there second last i j hi hj
      have early := (h.began_before there hi).lt_length
      cases List.mem_singleton.1 last
      rcases History.began_append_singleton_iff.1 hj with ⟨before, -⟩ | ⟨rfl, -⟩
      · exact absurd before (h.not_began away j)
      · exact early
    next => exact h.ordered_after _ u

theorem unsubscribe (h : b.Follows turns) (l : String) (t : Topic) :
    (b.unsubscribe l t).Follows (turns ++ [.unsubscribe l t]) where
  registered m u := by
    rw [isSubscribed_unsubscribe, History.standing?_append_singleton, h.registered]
    simp only [Turn.concerns, Turn.handler?]
    grind
  held u r mem := by
    rw [listening_unsubscribe] at mem
    obtain ⟨old, stays⟩ := List.mem_filter.1 mem
    have other : Turn.concerns r.listener u (.unsubscribe l t : Turn σ) = false := by
      have := topic_of_mem_listening old
      simp only [Registration.belongs, Turn.concerns] at stays ⊢
      grind
    rw [History.standing?_append_singleton, other]
    exact h.held u r old
  distinct u := by
    rw [names_unsubscribe]
    split
    · exact (h.distinct u).filter _
    · exact h.distinct u
  begun u m mem := by
    rw [names_unsubscribe] at mem
    have there : m ∈ b.names u := by grind
    refine h.begun_after there ?_
    grind
  ordered u := by
    rw [names_unsubscribe]
    split
    · exact (h.ordered_after _ u).filter _
    · exact h.ordered_after _ u

theorem send (h : b.Follows turns) (message : Message) : b.Follows (turns ++ [.send message]) where
  registered m u := by
    rw [History.standing?_append_singleton, h.registered]
    rfl
  held u r mem := by
    rw [History.standing?_append_singleton]
    exact h.held u r mem
  distinct := h.distinct
  begun u m there := h.begun_after there (by simp)
  ordered u := h.ordered_after _ u

theorem onBus (h : b.Follows turns) (turn : Turn σ) :
    (turn.onBus b).Follows (turns ++ [turn]) := by
  cases turn with
  | subscribe l t handler => exact h.subscribe l t handler
  | unsubscribe l t => exact h.unsubscribe l t
  | send message => exact h.send message

end Follows

/-- Who is not mentioned keeps standing as it was. -/
theorem Turn.listening_onBus {b : Bus (Handler σ)} {turn : Turn σ}
    (aside : turn.touches t = false) : (turn.onBus b).listening t = b.listening t := by
  cases turn with
  | subscribe l u handler => exact listening_subscribe_of_ne (by simpa [Turn.touches] using aside)
  | unsubscribe l u =>
    have other : u ≠ t := by simpa [Turn.touches] using aside
    rw [Turn.onBus, listening_unsubscribe]
    refine List.filter_eq_self.2 fun r mem => ?_
    simp [Registration.belongs, topic_of_mem_listening mem, other.symm]
  | send message => rfl

/-! ## Every run -/

theorem History.exists_of_standing? {turns : History σ} {handler : Handler σ}
    (standing : turns.standing? l t = some handler) :
    ∃ turn ∈ turns, turn.handler? = some handler := by
  obtain ⟨turn, found, own⟩ := Option.bind_eq_some_iff.1 standing
  exact ⟨turn, List.mem_reverse.1 (List.mem_of_find?_eq_some found), own⟩

end Bus

/-- Whatever it is told, the handler leaves the bus alone. -/
def Handler.SparesBus (run : σ → Action σ Unit) (bus : Nat) (handler : Handler σ) : Prop :=
  ∀ message (s : Site σ), ((handler.notify run message).run s).2.buses.get bus = s.buses.get bus

/-- A handler can change a bus in a script only. -/
theorem Handler.sparesBus_of_run {bus : Nat}
    (calm : ∀ actions (s : Site σ), ((run actions).run s).2.buses.get bus = s.buses.get bus)
    (handler : Handler σ) : handler.SparesBus run bus := by
  intro message s
  have steady : Steady run fun t => t.buses.get bus = s.buses.get bus :=
    ⟨fun t u _ same kept => by rw [same, kept], fun _ _ _ kept => kept,
      fun actions t kept => (calm actions t).trans kept⟩
  exact steady.notify handler message s rfl

theorem Site.get_notifyAll {bus : Nat} {targets : List (Registration (Handler σ))}
    (spares : ∀ target ∈ targets, target.handler.SparesBus run bus) (message : Message) :
    ((notifyAll run targets message).run s).2.buses.get bus = s.buses.get bus := by
  have keeps : (notifyAll run targets message).Keeps fun t =>
      t.buses.get bus = s.buses.get bus :=
    .forM fun target mem t kept => (spares target mem message t).trans kept
  exact keeps s rfl

namespace Bus

/-- All that was ever subscribed leaves the bus alone. -/
def History.Spares (run : σ → Action σ Unit) (bus : Nat) (turns : History σ) : Prop :=
  ∀ turn ∈ turns, ∀ handler, turn.handler? = some handler → handler.SparesBus run bus

theorem Follows.spares {b : Bus (Handler σ)} {turns : History σ} {bus : Nat}
    (h : b.Follows turns) (spares : turns.Spares run bus) (t : Topic) :
    ∀ r ∈ b.listening t, r.handler.SparesBus run bus := by
  intro r mem
  obtain ⟨turn, there, own⟩ := History.exists_of_standing? (h.held t r mem)
  exact spares turn there r.handler own

theorem Follows.get_perform {turns : History σ} {bus : Nat}
    (h : (s.buses.get bus).Follows turns) (spares : turns.Spares run bus) (turn : Turn σ) :
    ((turn.perform run bus).run s).2.buses.get bus = turn.onBus (s.buses.get bus) := by
  cases turn with
  | subscribe l t handler => exact Arena.get_update.trans (if_pos rfl)
  | unsubscribe l t => exact Arena.get_update.trans (if_pos rfl)
  | send message => exact get_notifyAll (h.spares spares message.topic) message

/-- Does one turn after the other. -/
def spend (run : σ → Action σ Unit) (bus : Nat) (turns : History σ) : Action σ Unit :=
  turns.forM (·.perform run bus)

theorem follows_spend {bus : Nat} (new : s.buses.get bus = {}) {turns : History σ}
    (spares : turns.Spares run bus) :
    (((spend run bus turns).run s).2.buses.get bus).Follows turns := by
  induction turns using List.reverseRecOn with
  | nil => exact new ▸ .empty
  | append_singleton turns turn ih =>
    obtain ⟨before, -⟩ := List.forall_mem_append.1 spares
    have h := ih before
    have last : ((spend run bus (turns ++ [turn])).run s).2 =
        ((turn.perform run bus).run ((spend run bus turns).run s).2).2 := by
      rw [spend, Action.run_forM_append]
      rfl
    rw [last, h.get_perform before turn]
    exact h.onBus turn

/-- What a script is told under a name of a bus whose history this is, and what its steps do to the
bus. -/
structure Answers (run : σ → Action σ Unit) (name : String) (bus : Nat) (turns : History σ)
    (s : Site σ) : Prop where
  isSubscribed (l : String) (t : Topic) :
    (BusStep.perform run name (.isSubscribed l t)).run s = (.flag (turns.standing? l t).isSome, s)
  counts : (BusStep.perform run name .counts).run s =
    (.counts (Topic.all.map fun t => some ((s.buses.get bus).names t).length), s)
  unsubscribe (l : String) (t : Topic) : (BusStep.perform run name (.unsubscribe l t)).run s =
    (.flag (turns.standing? l t).isSome, (((Turn.unsubscribe l t).perform run bus).run s).2)
  send (message : Message) : (BusStep.perform run name (.send message)).run s =
    (.count ((s.buses.get bus).names message.topic).length,
      ((Turn.perform run bus (.send message)).run s).2)

theorem Follows.answers {turns : History σ} {bus : Nat} (h : (s.buses.get bus).Follows turns)
    {name : String} (named : s.names.buses.find? name = some ⟨bus, true⟩) :
    Answers run name bus turns s := by
  have under (act : BusName → Action σ Answer) :
      (withNamed (·.buses.find? name) act).run s = (act ⟨bus, true⟩).run s := by
    rw [withNamed, Action.run_get_bind, named]
  constructor
  case isSubscribed =>
    intro l t
    rw [← h.registered]
    exact under _
  case counts =>
    simp only [← count_eq_length_names]
    exact under _
  case unsubscribe =>
    intro l t
    rw [← h.registered]
    exact under _
  case send =>
    intro message
    rw [← count_eq_length_names]
    exact under _

/-- Whatever is done with a bus among handlers that leave it alone: it is as its history tells,
scripts are told so, what is done for one topic does not matter to another, and a message is
delivered to each listener for its topic once, in their order. -/
theorem follows_history {bus : Nat} (new : s.buses.get bus = {}) {turns : History σ}
    (spares : turns.Spares run bus) :
    let t := ((spend run bus turns).run s).2
    let b := t.buses.get bus
    b.Follows turns ∧
    (∀ name, t.names.buses.find? name = some ⟨bus, true⟩ → Answers run name bus turns t) ∧
    (∀ (turn : Turn σ) topic, turn.touches topic = false →
      (((turn.perform run bus).run t).2.buses.get bus).listening topic = b.listening topic) ∧
    ∀ message : Message, (Site.send run bus message).run t = ((b.names message.topic).length,
      ((notifyAll run (b.listening message.topic) message).run t).2) := by
  intro t b
  have h : b.Follows turns := follows_spend new spares
  refine ⟨h, fun name named => h.answers named, fun turn topic aside => ?_, fun message => ?_⟩
  · rw [h.get_perform spares turn]
    exact Turn.listening_onBus aside
  · rw [← count_eq_length_names]
    rfl

/-- Who subscribes again keeps its place, who comes back is the last, and each hears with the
handler that it gave last. -/
theorem follows_history_of_return :
    let tell (tag : String) : Handler Unit := .script ⟨tag, 0, 0, ()⟩
    let turns : History Unit := [.subscribe "a" .sessionStop (tell "a"),
      .subscribe "b" .sessionStop (tell "b"), .subscribe "c" .sessionStop (tell "c"),
      .subscribe "a" .sessionStop (tell "again"), .unsubscribe "b" .sessionStop,
      .subscribe "b" .sessionStop (tell "back")]
    let run : Unit → Action Unit Unit := fun _ => return ()
    let site : Site Unit := { names := { buses := SortedMap.empty.insert "bus" ⟨0, true⟩ } }
    let message : Message := ⟨.sessionStop, .authentication ⟨[⟨"accounts", "alice"⟩]⟩⟩
    let t := ((spend run 0 turns).run site).2
    site.buses.get 0 = {} ∧ turns.Spares run 0 ∧
      ((BusStep.perform run "bus" (.isSubscribed "b" .sessionStop)).run t).1 = .flag true ∧
      ((Site.send run 0 message).run t).1 = 3 ∧
      ((Site.send run 0 message).run t).2.trace =
        [.delivered "again" message, .delivered "c" message, .delivered "back" message] := by
  intro tell turns run site message t
  have new : site.buses.get 0 = {} := rfl
  have spares : turns.Spares run 0 := fun _ _ handler _ =>
    Handler.sparesBus_of_run (fun _ _ => rfl) handler
  obtain ⟨-, answers, -, sent⟩ := follows_history new spares
  refine ⟨new, spares, ?_, ?_, ?_⟩
  · have named : t.names.buses.find? "bus" = some ⟨0, true⟩ := SortedMap.find?_insert
    rw [(answers "bus" named).isSubscribed "b" .sessionStop]
    rfl
  · rw [sent message]
    decide +kernel
  · rw [sent message]
    decide +kernel

end Bus

end Gatehouse
