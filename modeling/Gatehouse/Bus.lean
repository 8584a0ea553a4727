import Gatehouse.Event.Topic
import Gatehouse.Text.Quoted

/-!
# Event buses

A bus keeps, for each topic, the listeners registered for it in the order in which they came. A
listener is known by name: to subscribe it again for a topic replaces its handler in its place.
-/

namespace Gatehouse

structure Registration (η : Type) where
  topic : Topic
  listener : String
  handler : η

namespace Registration

/-- The registration is that of a listener for a topic. -/
def belongs (r : Registration η) (listener : String) (topic : Topic) : Bool :=
  r.topic = topic && r.listener = listener

end Registration

/-- How a listener is shown. -/
def describeListener (name : String) : String :=
  "Listener \x7b id: ListenerId(" ++ Text.quote name ++ "), .. \x7d"

structure Bus (η : Type) where
  registrations : List (Registration η) := []

namespace Bus

instance : Inhabited (Bus η) := ⟨{}⟩

/-- The registrations for a topic, in order. -/
def listening (b : Bus η) (topic : Topic) : List (Registration η) :=
  b.registrations.filter (·.topic = topic)

def count (b : Bus η) (topic : Topic) : Nat := (b.listening topic).length

def isSubscribed (b : Bus η) (listener : String) (topic : Topic) : Bool :=
  b.registrations.any (·.belongs listener topic)

/-- Puts a registration in the place of the one of its listener and topic, or at the end. -/
def register (r : Registration η) : List (Registration η) → List (Registration η)
  | [] => [r]
  | s :: rest => if s.belongs r.listener r.topic then r :: rest else s :: register r rest

def subscribe (b : Bus η) (listener : String) (topic : Topic) (handler : η) : Bus η :=
  ⟨register { topic, listener, handler } b.registrations⟩

def unsubscribe (b : Bus η) (listener : String) (topic : Topic) : Bus η :=
  ⟨b.registrations.filter fun r => !r.belongs listener topic⟩

theorem any_belongs_register {r : Registration η} {l : List (Registration η)} {listener : String}
    {topic : Topic} :
    (register r l).any (·.belongs listener topic) =
      (r.belongs listener topic || l.any (·.belongs listener topic)) := by
  induction l with
  | nil => simp [register]
  | cons s rest ih =>
    simp only [register]
    split
    next same =>
      have : s.belongs listener topic = r.belongs listener topic := by
        simp only [Registration.belongs, Bool.and_eq_true, decide_eq_true_eq] at same ⊢
        rw [same.1, same.2]
      simp [this]
    next => simp [ih, Bool.or_left_comm]

theorem filter_topic_register {r : Registration η} {l : List (Registration η)} {topic : Topic}
    (other : r.topic ≠ topic) :
    (register r l).filter (·.topic = topic) = l.filter (·.topic = topic) := by
  induction l with
  | nil => simp [register, other]
  | cons s rest ih =>
    simp only [register]
    split
    next same =>
      have : s.topic = r.topic := by simp_all [Registration.belongs]
      simp [this, other]
    next => simp only [List.filter_cons, ih]

theorem isSubscribed_subscribe {b : Bus η} {l m : String} {t u : Topic} {handler : η} :
    (b.subscribe l t handler).isSubscribed m u = ((t = u && l = m) || b.isSubscribed m u) :=
  any_belongs_register

theorem listening_subscribe_of_ne {b : Bus η} {l : String} {t u : Topic} {handler : η}
    (other : t ≠ u) : (b.subscribe l t handler).listening u = b.listening u :=
  filter_topic_register other

theorem listening_unsubscribe {b : Bus η} {l : String} {t u : Topic} :
    (b.unsubscribe l t).listening u =
      (b.listening u).filter fun r => !r.belongs l t := by
  simp only [listening, unsubscribe, List.filter_filter, Bool.and_comm]

theorem isSubscribed_unsubscribe {b : Bus η} {l m : String} {t u : Topic} :
    (b.unsubscribe l t).isSubscribed m u = (!(t = u && l = m) && b.isSubscribed m u) := by
  have own (r : Registration η) : (!r.belongs l t && r.belongs m u) =
      (!(t = u && l = m) && r.belongs m u) := by
    by_cases same : r.topic = u ∧ r.listener = m
    · simp [Registration.belongs, same.1, same.2, eq_comm (a := t), eq_comm (a := l)]
    · have : r.belongs m u = false := by simpa [Registration.belongs] using same
      simp [this]
  simp only [isSubscribed, unsubscribe, List.any_filter, own, List.and_any_distrib_left]

/-- The number of listeners for each topic that has some, where that is one topic at most. -/
def describe? (b : Bus η) : Option String :=
  match Topic.all.filter (b.count · ≠ 0) with
  | [] => some "\x7b\x7d"
  | [topic] =>
    some ("\x7b" ++ Text.quote topic.name ++ ": " ++ toString (b.count topic) ++ "\x7d")
  | _ => none

end Bus

end Gatehouse
