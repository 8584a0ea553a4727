import Gatehouse.Proofs.Bus.Standing

/-!
# Handlers that use the buses

While a message is delivered to it, a handler may subscribe and unsubscribe listeners and send other
messages, on the same bus or on another one. A `Reaction` is what a handler does in that way, with
anything else on the site in between. A run of it is recounted as a list of acts, in which a
message that was sent stands with all that was done until it was delivered.

`Bus.notifies_those_present` reads off such an account who is notified of each message and what
becomes of the buses: a message reaches those who are registered when it is sent, whatever their
handlers do in the meantime, and all that they do to the buses counts from then on.
-/

namespace Gatehouse

open Site Bus

variable {σ : Type}

/-! ## Reactions -/

/-- What a handler does, one thing after the other. -/
inductive Reaction (σ : Type) where
  | done
  | subscribe (bus : Nat) (listener : String) (topic : Topic) (handler : Handler σ)
      (next : Reaction σ)
  /-- What comes next may depend on whether the listener was subscribed. -/
  | unsubscribe (bus : Nat) (listener : String) (topic : Topic) (next : Bool → Reaction σ)
  /-- What comes next may depend on the number of listeners. -/
  | send (bus : Nat) (message : Message) (next : Nat → Reaction σ)
  /-- Anything but the buses is changed. What comes next may depend on the whole site, the record of
  the message that was delivered included. -/
  | meanwhile (change : Site σ → Site σ)
      (spares : ∀ s bus, (change s).buses.get bus = s.buses.get bus) (next : Site σ → Reaction σ)

namespace Reaction

/-- Does it, where `run` is what the scripts do that are started by its messages. -/
def perform (run : σ → Action σ Unit) : Reaction σ → Action σ Unit
  | done => return ()
  | subscribe bus listener topic handler next => do
    changeBus bus (·.subscribe listener topic handler)
    next.perform run
  | unsubscribe bus listener topic next => do
    let before := (← get).buses.get bus
    changeBus bus (·.unsubscribe listener topic)
    (next (before.isSubscribed listener topic)).perform run
  | send bus message next => do
    let count ← Site.send run bus message
    (next count).perform run
  | meanwhile change _ next => do
    modify change
    let s ← get
    (next s).perform run

/-- Runs scripts that stand for reactions. Messages are sent within messages up to a depth; every
sending that ends is that of some depth. -/
def run (code : σ → Reaction σ) : Nat → σ → Action σ Unit
  | 0, _ => return ()
  | depth + 1, script => (code script).perform (run code depth)

end Reaction

/-! ## Accounts -/

/-- Something that is done while a message is delivered. -/
inductive Act (σ : Type) where
  /-- Somebody was subscribed or unsubscribed. -/
  | turned (bus : Nat) (turn : Turn σ)
  | notified (target : Registration (Handler σ))
  /-- A message was sent, and until the sending gave the number of listeners all this was done. -/
  | sent (bus : Nat) (message : Message) (inner : List (Act σ)) (count : Nat)

namespace Act

mutual

/-- What an act did to a bus. -/
def turns (bus : Nat) : Act σ → History σ
  | turned other turn => if other = bus then [turn] else []
  | notified _ => []
  | sent _ _ inner _ => turnsOn bus inner

/-- What was done to a bus, in order, in messages within messages too. -/
def turnsOn (bus : Nat) : List (Act σ) → History σ
  | [] => []
  | act :: rest => act.turns bus ++ turnsOn bus rest

end

def target? : Act σ → Option (Registration (Handler σ))
  | notified target => some target
  | turned .. | sent .. => none

/-- Who was notified, in order, of the message with which these acts stand. -/
def targets (acts : List (Act σ)) : List (Registration (Handler σ)) := acts.filterMap target?

/-- The act is among these, after all that stands before. It may be done within a message, and then
what was done before it in that message stands before too. -/
inductive Occurs (act : Act σ) : List (Act σ) → List (Act σ) → Prop where
  | here {rest} : Occurs act [] (act :: rest)
  | inside {before bus message inner count rest} (within : Occurs act before inner) :
      Occurs act before (sent bus message inner count :: rest)
  | later {before first rest} (after : Occurs act before rest) :
      Occurs act (first :: before) (first :: rest)

theorem turnsOn_append {bus : Nat} {first last : List (Act σ)} :
    turnsOn bus (first ++ last) = turnsOn bus first ++ turnsOn bus last := by
  induction first with
  | nil => rfl
  | cons act first ih => rw [List.cons_append, turnsOn, turnsOn, ih, List.append_assoc]

theorem targets_append {first last : List (Act σ)} :
    targets (first ++ last) = targets first ++ targets last := List.filterMap_append

/-- What occurs in acts that follow others is among the first, or comes after all of them. -/
theorem occurs_append {act : Act σ} {before first last : List (Act σ)}
    (h : Occurs act before (first ++ last)) :
    Occurs act before first ∨ ∃ late, before = first ++ late ∧ Occurs act late last := by
  induction first generalizing before with
  | nil => exact .inr ⟨before, rfl, h⟩
  | cons other first ih =>
    cases h with
    | here => exact .inl .here
    | inside within => exact .inl (.inside within)
    | later after =>
      rcases ih after with among | ⟨late, rfl, beyond⟩
      · exact .inl (.later among)
      · exact .inr ⟨late, rfl, beyond⟩

end Act

open Act

/-- What a history makes of a bus. -/
def Bus.History.onBus (turns : History σ) (b : Bus (Handler σ)) : Bus (Handler σ) :=
  turns.foldl (fun b turn => turn.onBus b) b

theorem Bus.History.onBus_append {first last : History σ} {b : Bus (Handler σ)} :
    History.onBus (first ++ last) b = last.onBus (first.onBus b) := List.foldl_append

/-- The acts are a true account of what was done to the buses between two sites, and each message
among them went to those who were registered when it was sent. -/
structure Recounts (acts : List (Act σ)) (s t : Site σ) : Prop where
  kept (bus : Nat) : t.buses.get bus = (turnsOn bus acts).onBus (s.buses.get bus)
  present {bus message inner count before}
      (sent : Occurs (.sent bus message inner count) before acts) :
    targets inner = ((turnsOn bus before).onBus (s.buses.get bus)).listening message.topic ∧
      count = (targets inner).length

namespace Recounts

variable {s t u : Site σ} {acts : List (Act σ)}

theorem idle (same : ∀ bus, t.buses.get bus = s.buses.get bus) : Recounts [] s t where
  kept := same
  present := nofun

theorem append {first last : List (Act σ)} (h : Recounts first s t) (after : Recounts last t u) :
    Recounts (first ++ last) s u where
  kept bus := by rw [turnsOn_append, History.onBus_append, after.kept, h.kept]
  present sent := by
    rcases occurs_append sent with among | ⟨late, rfl, beyond⟩
    · exact h.present among
    · rw [turnsOn_append, History.onBus_append, ← h.kept]
      exact after.present beyond

theorem notified (target : Registration (Handler σ)) : Recounts [.notified target] s s where
  kept _ := rfl
  present sent := by cases sent with | later after => cases after

theorem turned (bus : Nat) (turn : Turn σ) :
    Recounts [.turned bus turn] s { s with buses := s.buses.update bus turn.onBus } where
  kept other := by
    change (s.buses.update bus turn.onBus).get other = _
    rw [Arena.get_update, turnsOn, turns]
    split
    next same =>
      subst same
      rw [if_pos rfl]
      rfl
    next other =>
      rw [if_neg (Ne.symm other)]
      rfl
  present sent := by cases sent with | later after => cases after

/-- A message that was delivered to those who were registered. -/
theorem sent {inner : List (Act σ)} (h : Recounts inner s t) {bus : Nat} {message : Message}
    (told : targets inner = (s.buses.get bus).listening message.topic) :
    Recounts [.sent bus message inner (targets inner).length] s t where
  kept other := by
    rw [turnsOn, turns, turnsOn, List.append_nil]
    exact h.kept other
  present occurs := by
    cases occurs with
    | here => exact ⟨told, rfl⟩
    | inside within => exact h.present within
    | later after => cases after

end Recounts

/-! ## Runs that give account -/

/-- What is done from a site on, and where that leads. -/
abbrev Recount (σ : Type) := Site σ → List (Act σ) × Site σ

/-- The delivery to a script is noted before the script does anything. -/
def Script.noted (script : Script σ) (message : Message) (s : Site σ) : Site σ :=
  { s with
    trace := s.trace ++ [.delivered script.tag message]
    deliveries := s.deliveries.set script.counter (s.deliveries.get script.counter + 1) }

/-- Notifies a script, and tells what it does. -/
def Script.recount (run : σ → Recount σ) (script : Script σ) (message : Message) : Recount σ :=
  fun s =>
    if s.deliveries.get script.counter < script.times
    then run script.actions (script.noted message s) else ([], script.noted message s)

def Handler.recount (run : σ → Recount σ) (handler : Handler σ) (message : Message) : Recount σ :=
  match handler with
  | clear listener realms => fun s => ([], ((listener.notify realms message).run s).2)
  | script s => s.recount run message

/-- Notifies listeners one after the other, and tells what each of them does. -/
def Site.recountAll (run : σ → Recount σ) (message : Message) :
    List (Registration (Handler σ)) → Recount σ
  | [], s => ([], s)
  | target :: rest, s =>
    let first := target.handler.recount run message s
    let others := recountAll run message rest first.2
    (.notified target :: first.1 ++ others.1, others.2)

/-- A delivery, with the number that it gives. -/
structure Delivery (σ : Type) where
  acts : List (Act σ)
  count : Nat
  site : Site σ

/-- Delivers a message, and tells what is done in the meantime. -/
def Site.recountSend (run : σ → Recount σ) (bus : Nat) (message : Message) (s : Site σ) :
    Delivery σ :=
  let targets := (s.buses.get bus).listening message.topic
  let told := recountAll run message targets s
  { acts := told.1, count := targets.length, site := told.2 }

namespace Reaction

def recount (run : σ → Recount σ) : Reaction σ → Recount σ
  | done, s => ([], s)
  | subscribe bus listener topic handler next, s =>
    let rest := next.recount run
      { s with buses := s.buses.update bus (·.subscribe listener topic handler) }
    (.turned bus (.subscribe listener topic handler) :: rest.1, rest.2)
  | unsubscribe bus listener topic next, s =>
    let rest := (next ((s.buses.get bus).isSubscribed listener topic)).recount run
      { s with buses := s.buses.update bus (·.unsubscribe listener topic) }
    (.turned bus (.unsubscribe listener topic) :: rest.1, rest.2)
  | send bus message next, s =>
    let told := recountSend run bus message s
    let rest := (next told.count).recount run told.site
    (.sent bus message told.acts told.count :: rest.1, rest.2)
  | meanwhile change _ next, s => (next (change s)).recount run (change s)

/-- Runs scripts as `Reaction.run` does, and tells what they do. -/
def recountRun (code : σ → Reaction σ) : Nat → σ → Recount σ
  | 0, _ => fun s => ([], s)
  | depth + 1, script => (code script).recount (recountRun code depth)

end Reaction

/-! ## The accounts are true -/

/-- The operation is recounted as it runs, and what is recounted is true. Of the message that the
operation answers to, nobody is notified by the operation itself. -/
structure Action.Told (x : Action σ Unit) (recount : Recount σ) : Prop where
  run (s : Site σ) : x.run s = ((), (recount s).2)
  recounts (s : Site σ) : Recounts (recount s).1 s (recount s).2
  targets (s : Site σ) : Act.targets (recount s).1 = []

variable {run : σ → Action σ Unit} {recount : σ → Recount σ}

/-- The listeners of authorizers leave the buses alone. -/
theorem CacheListener.buses_notify (listener : CacheListener) (realms : List Realm)
    (message : Message) (s : Site σ) :
    ((listener.notify realms message).run s).2.buses = s.buses := by
  let run : σ → Action σ Unit := fun _ => return ()
  have steady : Steady run fun t => t.buses = s.buses :=
    ⟨fun _ _ _ same kept => same.trans kept, fun _ _ _ kept => kept, fun _ _ kept => kept⟩
  exact steady.notify (.clear listener realms) message s rfl

theorem Script.run_notify (script : Script σ) (message : Message) (s : Site σ) :
    (script.notify run message).run s =
      (if s.deliveries.get script.counter < script.times then run script.actions
        else return ()).run (script.noted message s) := rfl

theorem Script.told (h : ∀ script, (run script).Told (recount script)) (script : Script σ)
    (message : Message) : (script.notify run message).Told (script.recount recount message) := by
  have same (s : Site σ) (bus : Nat) :
      (script.noted message s).buses.get bus = s.buses.get bus := rfl
  constructor <;> intro s
  case run =>
    rw [script.run_notify, Script.recount]
    split
    · exact (h script.actions).run _
    · rfl
  case recounts =>
    rw [Script.recount]
    split
    · exact (Recounts.idle (same s)).append ((h script.actions).recounts _)
    · exact .idle (same s)
  case targets =>
    rw [Script.recount]
    split
    · exact (h script.actions).targets _
    · rfl

theorem Handler.told (h : ∀ script, (run script).Told (recount script)) (handler : Handler σ)
    (message : Message) : (handler.notify run message).Told (handler.recount recount message) := by
  cases handler with
  | clear listener realms =>
    refine ⟨fun _ => rfl, fun s => .idle fun bus => ?_, fun _ => rfl⟩
    exact congrArg (·.get bus) (listener.buses_notify realms message s)
  | script script => exact script.told h message

namespace Site

theorem run_notifyAll (h : ∀ script, (run script).Told (recount script)) (message : Message)
    (listeners : List (Registration (Handler σ))) (s : Site σ) :
    (notifyAll run listeners message).run s = ((), (recountAll recount message listeners s).2) := by
  induction listeners generalizing s with
  | nil => rfl
  | cons target rest ih =>
    have first := (target.handler.told h message).run s
    rw [notifyAll, Action.run_forM_cons, first]
    exact ih _

theorem recounts_recountAll (h : ∀ script, (run script).Told (recount script)) (message : Message)
    (listeners : List (Registration (Handler σ))) (s : Site σ) :
    Recounts (recountAll recount message listeners s).1 s
      (recountAll recount message listeners s).2 := by
  induction listeners generalizing s with
  | nil => exact .idle fun _ => rfl
  | cons target rest ih =>
    have first := (target.handler.told h message).recounts s
    exact ((Recounts.notified target).append first).append (ih _)

/-- Each listener is notified, once and in order. -/
theorem targets_recountAll (h : ∀ script, (run script).Told (recount script)) (message : Message)
    (listeners : List (Registration (Handler σ))) (s : Site σ) :
    targets (recountAll recount message listeners s).1 = listeners := by
  induction listeners generalizing s with
  | nil => rfl
  | cons target rest ih =>
    have first := (target.handler.told h message).targets s
    rw [recountAll, targets_append, ih]
    change target :: targets _ ++ rest = _
    rw [first]
    rfl

theorem run_send (h : ∀ script, (run script).Told (recount script)) (bus : Nat)
    (message : Message) (s : Site σ) :
    (send run bus message).run s =
      ((recountSend recount bus message s).count, (recountSend recount bus message s).site) := by
  have sent : (send run bus message).run s = (((s.buses.get bus).listening message.topic).length,
      ((notifyAll run ((s.buses.get bus).listening message.topic) message).run s).2) := rfl
  rw [sent, run_notifyAll h]
  rfl

end Site

namespace Reaction

/-- A message in a reaction. -/
theorem recounts_sent (h : ∀ script, (run script).Told (recount script)) (bus : Nat)
    (message : Message) (s : Site σ) :
    let told := recountSend recount bus message s
    Recounts [.sent bus message told.acts told.count] s told.site := by
  intro told
  have notified : targets told.acts = (s.buses.get bus).listening message.topic :=
    targets_recountAll h message _ s
  have counted : told.count = (targets told.acts).length := by rw [notified]; rfl
  rw [counted]
  exact (recounts_recountAll h message _ s).sent notified

theorem told_perform (h : ∀ script, (run script).Told (recount script)) (reaction : Reaction σ) :
    (reaction.perform run).Told (reaction.recount recount) := by
  induction reaction with
  | done => exact ⟨fun _ => rfl, fun _ => .idle fun _ => rfl, fun _ => rfl⟩
  | subscribe bus listener topic handler next ih =>
    exact ⟨fun s => ih.run _, fun s => (Recounts.turned bus _).append (ih.recounts _),
      fun s => ih.targets _⟩
  | unsubscribe bus listener topic next ih =>
    refine ⟨fun s => ?_, fun s => ?_, fun s => ?_⟩
    · exact (ih ((s.buses.get bus).isSubscribed listener topic)).run _
    · exact (Recounts.turned bus _).append ((ih _).recounts _)
    · exact (ih _).targets _
  | send bus message next ih =>
    -- whom the message reaches is told within it, so that here nobody is notified
    refine ⟨fun s => ?_, fun s => ?_, fun s => ?_⟩
    · have sent := run_send h bus message s
      rw [perform, StateT.run_bind, sent]
      exact (ih _).run _
    · exact (recounts_sent h bus message s).append ((ih _).recounts _)
    · exact (ih _).targets _
  | meanwhile change spares next ih =>
    refine ⟨fun s => ?_, fun s => ?_, fun s => ?_⟩
    · exact (ih (change s)).run (change s)
    · exact (Recounts.idle (spares s)).append ((ih _).recounts _)
    · exact (ih _).targets _

theorem told_run (code : σ → Reaction σ) (depth : Nat) (script : σ) :
    (Reaction.run code depth script).Told (recountRun code depth script) := by
  induction depth generalizing script with
  | zero => exact ⟨fun _ => rfl, fun _ => .idle fun _ => rfl, fun _ => rfl⟩
  | succ depth ih => exact told_perform ih (code script)

end Reaction

namespace Bus

/-- Whatever handlers do to the buses, a message is delivered to those who are registered for its
topic when it is sent, with the handlers that they have then, to each once and in their order, and
their number is given. All that handlers do to a bus in the meantime is kept, and a message that is
sent then finds the bus as it was left by all that was done before. -/
theorem notifies_those_present (code : σ → Reaction σ) (depth bus : Nat) (message : Message)
    (s : Site σ) :
    let told := recountSend (Reaction.recountRun code depth) bus message s
    (Site.send (Reaction.run code depth) bus message).run s = (told.count, told.site) ∧
    targets told.acts = (s.buses.get bus).listening message.topic ∧
    told.site = ((notifyAll (Reaction.run code depth) (targets told.acts) message).run s).2 ∧
    told.count = (targets told.acts).length ∧
    (∀ other, told.site.buses.get other = (turnsOn other told.acts).onBus (s.buses.get other)) ∧
    ∀ other note inner count before, Occurs (.sent other note inner count) before told.acts →
      targets inner =
        ((turnsOn other before).onBus (s.buses.get other)).listening note.topic ∧
      count = (targets inner).length := by
  intro told
  have h := Reaction.told_run code depth
  have recounts := Reaction.recounts_sent h bus message s
  obtain ⟨notified, counted⟩ := recounts.present .here
  have notified : targets told.acts = (s.buses.get bus).listening message.topic := notified
  refine ⟨run_send h bus message s, notified, ?_, counted, fun other => ?_, ?_⟩
  · rw [notified, run_notifyAll h]
    rfl
  · have kept := recounts.kept other
    rwa [turnsOn, turns, turnsOn, List.append_nil] at kept
  · intro other note inner count before sent
    exact recounts.present (.inside sent)

/-- The first listener sends the second one away, brings a third one and sends the message again.
The second one still hears of the first message, and the third one of the second message only. -/
theorem notifies_those_present_of_newcomer :
    let message : Message := ⟨.sessionStop, .authentication ⟨[⟨"accounts", "alice"⟩]⟩⟩
    let quiet (tag : String) : Handler Bool := .script ⟨tag, 1, 0, false⟩
    let code (busy : Bool) : Reaction Bool :=
      if busy then
        .unsubscribe 0 "second" .sessionStop fun _ =>
          .subscribe 0 "third" .sessionStop (quiet "third") (.send 0 message fun _ => .done)
      else .done
    let first : Registration (Handler Bool) :=
      ⟨.sessionStop, "first", .script ⟨"first", 0, 1, true⟩⟩
    let second : Registration (Handler Bool) := ⟨.sessionStop, "second", quiet "second"⟩
    let third : Registration (Handler Bool) := ⟨.sessionStop, "third", quiet "third"⟩
    let s : Site Bool := { buses := ({} : Arena (Bus (Handler Bool))).set 0 ⟨[first, second]⟩ }
    let told := recountSend (Reaction.recountRun code 2) 0 message s
    let before : List (Act Bool) := [.notified first,
      .turned 0 (.unsubscribe "second" .sessionStop),
      .turned 0 (.subscribe "third" .sessionStop third.handler)]
    let inner : List (Act Bool) := [.notified first, .notified third]
    Occurs (.sent 0 message inner 2) before told.acts ∧
      targets told.acts = [first, second] ∧ targets inner = [first, third] ∧
      ((Site.send (Reaction.run code 2) 0 message).run s).1 = 2 ∧
      ((Site.send (Reaction.run code 2) 0 message).run s).2.trace =
        ["first", "first", "third", "second"].map (.delivered · message) := by
  intro message quiet code first second third s told before inner
  obtain ⟨sent, notified, -, counted, -, nested⟩ := notifies_those_present code 2 0 message s
  have again : Occurs (.sent 0 message inner 2) before told.acts := .later (.later (.later .here))
  refine ⟨again, notified, (nested _ _ _ _ _ again).1, ?_, ?_⟩
  · rw [sent, counted, notified]
    rfl
  · rw [sent]
    decide +kernel

end Bus

end Gatehouse
