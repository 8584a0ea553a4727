import Gatehouse.Proofs.Authorizer.Joining
import Gatehouse.Proofs.Site.Running
import Gatehouse.Site.Authorizer

/-!
# Rounds of questions

An authorizer asks its realms in a round, publishes what was decided, and gives its answer. A round is
told by the realms that were asked and what they said (`Answered`); it is over when all of them have
answered, or when one fails. What a check publishes and answers can be told from the joint verdicts
alone (`Inquiry.due`, `Inquiry.answer`), in whichever way it was made.
-/

namespace Gatehouse

open Site

variable {σ ι α : Type} {run : σ → Action σ Unit} {s t u : Site σ}

/-! ## Asking realms -/

/-- These realms are asked one after the other, each on the site as the one before has left it, and
give these verdicts. -/
inductive Answered [Requestable ι] (run : σ → Action σ Unit) (identity : Identity) (items : List ι) :
    Site σ → List (Realm × Verdicts ι) → Site σ → Prop
  | nil {s : Site σ} : Answered run identity items s [] s
  | cons {s t u : Site σ} {realm : Realm} {verdicts : Verdicts ι}
      {replies : List (Realm × Verdicts ι)}
      (asked : (realm.ask run identity items).run.run s = (.ok verdicts, t))
      (after : Answered run identity items t replies u) :
      Answered run identity items s ((realm, verdicts) :: replies) u

/-- All realms of the authorizer are asked, one at least, and give these verdicts. -/
structure Authorizer.Polled [Requestable ι] (run : σ → Action σ Unit) (a : Authorizer)
    (identity : Identity) (items : List ι) (s : Site σ) (replies : List (Realm × Verdicts ι))
    (t : Site σ) : Prop where
  configured : a.realms ≠ []
  all : replies.map Prod.fst = a.realms
  answered : Answered run identity items s replies t

/-- The site once a realm that fails has been warned of. -/
def Site.warnedOf (s : Site σ) (realm : Realm) (error : AccessError) : Site σ :=
  { s with trace := s.trace ++ [.warned (.realmFailed realm.label error)] }

namespace Authorizer

section FanOut

variable [Requestable ι] {identity : Identity} {items : List ι} {replies : List (Realm × Verdicts ι)}
  {realm : Realm} {error : AccessError}

theorem run_reporting_of_ok {verdicts : Verdicts ι}
    (asked : (realm.ask run identity items).run.run s = (.ok verdicts, t)) :
    (reporting realm (realm.ask run identity items)).run.run s = (.ok verdicts, t) :=
  Check.run_tryCatch_of_ok asked

theorem run_reporting_of_error
    (asked : (realm.ask run identity items).run.run s = (.error error, t)) :
    (reporting realm (realm.ask run identity items)).run.run s =
      (.error error, t.warnedOf realm error) :=
  Check.run_tryCatch_of_error asked

/-- Realms that all answer. -/
theorem run_mapM_of_answered (answered : Answered run identity items s replies t) :
    ((replies.map Prod.fst).mapM fun realm =>
        reporting realm (realm.ask run identity items)).run.run s =
      (.ok (replies.map Prod.snd), t) := by
  induction answered with
  | nil => rfl
  | cons asked after ih =>
    rw [List.map_cons, List.mapM_cons, Check.run_bind_of_ok (run_reporting_of_ok asked),
      Check.run_bind_of_ok ih]
    rfl

/-- Realms of which one fails. Those that come after it do not matter. -/
theorem run_mapM_of_failed (answered : Answered run identity items s replies t)
    (failing : (realm.ask run identity items).run.run t = (.error error, u)) (rest : List Realm) :
    ((replies.map Prod.fst ++ realm :: rest).mapM fun realm =>
        reporting realm (realm.ask run identity items)).run.run s =
      (.error error, u.warnedOf realm error) := by
  induction answered with
  | nil =>
    rw [List.map_nil, List.nil_append, List.mapM_cons]
    exact Check.run_bind_of_error (run_reporting_of_error failing)
  | cons asked after ih =>
    rw [List.map_cons, List.cons_append, List.mapM_cons,
      Check.run_bind_of_ok (run_reporting_of_ok asked)]
    exact Check.run_bind_of_error (ih failing)

/-- Either all realms answer, or there is a first one that fails. -/
theorem answered_or_failed (run : σ → Action σ Unit) (identity : Identity) (items : List ι)
    (realms : List Realm) (s : Site σ) :
    (∃ replies t, replies.map Prod.fst = realms ∧ Answered run identity items s replies t) ∨
      ∃ replies realm rest t error u, realms = replies.map Prod.fst ++ realm :: rest ∧
        Answered run identity items s replies t ∧
        (realm.ask run identity items).run.run t = (.error error, u) := by
  induction realms generalizing s with
  | nil => exact .inl ⟨[], s, rfl, .nil⟩
  | cons realm rest ih =>
    rcases asked : (realm.ask run identity items).run.run s with ⟨error | verdicts, t⟩
    · exact .inr ⟨[], realm, rest, s, error, t, rfl, .nil, asked⟩
    · rcases ih t with ⟨replies, u, rfl, answered⟩ | ⟨replies, failing, more, u, error, v, rfl,
        answered, failed⟩
      · exact .inl ⟨(realm, verdicts) :: replies, u, rfl, .cons asked answered⟩
      · exact .inr ⟨(realm, verdicts) :: replies, failing, more, u, error, v, rfl,
          .cons asked answered, failed⟩

variable [DecidableEq ι] {a : Authorizer}

theorem run_consult_of_unconfigured (unconfigured : a.realms = []) :
    (a.consult run identity items).run.run s = (.error .realmsNotConfigured, s) := by
  rw [consult, assertRealms, unconfigured]
  rfl

theorem assertRealms_of_configured (configured : a.realms ≠ []) : a.assertRealms = .ok a.realms := by
  rw [assertRealms, if_neg (by simpa using configured)]

/-- The joint verdicts are told by what came of the realms. -/
theorem run_consult_of_configured (configured : a.realms ≠ [])
    {found : Except AccessError (List (Verdicts ι))}
    (asked : (a.realms.mapM fun realm =>
      reporting realm (realm.ask run identity items)).run.run s = (found, t)) :
    (a.consult run identity items).run.run s =
      (found.map fun verdicts => Verdicts.join verdicts.flatten, t) := by
  have fanned : (fanOut run a.realms identity items).run.run s = (found.map List.flatten, t) := by
    cases found with
    | error e => exact Check.run_bind_of_error asked
    | ok verdicts => exact Check.run_bind_of_ok asked
  rw [consult, assertRealms_of_configured configured]
  refine (Check.run_bind_of_ok rfl).trans ?_
  cases found with
  | error e => exact Check.run_bind_of_error fanned
  | ok verdicts => exact Check.run_bind_of_ok fanned

theorem run_consult_of_polled (polled : a.Polled run identity items s replies t) :
    (a.consult run identity items).run.run s =
      (.ok (Verdicts.join (replies.map Prod.snd).flatten), t) := by
  have asked := run_mapM_of_answered polled.answered
  rw [polled.all] at asked
  exact run_consult_of_configured polled.configured asked

theorem run_consult_of_failed {rest : List Realm}
    (order : a.realms = replies.map Prod.fst ++ realm :: rest)
    (answered : Answered run identity items s replies t)
    (failing : (realm.ask run identity items).run.run t = (.error error, u)) :
    (a.consult run identity items).run.run s = (.error error, u.warnedOf realm error) := by
  have asked := run_mapM_of_failed answered failing rest
  rw [← order] at asked
  exact run_consult_of_configured (by simp [order]) asked

end FanOut

/-! ## Publishing -/

/-- Publishes messages one after the other. -/
def publishAll (run : σ → Action σ Unit) (bus : Nat) (messages : List Message) : Action σ Unit :=
  messages.forM fun message => do let _ ← send run bus message

section Publishing

variable {a : Authorizer} {bus : Nat}

theorem run_publish_of_bus (set : a.bus? = some bus) (topic : Topic)
    (notice : AuthorizationNotice) :
    (a.publish run topic notice).run.run s =
      let sent := (send run bus ⟨topic, .authorization notice⟩).run s
      (.ok sent.1, sent.2) := by
  rw [publish, assertBus, set]
  rfl

theorem run_publish_of_none (unset : a.bus? = none) (topic : Topic) (notice : AuthorizationNotice) :
    (a.publish run topic notice).run.run s = (.error .eventBusNotConfigured, s) := by
  rw [publish, assertBus, unset]
  rfl

/-- What is told of a verdict for itself. -/
def resultNotice [Requestable ι] (identity : Identity) (verdict : ι × Bool) : AuthorizationNotice :=
  { identity, items := [{ name := Requestable.text verdict.1, granted? := some verdict.2 }] }

def resultMessage [Requestable ι] (identity : Identity) (verdict : ι × Bool) : Message :=
  ⟨.authorizationResults, .authorization (resultNotice identity verdict)⟩

variable [Requestable ι] {identity : Identity} {results : Verdicts ι}

theorem run_publishResults_of_bus (set : a.bus? = some bus) :
    (a.publishResults run identity results).run.run s =
      (.ok (), ((publishAll run bus (results.map (resultMessage identity))).run s).2) := by
  induction results generalizing s with
  | nil => rfl
  | cons verdict results ih =>
    have first : (do
        let _ ← a.publish run .authorizationResults (resultNotice identity verdict) :
          Check σ Unit).run.run s =
        (.ok (), ((send run bus (resultMessage identity verdict)).run s).2) :=
      Check.run_bind_of_ok (run_publish_of_bus set _ _)
    rw [List.map_cons, publishAll, Action.run_forM_cons, publishResults]
    exact (Check.run_bind_of_ok first).trans ih

/-- Without a bus the first verdict ends the publishing. -/
theorem run_publishResults_of_none (unset : a.bus? = none) :
    (a.publishResults run identity results).run.run s =
      (if results = [] then .ok () else .error .eventBusNotConfigured, s) := by
  cases results with
  | nil => rfl
  | cons verdict results =>
    have first : (do
        let _ ← a.publish run .authorizationResults (resultNotice identity verdict) :
          Check σ Unit).run.run s = (.error .eventBusNotConfigured, s) :=
      Check.run_bind_of_error (run_publish_of_none unset _ _)
    rw [publishResults, if_neg (List.cons_ne_nil _ _)]
    exact Check.run_bind_of_error first

end Publishing

end Authorizer

/-! ## Inquiries -/

/-- A way to make a check, by what it answers. -/
inductive Inquiry (ι : Type) : Type → Type 1 where
  | verdicts (logResults : Bool) : Inquiry ι (Verdicts ι)
  | combined (operator : Operator) : Inquiry ι Bool
  | check (operator : Operator) : Inquiry ι Unit

namespace Inquiry

variable [Requestable ι]

/-- Makes the check. -/
def perform [DecidableEq ι] (run : σ → Action σ Unit) (a : Authorizer) (identity : Identity)
    (items : List ι) : Inquiry ι α → Check σ α
  | verdicts logResults => a.verdicts run identity items logResults
  | combined operator => a.combined run identity items operator
  | check operator => a.check run identity items operator

/-- The items as they are requested, under the topic of the combined verdict. -/
def combinedMessage (identity : Identity) (items : List ι) (operator : Operator)
    (results : Verdicts ι) : Message where
  topic :=
    if operator.apply (results.map Prod.snd) then .authorizationGranted else .authorizationDenied
  payload := .authorization
    { identity
      items := items.map fun item => { name := Requestable.text item }
      operator? := some operator }

/-- The events that are due once the joint verdicts are known. -/
def due (identity : Identity) (items : List ι) (results : Verdicts ι) :
    Inquiry ι α → List Message
  | verdicts true => results.map (Authorizer.resultMessage identity)
  | verdicts false => []
  | combined operator | check operator => [combinedMessage identity items operator results]

/-- What is answered once the joint verdicts are known. -/
def answer (identity : Identity) (items : List ι) (results : Verdicts ι) :
    Inquiry ι α → Except AccessError α
  | verdicts _ => .ok results
  | combined operator => .ok (operator.apply (results.map Prod.snd))
  | check operator =>
    if operator.apply (results.map Prod.snd) then .ok ()
    else .error (.unauthorized
      { identity, kind := Requestable.kind ι, items := items.map Requestable.text, operator })

variable [DecidableEq ι] {a : Authorizer} {identity : Identity} {items : List ι}
  {results : Verdicts ι} {error : AccessError}

/-- Without joint verdicts nothing else is done. -/
theorem run_perform_of_error (inquiry : Inquiry ι α)
    (failed : (a.consult run identity items).run.run s = (.error error, t)) :
    (inquiry.perform run a identity items).run.run s = (.error error, t) := by
  have combined (operator : Operator) :
      (a.combined run identity items operator).run.run s = (.error error, t) :=
    Check.run_bind_of_error failed
  cases inquiry with
  | verdicts logResults => exact Check.run_bind_of_error failed
  | combined operator => exact combined operator
  | check operator => exact Check.run_bind_of_error (combined operator)

theorem run_perform_of_bus (inquiry : Inquiry ι α) {bus : Nat} (set : a.bus? = some bus)
    (consulted : (a.consult run identity items).run.run s = (.ok results, t)) :
    (inquiry.perform run a identity items).run.run s =
      (inquiry.answer identity items results,
        ((Authorizer.publishAll run bus (inquiry.due identity items results)).run t).2) := by
  have combined (operator : Operator) : (a.combined run identity items operator).run.run s =
      (.ok (operator.apply (results.map Prod.snd)),
        ((send run bus (combinedMessage identity items operator results)).run t).2) :=
    (Check.run_bind_of_ok consulted).trans
      (Check.run_bind_of_ok (Authorizer.run_publish_of_bus set _ _))
  cases inquiry with
  | verdicts logResults =>
    refine (Check.run_bind_of_ok consulted).trans ?_
    cases logResults with
    | false => rfl
    | true => exact Check.run_bind_of_ok (Authorizer.run_publishResults_of_bus set)
  | combined operator => exact combined operator
  | check operator =>
    refine (Check.run_bind_of_ok (combined operator)).trans ?_
    rw [answer]
    split <;> rfl

/-- Without a bus a check fails if there is anything to publish. -/
theorem run_perform_of_none (inquiry : Inquiry ι α) (unset : a.bus? = none)
    (consulted : (a.consult run identity items).run.run s = (.ok results, t)) :
    (inquiry.perform run a identity items).run.run s =
      (if inquiry.due identity items results = [] then inquiry.answer identity items results
        else .error .eventBusNotConfigured, t) := by
  have combined (operator : Operator) : (a.combined run identity items operator).run.run s =
      (.error .eventBusNotConfigured, t) :=
    (Check.run_bind_of_ok consulted).trans
      (Check.run_bind_of_error (Authorizer.run_publish_of_none unset _ _))
  cases inquiry with
  | verdicts logResults =>
    refine (Check.run_bind_of_ok consulted).trans ?_
    cases logResults with
    | false => rfl
    | true =>
      have published : (a.publishResults run identity results).run.run t = _ :=
        Authorizer.run_publishResults_of_none unset
      cases results with
      | nil => rfl
      | cons verdict results => exact Check.run_bind_of_error published
  | combined operator => exact combined operator
  | check operator => exact Check.run_bind_of_error (combined operator)

end Inquiry

end Gatehouse
