import Gatehouse.Proofs.Authorizer.Rounds

/-!
# Outcomes of checks

`Inquiry.Course` lists the courses that a check can take; that there are no others is
`Inquiry.fails_fast_and_publishes_what_is_due`. Where all realms answer, the outcome is told from
their answers by `Authorizer.joins_what_realms_grant`.
-/

namespace Gatehouse

open Site

variable {σ ι α : Type} {s t : Site σ}

/-! ## Courses -/

namespace Inquiry

variable [Requestable ι] [DecidableEq ι]

/-- The courses of a check that begins on a site, with what comes out and where they leave the
site. -/
inductive Course (run : σ → Action σ Unit) (a : Authorizer) (identity : Identity) (items : List ι)
    (inquiry : Inquiry ι α) (s : Site σ) : Except AccessError α → Site σ → Prop
  /-- Without realms nobody is asked and nothing is published. -/
  | unconfigured (unconfigured : a.realms = []) :
      Course run a identity items inquiry s (.error .realmsNotConfigured) s
  /-- A realm fails after those before it have answered. The others are not asked, and nothing is
  published. -/
  | failed {replies : List (Realm × Verdicts ι)} {realm : Realm} {rest : List Realm}
      {error : AccessError} {t u : Site σ}
      (order : a.realms = replies.map Prod.fst ++ realm :: rest)
      (answered : Answered run identity items s replies t)
      (failing : (realm.ask run identity items).run.run t = (.error error, u)) :
      Course run a identity items inquiry s (.error error) (u.warnedOf realm error)
  /-- All realms have answered, but there is no bus for what is due. -/
  | unpublished {replies : List (Realm × Verdicts ι)} {t : Site σ}
      (polled : a.Polled run identity items s replies t) (unset : a.bus? = none)
      (due : inquiry.due identity items (Verdicts.join (replies.map Prod.snd).flatten) ≠ []) :
      Course run a identity items inquiry s (.error .eventBusNotConfigured) t
  /-- All realms have answered, and it does not matter that there is no bus. -/
  | silent {replies : List (Realm × Verdicts ι)} {t : Site σ}
      (polled : a.Polled run identity items s replies t) (unset : a.bus? = none)
      (nothing : inquiry.due identity items (Verdicts.join (replies.map Prod.snd).flatten) = []) :
      Course run a identity items inquiry s
        (inquiry.answer identity items (Verdicts.join (replies.map Prod.snd).flatten)) t
  /-- All realms have answered, and exactly what is due has been published. -/
  | published {replies : List (Realm × Verdicts ι)} {t : Site σ} {bus : Nat}
      (polled : a.Polled run identity items s replies t) (set : a.bus? = some bus) :
      Course run a identity items inquiry s
        (inquiry.answer identity items (Verdicts.join (replies.map Prod.snd).flatten))
        ((Authorizer.publishAll run bus
          (inquiry.due identity items (Verdicts.join (replies.map Prod.snd).flatten))).run t).2

/-- Whatever the authorizer is and however its realms answer, a check fails without realms before
anything else is done, fails at the first realm that does and with its error, and publishes exactly
what is due once all realms have answered, which takes a bus. -/
theorem fails_fast_and_publishes_what_is_due (inquiry : Inquiry ι α) (run : σ → Action σ Unit)
    (a : Authorizer) (identity : Identity) (items : List ι) (s : Site σ) :
    Course run a identity items inquiry s
      ((inquiry.perform run a identity items).run.run s).1
      ((inquiry.perform run a identity items).run.run s).2 := by
  by_cases configured : a.realms = []
  · rw [inquiry.run_perform_of_error (Authorizer.run_consult_of_unconfigured configured)]
    exact .unconfigured configured
  rcases Authorizer.answered_or_failed run identity items a.realms s with
    ⟨replies, t, all, answered⟩ | ⟨replies, realm, rest, t, error, u, order, answered, failing⟩
  · have polled : a.Polled run identity items s replies t := ⟨configured, all, answered⟩
    have consulted := Authorizer.run_consult_of_polled polled
    cases bus : a.bus? with
    | some n =>
      rw [inquiry.run_perform_of_bus bus consulted]
      exact .published polled bus
    | none =>
      rw [inquiry.run_perform_of_none bus consulted]
      split
      next nothing => exact .silent polled bus nothing
      next due => exact .unpublished polled bus due
  · have stopped := Authorizer.run_consult_of_failed order answered failing
    rw [inquiry.run_perform_of_error stopped]
    exact .failed order answered failing

end Inquiry

/-! ## Answers of all realms -/

/-- It does not matter whether items are asked for repeatedly. -/
theorem Operator.apply_eraseDups_iff [DecidableEq ι] {operator : Operator} {grants : ι → Bool}
    {items : List ι} :
    operator.apply ((items.eraseDups.map fun item => (item, grants item)).map Prod.snd) ↔
      operator.Requires (grants ·) items := by
  rw [List.map_map, Operator.apply_map_iff]
  cases operator <;> simp [Operator.Requires, List.mem_eraseDups]

namespace Authorizer

variable [Requestable ι] [DecidableEq ι] {run : σ → Action σ Unit} {a : Authorizer}
  {identity : Identity} {items : List ι} {replies : List (Realm × Verdicts ι)}

/-- The verdicts item by item are the joint ones, unless they are to be published and cannot be. -/
theorem run_verdicts_of_polled (polled : a.Polled run identity items s replies t)
    (logResults : Bool) :
    let results := Verdicts.join (replies.map Prod.snd).flatten
    ((a.verdicts run identity items logResults).run.run s).1 =
      if logResults ∧ results ≠ [] ∧ a.bus? = none then .error .eventBusNotConfigured
      else .ok results := by
  intro results
  have consulted := run_consult_of_polled polled
  let inquiry : Inquiry ι (Verdicts ι) := .verdicts logResults
  cases bus : a.bus? with
  | some n =>
    have ran := inquiry.run_perform_of_bus bus consulted
    exact (congrArg Prod.fst ran).trans (by simp [inquiry, Inquiry.answer, results])
  | none =>
    have ran := inquiry.run_perform_of_none bus consulted
    refine (congrArg Prod.fst ran).trans ?_
    cases logResults with
    | false => simp [inquiry, Inquiry.due, Inquiry.answer, results]
    | true => simp [inquiry, Inquiry.due, Inquiry.answer, results]

/-- Some realm grants the item. -/
def GrantedBySome (replies : List (Realm × Verdicts ι)) (item : ι) : Prop :=
  ∃ reply ∈ replies, (item, true) ∈ reply.2

omit [Requestable ι] in
theorem any_grants_iff_grantedBySome {item : ι} :
    replies.any (·.2.grants item) ↔ GrantedBySome replies item := by
  simp only [List.any_eq_true, Verdicts.grants_iff, GrantedBySome]

/-- Where every realm gives one verdict on each requested item in order, there is a joint verdict on
each distinct one. -/
theorem join_of_honoured (polled : a.Polled run identity items s replies t)
    (honoured : ∀ reply ∈ replies, reply.2.map Prod.fst = items) :
    Verdicts.join (replies.map Prod.snd).flatten =
      items.eraseDups.map fun item => (item, replies.any (·.2.grants item)) := by
  have nonempty : replies.map Prod.snd ≠ [] := by
    intro none
    have configured := polled.configured
    rw [← polled.all, List.map_eq_nil_iff.1 none] at configured
    contradiction
  have same : ∀ answer ∈ replies.map Prod.snd, answer.map Prod.fst = items :=
    List.forall_mem_map.2 honoured
  rw [Verdicts.join_flatten nonempty same]
  simp only [List.any_map, Function.comp_def]

/-- The combined verdict is that of the operator on what some realm grants. -/
theorem apply_join_iff (polled : a.Polled run identity items s replies t)
    (honoured : ∀ reply ∈ replies, reply.2.map Prod.fst = items) (operator : Operator) :
    operator.apply ((Verdicts.join (replies.map Prod.snd).flatten).map Prod.snd) ↔
      operator.Requires (GrantedBySome replies) items := by
  rw [join_of_honoured polled honoured, Operator.apply_eraseDups_iff]
  simp only [any_grants_iff_grantedBySome]

/-- Where all realms answer, the verdicts item by item are one for each distinct item of their
answers, in order of first appearance, which grants it if any of them does; only what is to be
published takes a bus. Where moreover every realm gives one verdict on each requested item in order,
these are the distinct requested items, and the combined verdict is that of the operator on what some
realm grants. -/
theorem joins_what_realms_grant (polled : a.Polled run identity items s replies t) :
    let given : Verdicts ι := (replies.map Prod.snd).flatten
    ∃ results : Verdicts ι,
      (results.map Prod.fst = (given.map Prod.fst).eraseDups ∧ (results.map Prod.fst).Nodup ∧
        ∀ verdict ∈ results, verdict.2 ↔ (verdict.1, true) ∈ given) ∧
      (∀ logResults, ((a.verdicts run identity items logResults).run.run s).1 =
        if logResults ∧ results ≠ [] ∧ a.bus? = none then .error .eventBusNotConfigured
        else .ok results) ∧
      ((∀ reply ∈ replies, reply.2.map Prod.fst = items) →
        results.map Prod.fst = items.eraseDups ∧
        (∀ verdict ∈ results, verdict.2 ↔ GrantedBySome replies verdict.1) ∧
        ∀ bus, a.bus? = some bus → ∀ operator : Operator, ∃ granted : Bool,
          (granted ↔ operator.Requires (GrantedBySome replies) items) ∧
          ((a.combined run identity items operator).run.run s).1 = .ok granted ∧
          ((a.check run identity items operator).run.run s).1 =
            if granted then .ok ()
            else .error (.unauthorized
              { identity, kind := Requestable.kind ι, items := items.map Requestable.text,
                operator })) := by
  intro given
  have consulted := run_consult_of_polled polled
  have right (verdict : ι × Bool) (mem : verdict ∈ given.join) :
      verdict.2 ↔ (verdict.1, true) ∈ given := by
    rw [(Verdicts.mem_join_iff.1 mem).2, Verdicts.grants_iff]
  refine ⟨given.join, ⟨?_, given.nodup_join, right⟩, run_verdicts_of_polled polled,
    fun honoured => ⟨?_, fun verdict mem => ?_, fun bus set operator => ?_⟩⟩
  · rw [Verdicts.join_eq, List.map_map]
    exact List.map_id' _
  · rw [join_of_honoured polled honoured, List.map_map]
    exact List.map_id' _
  · rw [right verdict mem, GrantedBySome, List.mem_flatten]
    simp only [List.mem_map, exists_exists_and_eq_and]
  · refine ⟨_, apply_join_iff polled honoured operator, ?_, ?_⟩
    · exact congrArg Prod.fst ((Inquiry.combined operator).run_perform_of_bus set consulted)
    · exact congrArg Prod.fst ((Inquiry.check operator).run_perform_of_bus set consulted)

/-- Two realms of which one grants a role and neither the other. Under `all` the request is denied, with
its repetition. -/
theorem joins_what_realms_grant_of_editor :
    let alice : Identity := ⟨[⟨"accounts", "alice"⟩]⟩
    let items := ["editor", "viewer", "editor"]
    let refusals := Verdicts.constant false items
    let grants := [("editor", true), ("viewer", false), ("editor", false)]
    let first := Realm.outside (.fixed "first" false none false none none)
    let second := Realm.outside (.fixed "second" true none true none (some grants))
    let a : Authorizer := { realms? := some [first, second], bus? := some 0 }
    let run : Unit → Action Unit Unit := fun _ => return ()
    let replies := [(first, refusals), (second, grants)]
    let t : Site Unit := { trace := [.asked "first" .role, .asked "second" .role] }
    a.Polled run alice items {} replies t ∧ (∀ reply ∈ replies, reply.2.map Prod.fst = items) ∧
      ((a.check run alice items .all).run.run {}).1 =
        .error (.unauthorized ⟨alice, .role, ["editor", "viewer", "editor"], .all⟩) := by
  intro alice items refusals grants first second a run replies t
  have polled : a.Polled run alice items {} replies t :=
    ⟨List.cons_ne_nil _ _, rfl, .cons rfl (.cons rfl .nil)⟩
  have honoured : ∀ reply ∈ replies, reply.2.map Prod.fst = items := by
    simp [replies, refusals, grants, items, Verdicts.constant]
  refine ⟨polled, honoured, ?_⟩
  obtain ⟨results, -, -, joint⟩ := joins_what_realms_grant polled
  obtain ⟨granted, told, -, checked⟩ := (joint honoured).2.2 0 rfl .all
  have denied : ¬ GrantedBySome replies "viewer" := by
    simp [GrantedBySome, replies, refusals, grants, items, Verdicts.constant]
  rw [checked, if_neg fun h => denied (told.1 h "viewer" (by simp [items]))]
  rfl

/-- Item by item, a check that is to publish its verdicts fails without a bus, although the only realm
answers. -/
theorem verdicts_of_logging_without_bus :
    let alice : Identity := ⟨[⟨"accounts", "alice"⟩]⟩
    let granting := Realm.outside (.fixed "g" false none true none none)
    let a : Authorizer := { realms? := some [granting] }
    let run : Unit → Action Unit Unit := fun _ => return ()
    a.Polled run alice ["editor"] {} [(granting, [("editor", true)])]
        { trace := [.asked "g" .role] } ∧
      ((a.verdicts run alice ["editor"] true).run.run {}).1 ≠ .ok [("editor", true)] ∧
      ((a.verdicts run alice ["editor"] true).run.run {}).1 = .error .eventBusNotConfigured := by
  intro alice granting a run
  have failed : ((a.verdicts run alice ["editor"] true).run.run {}).1 =
      .error .eventBusNotConfigured := rfl
  refine ⟨⟨List.cons_ne_nil _ _, rfl, .cons rfl .nil⟩, ?_, failed⟩
  rw [failed]
  exact nofun

end Authorizer

end Gatehouse
