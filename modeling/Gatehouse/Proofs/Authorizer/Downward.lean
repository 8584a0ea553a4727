import Gatehouse.Proofs.Authorizer.Outcomes
import Gatehouse.Proofs.Clearance.Judgement
import Gatehouse.Proofs.Site.Undisturbed

/-!
# Access is closed downward

Who is granted a permission is granted every permission that it implies, over two checks between
which nothing disturbs the realms (`Authorizer.granted_downward`). The realm that granted the first
answers the second by the same clearance, and a grant that implies the one implies the other. The
second check can still fail; the ways in which it can are listed by `Authorizer.Excuse`.
-/

namespace Gatehouse

open Site

variable {σ : Type} {run : σ → Action σ Unit} {K : σ → Prop} {behind : Nat → Nat} {s t u v : Site σ}
  {identity : Identity} {held wanted : Permission}

/-! ## One clearance -/

theorem Clearance.scan_of_implies {c : Clearance} (implied : held.implies wanted)
    (granted : c.scan held) : c.scan wanted := by
  obtain ⟨g, onFile, implies⟩ := List.any_eq_true.1 granted
  obtain ⟨p, resolved, implies⟩ := Grant.implies_iff.1 implies
  have further := Grant.implies_iff.2 ⟨p, resolved, Permission.implies_trans implies implied⟩
  exact List.any_eq_true.2 ⟨g, onFile, further⟩

/-- Every clearance that is remembered has come about by filling it. -/
def Site.Filed (s : Site σ) : Prop :=
  ∀ cache id c, (s.caches.get cache).entries.find? id = some c → c.Filled

theorem Site.Filed.after (h : s.Undisturbed K behind t) (filed : s.Filed) : t.Filed := by
  intro cache id c found
  rcases h.added cache id c found with before | ⟨account, -, rfl⟩
  · exact filed cache id c before
  · exact .ofParts _ _

namespace AccountRealm

variable {r : AccountRealm} {c? d? : Option Clearance}

/-- There is one thing at most by which a realm answers. -/
theorem Knows.unique (h : r.Knows identity s c?) (other : r.Knows identity s d?) : c? = d? := by
  cases h <;> cases other <;> simp_all

theorem Knows.orderly (h : r.Knows identity s c?) (filed : s.Filed) : ∀ c ∈ c?, c.Orderly := by
  cases h with
  | anonymous | stranger => exact nofun
  | known known remembered =>
    rintro _ ⟨⟩
    exact (filed _ _ _ remembered).orderly

/-- The verdict on a permission is whether the clearance, if any, holds a grant that implies it. -/
theorem answer_eq_ok (standard : r.judge = Clearance.judge) (orderly : ∀ c ∈ c?, c.Orderly)
    {p : Permission} {verdicts : Verdicts Permission} (answered : r.answer c? [p] = .ok verdicts) :
    verdicts = [(p, c?.any (·.scan p))] := by
  cases c? with
  | none => exact (Except.ok.inj answered).symm
  | some c =>
    have judged : (c.judge [p]).mapError AccessError.invalidFormat = .ok verdicts := by
      rw [← standard]
      exact answered
    cases outcome : c.judge [p] with
    | error e => rw [outcome] at judged; contradiction
    | ok found =>
      rw [outcome] at judged
      obtain rfl : found = verdicts := Except.ok.inj judged
      exact Clearance.judge_eq_ok (orderly c rfl) outcome

/-- No verdict is given on a permission if a text that is none is met on the way to it. -/
theorem exists_of_answer_eq_error (standard : r.judge = Clearance.judge) {p : Permission}
    {e : AccessError} (failed : r.answer c? [p] = .error e) :
    ∃ c f, c? = some c ∧ e = .invalidFormat f ∧ .raw f.text ∈ c.consulted p ∧
      Permission.parse f.text = .error f := by
  cases c? with
  | none => contradiction
  | some c =>
    have judged : (c.judge [p]).mapError AccessError.invalidFormat = .error e := by
      rw [← standard]
      exact failed
    cases outcome : c.judge [p] with
    | ok found => rw [outcome] at judged; contradiction
    | error f =>
      rw [outcome] at judged
      cases judged
      obtain ⟨before, g, after, met, -, broken⟩ :=
        FirstError.iff_exists_append.1 (Clearance.judge_eq_error_iff.1 outcome)
      obtain ⟨rfl, unread⟩ := Grant.exists_text_of_resolve_eq_error broken
      refine ⟨c, f, rfl, rfl, ?_, unread⟩
      have : Grant.raw f.text ∈ [p].flatMap c.consulted := by simp [met]
      simpa using this

/-- Where there is a verdict, no such text is met. -/
theorem not_consulted_of_answer (standard : r.judge = Clearance.judge) {c : Clearance}
    {p : Permission} {verdicts : Verdicts Permission}
    (answered : r.answer (some c) [p] = .ok verdicts) {g : Grant} (broken : g.Broken) :
    g ∉ c.consulted p := by
  have judged : (c.judge [p]).mapError AccessError.invalidFormat = .ok verdicts := by
    rw [← standard]
    exact answered
  cases outcome : c.judge [p] with
  | error e => rw [outcome] at judged; contradiction
  | ok found =>
    intro met
    exact Clearance.exists_judge_eq_ok_iff.1 ⟨found, outcome⟩ p List.mem_cons_self g met broken

end AccountRealm

/-! ## Rounds -/

namespace Authorizer

/-- All realms are account realms with the standard judgement, each before the store behind its
cache. -/
def Plain (behind : Nat → Nat) (realms : List Realm) : Prop :=
  ∀ realm ∈ realms, ∃ r, realm = .account r ∧ behind r.cache = r.store ∧ r.judge = Clearance.judge

variable {a : Authorizer} {items : List Permission} {replies : List (Realm × Verdicts Permission)}

/-- Every realm that was asked has replied by what it knows. -/
theorem replied_of_answered (calm : Calm run K behind)
    (answered : Answered run identity items s replies t)
    (plain : Plain behind (replies.map Prod.fst)) (scripted : s.Scripted K) :
    s.Undisturbed K behind t ∧ ∀ r verdicts, (Realm.account r, verdicts) ∈ replies →
      ∃ c?, r.Replied K behind identity items verdicts s t c? := by
  induction answered with
  | nil => exact ⟨.refl scripted, nofun⟩
  | @cons s t u realm verdicts replies asked after ih =>
    obtain ⟨⟨r, rfl, fed, -⟩, others⟩ := List.forall_mem_cons.1 plain
    have asked : (r.ask run identity items).run.run s = (.ok verdicts, t) := asked
    have first := AccountRealm.undisturbed_ask calm fed identity items scripted
    rw [asked] at first
    obtain ⟨rest, known⟩ := ih others first.scripted
    refine ⟨first.trans rest, fun q given mem => ?_⟩
    rcases List.mem_cons.1 mem with same | later
    · cases same
      obtain ⟨c?, replied⟩ := AccountRealm.exists_replied_of_ask calm fed asked scripted
      exact ⟨c?, replied.after rest fed⟩
    · obtain ⟨c?, replied⟩ := known q given later
      exact ⟨c?, replied.before first⟩

theorem mem_replies_of_polled (polled : a.Polled run identity items s replies t) {realm : Realm}
    (mem : realm ∈ a.realms) : ∃ verdicts, (realm, verdicts) ∈ replies := by
  rw [← polled.all] at mem
  obtain ⟨⟨_, verdicts⟩, there, rfl⟩ := List.mem_map.1 mem
  exact ⟨verdicts, there⟩

/-- Publishing the verdicts disturbs nothing. -/
theorem undisturbed_verdicts_of_polled (calm : Calm run K behind)
    (polled : a.Polled run identity items s replies t) (scripted : t.Scripted K)
    (logResults : Bool) :
    t.Undisturbed K behind ((a.verdicts run identity items logResults).run.run s).2 := by
  have consulted := run_consult_of_polled polled
  let inquiry : Inquiry Permission (Verdicts Permission) := .verdicts logResults
  change t.Undisturbed K behind ((inquiry.perform run a identity items).run.run s).2
  cases bus : a.bus? with
  | none =>
    rw [inquiry.run_perform_of_none bus consulted]
    exact .refl scripted
  | some n =>
    rw [inquiry.run_perform_of_bus bus consulted]
    refine undisturbed_publishAll calm n (fun message mem => ?_) scripted
    cases logResults with
    | false => contradiction
    | true =>
      obtain ⟨verdict, -, rfl⟩ := List.mem_map.1 mem
      exact ⟨_, rfl⟩

theorem run_verdicts_of_error {e : AccessError} {logResults : Bool}
    (failed : (a.consult run identity items).run.run s = (.error e, t)) :
    ((a.verdicts run identity items logResults).run.run s).1 = .error e :=
  congrArg Prod.fst (Check.run_bind_of_error failed)

/-- Verdicts take an answer of every realm, and are the joint ones. -/
theorem exists_polled_of_verdicts {logResults : Bool} {results : Verdicts Permission}
    (checked : ((a.verdicts run identity items logResults).run.run s).1 = .ok results) :
    ∃ replies t, a.Polled run identity items s replies t ∧
      results = Verdicts.join (replies.map Prod.snd).flatten := by
  by_cases configured : a.realms = []
  · rw [run_verdicts_of_error (run_consult_of_unconfigured configured)] at checked
    contradiction
  rcases answered_or_failed run identity items a.realms s with
    ⟨replies, t, all, answered⟩ | ⟨replies, realm, rest, t, e, u, order, answered, failing⟩
  · have polled : a.Polled run identity items s replies t := ⟨configured, all, answered⟩
    refine ⟨replies, t, polled, ?_⟩
    rw [run_verdicts_of_polled polled] at checked
    split at checked
    · contradiction
    · exact (Except.ok.inj checked).symm
  · rw [run_verdicts_of_error (run_consult_of_failed order answered failing)] at checked
    contradiction

/-- Without a bus, there are verdicts only if they are not to be published. -/
theorem silent_of_verdicts {logResults : Bool} {results : Verdicts Permission}
    (checked : ((a.verdicts run identity items logResults).run.run s).1 = .ok results)
    (inhabited : results ≠ []) (unset : a.bus? = none) : logResults = false := by
  obtain ⟨replies, t, polled, rfl⟩ := exists_polled_of_verdicts checked
  cases logResults with
  | false => rfl
  | true =>
    rw [run_verdicts_of_polled polled, if_pos ⟨rfl, inhabited, unset⟩] at checked
    contradiction

/-- Where all realms answer, the only verdict is on the wanted permission, and it is told by what
they know. -/
theorem join_of_plain (calm : Calm run K behind) (plain : Plain behind a.realms)
    (polled : a.Polled run identity [wanted] s replies t) (scripted : s.Scripted K)
    (filed : s.Filed) :
    ∃ granted : Bool, Verdicts.join (replies.map Prod.snd).flatten = [(wanted, granted)] ∧
      ∀ r, .account r ∈ a.realms → ∀ c?, r.Knows identity s c? → c?.any (·.scan wanted) →
        granted := by
  obtain ⟨undisturbed, known⟩ :=
    replied_of_answered calm polled.answered (polled.all ▸ plain) scripted
  have told (r : AccountRealm) (verdicts : Verdicts Permission)
      (mem : (Realm.account r, verdicts) ∈ replies) :
      ∃ c?, r.Knows identity t c? ∧ verdicts = [(wanted, c?.any (·.scan wanted))] := by
    obtain ⟨c?, knows, answers, -⟩ := known r verdicts mem
    have among : Realm.account r ∈ a.realms := polled.all ▸ List.mem_map_of_mem mem
    obtain ⟨q, same, -, standard⟩ := plain _ among
    cases same
    have orderly := knows.orderly (filed.after undisturbed)
    exact ⟨c?, knows, AccountRealm.answer_eq_ok standard orderly answers⟩
  have honoured : ∀ reply ∈ replies, reply.2.map Prod.fst = [wanted] := by
    rintro ⟨realm, verdicts⟩ mem
    have among : realm ∈ a.realms := polled.all ▸ List.mem_map_of_mem mem
    obtain ⟨r, rfl, -⟩ := plain _ among
    obtain ⟨c?, -, rfl⟩ := told r verdicts mem
    rfl
  refine ⟨replies.any (·.2.grants wanted), join_of_honoured polled honoured, ?_⟩
  intro r among c? knows holds
  obtain ⟨verdicts, mem⟩ := mem_replies_of_polled polled among
  obtain ⟨d?, knows', rfl⟩ := told r verdicts mem
  obtain ⟨q, same, fed, -⟩ := plain _ among
  cases same
  cases (knows.after undisturbed fed).unique knows'
  rw [any_grants_iff_grantedBySome]
  exact ⟨_, mem, by simp [holds]⟩

/-- A granted permission is one that the clearance known to some realm grants. -/
theorem exists_grantor (calm : Calm run K behind) (plain : Plain behind a.realms)
    (polled : a.Polled run identity [held] s replies t) (scripted : s.Scripted K) (filed : s.Filed)
    (granted : (held, true) ∈ Verdicts.join (replies.map Prod.snd).flatten) :
    ∃ r c?, .account r ∈ a.realms ∧ r.Knows identity t c? ∧ c?.any (·.scan held) := by
  obtain ⟨undisturbed, known⟩ :=
    replied_of_answered calm polled.answered (polled.all ▸ plain) scripted
  have joint := (Verdicts.mem_join_iff.1 granted).2.symm
  obtain ⟨verdicts, given, mem⟩ := List.mem_flatten.1 (Verdicts.grants_iff.1 joint)
  obtain ⟨⟨realm, _⟩, replied, rfl⟩ := List.mem_map.1 given
  have among : realm ∈ a.realms := polled.all ▸ List.mem_map_of_mem replied
  obtain ⟨r, rfl, -, standard⟩ := plain _ among
  obtain ⟨c?, knows, answers, -⟩ := known r _ replied
  have orderly := knows.orderly (filed.after undisturbed)
  have verdict := AccountRealm.answer_eq_ok standard orderly answers
  refine ⟨r, c?, among, knows, ?_⟩
  have mem : (held, true) ∈ [(held, c?.any (·.scan held))] := verdict ▸ mem
  grind

/-- What can make a check of the wanted permission at one site fail, after one of the held
permission at another has passed: that its verdict is to be published, unlike those of the first
check, and there is no bus; or that a store which was in order when the first check looked in it is
so no more; or that the clearance a realm remembers has a text on file that is no permission, where
one looks for the wanted permission and not for the held one. -/
inductive Excuse (a : Authorizer) (identity : Identity) (held wanted : Permission)
    (K : σ → Prop) (behind : Nat → Nat) (logFirst logSecond : Bool) (s u : Site σ) :
    AccessError → Prop
  | unpublished (unset : a.bus? = none) (silent : logFirst = false) (logs : logSecond = true) :
      Excuse a identity held wanted K behind logFirst logSecond s u .eventBusNotConfigured
  | outOfOrder {r : AccountRealm} {e : AccessError} {t v : Site σ} (mem : .account r ∈ a.realms)
      (earlier : s.Undisturbed K behind t) (working : (t.stores.get r.store).outage? = none)
      (later : u.Undisturbed K behind v) (outage : (v.stores.get r.store).outage? = some e) :
      Excuse a identity held wanted K behind logFirst logSecond s u e
  | broken {r : AccountRealm} {id : String} {c : Clearance} {e : FormatError}
      (mem : .account r ∈ a.realms) (known : identity.primary? = some id)
      (remembered : r.remembered? u id = some c) (met : .raw e.text ∈ c.consulted wanted)
      (passed : .raw e.text ∉ c.consulted held) (unread : Permission.parse e.text = .error e) :
      Excuse a identity held wanted K behind logFirst logSecond s u (.invalidFormat e)

/-- A realm that has replied about the held permission and fails on the wanted one has an excuse. -/
theorem excuse_of_failing (calm : Calm run K behind) {r : AccountRealm} {c? : Option Clearance}
    (among : .account r ∈ a.realms) (fed : behind r.cache = r.store)
    (standard : r.judge = Clearance.judge) {verdicts : Verdicts Permission}
    (replied : r.Replied K behind identity [held] verdicts s u c?)
    (undisturbed : u.Undisturbed K behind v) {e : AccessError} (logFirst logSecond : Bool)
    (failing : ((r.ask run identity [wanted]).run.run v).1 = .error e) :
    a.Excuse identity held wanted K behind logFirst logSecond s u e := by
  obtain ⟨knows, answered, looked⟩ := replied
  have still := knows.after undisturbed fed
  rcases AccountRealm.ask_of_knows calm fed still [wanted] undisturbed.scripted with
    told | ⟨unknown, named, f, told, outage⟩
  · rw [failing] at told
    obtain ⟨c, f, rfl, rfl, met, unread⟩ :=
      AccountRealm.exists_of_answer_eq_error standard told.symm
    have passed : .raw f.text ∉ c.consulted held :=
      AccountRealm.not_consulted_of_answer standard answered ⟨f, unread⟩
    cases knows with
    | known known remembered => exact .broken among known remembered met passed unread
  · rw [failing] at told
    cases told
    obtain ⟨t, earlier, working⟩ := looked unknown named
    exact .outOfOrder among earlier working undisturbed outage

section

variable {w : Site σ} {others : List (Realm × Verdicts Permission)}

/-- Where all realms answer for the implied permission as well, it is granted. -/
theorem join_of_implied (calm : Calm run K behind) (plain : Plain behind a.realms)
    (scripted : s.Scripted K) (filed : s.Filed) (implied : held.implies wanted)
    (polled : a.Polled run identity [held] s replies t)
    (granted : (held, true) ∈ Verdicts.join (replies.map Prod.snd).flatten)
    (later : t.Undisturbed K behind u) (further : a.Polled run identity [wanted] u others w) :
    Verdicts.join (others.map Prod.snd).flatten = [(wanted, true)] := by
  have undisturbed := (replied_of_answered calm polled.answered (polled.all ▸ plain) scripted).1
  have filed' : u.Filed := filed.after (undisturbed.trans later)
  obtain ⟨r, c?, among, knows, holds⟩ := exists_grantor calm plain polled scripted filed granted
  obtain ⟨q, same, fed, -⟩ := plain _ among
  cases same
  obtain ⟨verdict, joint, told⟩ := join_of_plain calm plain further later.scripted filed'
  have holds : c?.any (·.scan wanted) := by
    cases c? with
    | none => contradiction
    | some c => exact Clearance.scan_of_implies implied holds
  rw [joint, told r among c? (knows.after later fed) holds]

/-- If a realm fails on the wanted permission in its turn, it has an excuse. -/
theorem excuse_of_round (calm : Calm run K behind) (plain : Plain behind a.realms)
    (scripted : s.Scripted K) (polled : a.Polled run identity [held] s replies t)
    (later : t.Undisturbed K behind u) {realm : Realm} {rest : List Realm} {e : AccessError}
    (order : a.realms = others.map Prod.fst ++ realm :: rest)
    (answered : Answered run identity [wanted] u others v)
    (failing : (realm.ask run identity [wanted]).run.run v = (.error e, w))
    (logFirst logSecond : Bool) :
    a.Excuse identity held wanted K behind logFirst logSecond s u e := by
  have among : realm ∈ a.realms := by simp [order]
  obtain ⟨r, rfl, fed, standard⟩ := plain _ among
  obtain ⟨verdicts, there⟩ := mem_replies_of_polled polled among
  obtain ⟨-, replied⟩ := replied_of_answered calm polled.answered (polled.all ▸ plain) scripted
  obtain ⟨c?, replied⟩ := replied r verdicts there
  have before : Plain behind (others.map Prod.fst) := fun realm mem =>
    plain realm (order ▸ List.mem_append_left _ mem)
  have reached := (replied_of_answered calm answered before later.scripted).1
  exact excuse_of_failing calm among fed standard (replied.after later fed) reached
    logFirst logSecond (congrArg Prod.fst failing)

end

/-- Who is granted a permission is granted each that it implies, if nothing disturbs the realms
until that is asked for: it is the verdict of the second check unless that check fails, for which
there are three excuses. If both checks publish their verdicts or neither does, and all stores are
still in order, only a text that is no permission is left of them. -/
theorem granted_downward (calm : Calm run K behind) (plain : Plain behind a.realms)
    (scripted : s.Scripted K) (filed : s.Filed) (implied : held.implies wanted)
    {logFirst : Bool} {results : Verdicts Permission}
    (first : (a.verdicts run identity [held] logFirst).run.run s = (.ok results, t))
    (granted : (held, true) ∈ results) (between : t.Undisturbed K behind u) (logSecond : Bool) :
    let second := ((a.verdicts run identity [wanted] logSecond).run.run u).1
    (∀ verdicts, second = .ok verdicts → verdicts = [(wanted, true)]) ∧
      ∀ e, second = .error e →
        a.Excuse identity held wanted K behind logFirst logSecond s u e := by
  intro second
  have silent := silent_of_verdicts (congrArg Prod.fst first) (List.ne_nil_of_mem granted)
  obtain ⟨replies, w, polled, rfl⟩ := exists_polled_of_verdicts (congrArg Prod.fst first)
  have undisturbed := (replied_of_answered calm polled.answered (polled.all ▸ plain) scripted).1
  have published := undisturbed_verdicts_of_polled calm polled undisturbed.scripted logFirst
  rw [first] at published
  have later : w.Undisturbed K behind u := published.trans between
  -- either all realms answer the second check as well, or one of them is the first to fail
  rcases answered_or_failed run identity [wanted] a.realms u with
    ⟨others, v, all, answered⟩ | ⟨others, realm, rest, v, e, x, order, answered, failing⟩
  · have further : a.Polled run identity [wanted] u others v := ⟨polled.configured, all, answered⟩
    have outcome : second = _ := run_verdicts_of_polled further logSecond
    rw [join_of_implied calm plain scripted filed implied polled granted later further] at outcome
    constructor
    · intro verdicts passed
      rw [outcome] at passed
      split at passed
      · contradiction
      · exact (Except.ok.inj passed).symm
    · intro e failed
      rw [outcome] at failed
      split at failed
      next unset =>
        cases failed
        exact .unpublished unset.2.2 (silent unset.2.2) unset.1
      next => contradiction
  · have outcome : second = .error e :=
      run_verdicts_of_error (run_consult_of_failed order answered failing)
    constructor
    · intro verdicts passed
      rw [outcome] at passed
      contradiction
    · intro f failed
      obtain rfl : e = f := Except.error.inj (outcome.symm.trans failed)
      exact excuse_of_round calm plain scripted polled later order answered failing
        logFirst logSecond

/-- The realm remembers a clearance although the record of the account is gone. It grants what is
asked for of two domains, and then what is asked for more narrowly of one. -/
theorem granted_downward_of_remembered :
    let alice : Identity := ⟨[⟨"accounts", "alice"⟩]⟩
    let remembered := Clearance.ofParts ["clerk"] [.raw "doc,report:read,write"]
    let held : Permission :=
      { parts := [.ofList ["doc", "report"], .singleton "read"]
        parts_ne_nil := by simp
        length_parts_le := by simp
        inhabited := by decide }
    let wanted := Permission.ofTokens "doc" "read" "7"
    let realm : AccountRealm := { label := "accounts", store := 0, cache := 0 }
    let a : Authorizer := { realms? := some [.account realm], bus? := some 0 }
    let run : Unit → Action Unit Unit := fun _ => return ()
    let s : Site Unit :=
      { caches := Arena.set {} 0 { entries := SortedMap.empty.insert "alice" remembered } }
    let t := ((a.verdicts run alice [held] true).run.run s).2
    Calm run (fun _ => True) id ∧ Plain id a.realms ∧ s.Scripted (fun _ => True) ∧ s.Filed ∧
      held.implies wanted ∧
      (a.verdicts run alice [held] true).run.run s = (.ok [(held, true)], t) ∧
      t.Undisturbed (fun _ => True) id t ∧
      ((a.verdicts run alice [wanted] true).run.run t).1 = .ok [(wanted, true)] := by
  intro alice remembered held wanted realm a run s t
  have calm : Calm run (fun _ => True) id := fun _ _ _ scripted => .refl scripted
  have plain : Plain id a.realms := by
    intro r mem
    obtain rfl := List.mem_singleton.1 mem
    exact ⟨realm, rfl, rfl, rfl⟩
  have scripted (s : Site Unit) : s.Scripted fun _ => True :=
    ⟨fun _ _ _ => trivial, fun _ _ _ _ _ => trivial⟩
  have filed : s.Filed := by
    intro cache id c found
    rw [Arena.get_set] at found
    split at found
    · rw [SortedMap.find?_insert] at found
      split at found
      · cases found
        exact .ofParts _ _
      · contradiction
    · contradiction
  have implied : held.implies wanted := by decide +kernel
  have granted : ((a.verdicts run alice [held] true).run.run s).1 = .ok [(held, true)] := by
    decide +kernel
  have first : (a.verdicts run alice [held] true).run.run s = (.ok [(held, true)], t) :=
    Prod.ext granted rfl
  have between : t.Undisturbed (fun _ => True) id t := .refl (scripted t)
  refine ⟨calm, plain, scripted s, filed, implied, first, between, ?_⟩
  have answered : ((a.verdicts run alice [wanted] true).run.run t).1.isOk := by decide +kernel
  obtain ⟨sound, -⟩ := granted_downward calm plain (scripted s) filed implied first
    List.mem_cons_self between true
  cases second : ((a.verdicts run alice [wanted] true).run.run t).1 with
  | error e =>
    rw [second] at answered
    contradiction
  | ok verdicts => rw [sound verdicts second]

end Authorizer

end Gatehouse
