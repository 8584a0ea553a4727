import Gatehouse.Proofs.Clearance.Filing
import Gatehouse.Proofs.FirstError
import Gatehouse.Proofs.Permission.Implication

/-!
# Judging by the file

A request is judged by the grants filed under its domain tokens and under `*` alone. In an orderly
clearance nothing is missed: a grant that implies the request allows its domain, so it has `*` among
its domain tokens or all those of the request (`mem_consulted_of_implies`). The verdicts are thus
those of a scan of every grant, and a text that is no permission matters only where it is consulted.
-/

namespace Gatehouse

namespace Grant

/-- The grant is a text that is no permission. -/
def Broken (g : Grant) : Prop := ∃ e, g.resolve = .error e

/-- The grant is a permission that implies the request. -/
def implies (g : Grant) (requested : Permission) : Bool :=
  g.resolve.toOption.any (·.implies requested)

theorem implies_iff {g : Grant} {requested : Permission} :
    g.implies requested ↔ ∃ p, g.resolve = .ok p ∧ p.implies requested := by
  rw [implies]
  cases g.resolve <;> simp [Except.toOption]

theorem exists_text_of_resolve_eq_error {g : Grant} {e : FormatError} (h : g.resolve = .error e) :
    g = .raw e.text ∧ Permission.parse e.text = .error e := by
  cases g with
  | parsed p => contradiction
  | raw text =>
    have quoted := Permission.text_of_parse_eq_error h
    exact ⟨by rw [quoted], by rw [quoted]; exact h⟩

theorem not_broken_iff {g : Grant} : ¬ g.Broken ↔ ∃ p, g.resolve = .ok p := by
  unfold Broken
  cases g.resolve <;> simp

/-- A text with more than three parts is broken. -/
theorem broken_of_length {text : String} (long : 3 < (Permission.partsOf text).length) :
    (raw text).Broken := by
  by_contra sound
  obtain ⟨p, read⟩ := not_broken_iff.1 sound
  have short := p.length_parts_le
  rw [Permission.parse_eq_ok_iff.1 read] at short
  omega

end Grant

namespace Clearance

variable {c : Clearance} {requested : Permission} {g : Grant}

/-- Some grant on file, wherever it is filed, implies the request. -/
def scan (c : Clearance) (requested : Permission) : Bool :=
  c.grants.toList.any (·.implies requested)

/-- The grants that are gone through for a request, bucket by bucket. -/
def consulted (c : Clearance) (requested : Permission) : List Grant :=
  (requested.domain.toList ++ [Tokens.wildcard]).flatMap fun token => (c.filed token).toList

theorem candidates_eq : c.candidates requested = (c.consulted requested).eraseDups := rfl

theorem mem_consulted_iff :
    g ∈ c.consulted requested ↔
      g ∈ c.filed Tokens.wildcard ∨ ∃ token ∈ requested.domain, g ∈ c.filed token := by
  simp only [consulted, List.flatMap_append, List.mem_append, List.mem_flatMap, List.mem_singleton,
    exists_eq_left, SortedSet.mem_toList]
  exact or_comm

/-- A grant that implies the request is among those that are gone through for it. -/
theorem mem_consulted_of_implies (hc : c.Orderly) (mem : g ∈ c.grants) (h : g.implies requested) :
    g ∈ c.consulted requested := by
  obtain ⟨token, filedHere⟩ := mem_grants_iff.1 mem
  obtain ⟨p, resolved, implied⟩ := Grant.implies_iff.1 h
  have filed_iff (other : String) : g ∈ c.filed other ↔ other ∈ p.domain :=
    (hc g token filedHere other).trans (Grant.mem_domains_iff resolved)
  rw [mem_consulted_iff]
  rcases Tokens.allows_iff.1 (Permission.allows_domain_of_implies implied) with all | names
  · exact .inl ((filed_iff _).2 (Tokens.isWildcard_iff.1 all))
  · obtain ⟨first, here⟩ := requested.exists_mem_domain
    exact .inr ⟨first, here, (filed_iff _).2 (names _ here)⟩

theorem mem_grants_of_mem_consulted (h : g ∈ c.consulted requested) : g ∈ c.grants := by
  rw [mem_grants_iff]
  rcases mem_consulted_iff.1 h with h | ⟨token, -, h⟩
  · exact ⟨_, h⟩
  · exact ⟨token, h⟩

/-! ## One request -/

theorem permits_eq_error_iff {e : FormatError} :
    c.permits requested = .error e ↔ FirstError Grant.resolve (c.consulted requested) e := by
  rw [← FirstError.eraseDups_iff, ← candidates_eq, ← mapM_eq_error_iff, ← resolved, permits]
  cases c.resolved requested <;> simp [Except.map]

/-- The verdict on a request, where there is one, is that of the scan. -/
theorem permits_eq_ok (hc : c.Orderly) {granted : Bool} (h : c.permits requested = .ok granted) :
    granted = c.scan requested := by
  obtain ⟨held, found, rfl⟩ : ∃ held, c.resolved requested = .ok held ∧
      held.any (·.implies requested) = granted := by
    rw [permits] at h
    cases found : c.resolved requested with
    | error e => rw [found] at h; contradiction
    | ok held => rw [found] at h; exact ⟨held, rfl, Except.ok.inj h⟩
  have images := mapM_eq_ok_iff.1 found
  have mem_held (p : Permission) : p ∈ held ↔ ∃ g ∈ c.consulted requested, g.resolve = .ok p := by
    have := congrArg (Except.ok p ∈ ·) images
    simp only [candidates_eq, List.mem_map, List.mem_eraseDups, Except.ok.injEq, exists_eq_right,
      eq_iff_iff] at this
    exact this.symm
  rw [scan, Bool.eq_iff_iff, List.any_eq_true, List.any_eq_true]
  constructor
  · rintro ⟨p, mem, implied⟩
    obtain ⟨g, mem, resolved⟩ := (mem_held p).1 mem
    exact ⟨g, mem_grants_of_mem_consulted mem, Grant.implies_iff.2 ⟨p, resolved, implied⟩⟩
  · rintro ⟨g, mem, implies⟩
    obtain ⟨p, resolved, implied⟩ := Grant.implies_iff.1 implies
    exact ⟨p, (mem_held p).2 ⟨g, mem_consulted_of_implies hc mem implies, resolved⟩, implied⟩

/-! ## A list of requests -/

theorem judge_eq_error_iff {l : List Permission} {e : FormatError} :
    c.judge l = .error e ↔ FirstError Grant.resolve (l.flatMap c.consulted) e := by
  have one (p : Permission) (e : FormatError) :
      (c.permits p).map (p, ·) = .error e ↔ FirstError Grant.resolve (c.consulted p) e := by
    rw [← permits_eq_error_iff]
    cases c.permits p <;> simp [Except.map]
  rw [judge, mapM_eq_error_iff, FirstError.flatMap_iff one]

theorem judge_eq_ok (hc : c.Orderly) {l : List Permission} {verdicts : List (Permission × Bool)}
    (h : c.judge l = .ok verdicts) : verdicts = l.map fun p => (p, c.scan p) := by
  rw [judge, mapM_eq_ok_iff] at h
  refine List.map_injective_iff.2 (fun _ _ => Except.ok.inj) (h.symm.trans ?_)
  rw [List.map_map]
  refine List.map_congr_left fun p mem => ?_
  obtain ⟨verdict, -, found⟩ : ∃ verdict ∈ verdicts, .ok verdict = (c.permits p).map (p, ·) := by
    have := h ▸ List.mem_map_of_mem mem
    exact List.mem_map.1 this
  cases permitted : c.permits p with
  | error e => rw [permitted] at found; contradiction
  | ok granted => rw [permits_eq_ok hc permitted]; rfl

/-- There are verdicts on a list of requests unless a broken text is filed where one looks. -/
theorem exists_judge_eq_ok_iff {l : List Permission} :
    (∃ verdicts, c.judge l = .ok verdicts) ↔
      ∀ p ∈ l, ∀ g ∈ c.consulted p, ¬ g.Broken := by
  have total : (∃ verdicts, c.judge l = .ok verdicts) ↔ ¬ ∃ e, c.judge l = .error e := by
    cases c.judge l <;> simp
  rw [total]
  simp only [judge_eq_error_iff]
  rw [FirstError.exists_iff]
  simp only [List.mem_flatMap, Grant.Broken]
  grind

/-- The judgement of a clearance agrees with a scan of everything on file. There is one unless a
text that is no permission is filed under a domain token of a request, or under `*` where there is a
request at all; and then the error is that of the first such text that is met. -/
theorem judge_eq_scan (hc : c.Filled) (l : List Permission) :
    ((∃ verdicts, c.judge l = .ok verdicts) ↔
      ¬ ∃ g : Grant, g.Broken ∧ (l ≠ [] ∧ g ∈ c.filed Tokens.wildcard ∨
        ∃ p ∈ l, ∃ token ∈ p.domain, g ∈ c.filed token)) ∧
    (∀ verdicts, c.judge l = .ok verdicts → verdicts = l.map fun p => (p, c.scan p)) ∧
    (∀ e, c.judge l = .error e → ∃ before after,
      l.flatMap c.consulted = before ++ .raw e.text :: after ∧ (∀ g ∈ before, ¬ g.Broken) ∧
        Permission.parse e.text = .error e) := by
  refine ⟨?_, fun _ => judge_eq_ok hc.orderly, fun e failed => ?_⟩
  · rw [exists_judge_eq_ok_iff]
    simp only [mem_consulted_iff]
    constructor
    · rintro sound ⟨g, broken, ⟨some, filedHere⟩ | ⟨p, mem, filedHere⟩⟩
      · obtain ⟨p, mem⟩ := List.exists_mem_of_ne_nil l some
        exact sound p mem g (.inl filedHere) broken
      · exact sound p mem g (.inr filedHere) broken
    · rintro none p mem g (filedHere | filedHere) broken
      · exact none ⟨g, broken, .inl ⟨List.ne_nil_of_mem mem, filedHere⟩⟩
      · exact none ⟨g, broken, .inr ⟨p, mem, filedHere⟩⟩
  · obtain ⟨before, g, after, eq, passed, broken⟩ :=
      FirstError.iff_exists_append.1 (judge_eq_error_iff.1 failed)
    obtain ⟨rfl, unread⟩ := Grant.exists_text_of_resolve_eq_error broken
    exact ⟨before, after, eq, fun g mem => Grant.not_broken_iff.2 (passed g mem), unread⟩

/-- A broken text under `*` spoils every request. -/
theorem judge_eq_scan_of_doc :
    (ofParts ["clerk"] [.raw "doc:read", .raw "*:a:b:c"]).Filled ∧
      ¬ ∃ verdicts, (ofParts ["clerk"] [.raw "doc:read", .raw "*:a:b:c"]).judge
        [Permission.wildcard] = .ok verdicts := by
  refine ⟨.ofParts _ _, fun judged => ?_⟩
  have broken : (Grant.raw "*:a:b:c").Broken := Grant.broken_of_length (by decide +kernel)
  have here : Grant.raw "*:a:b:c" ∈
      (ofParts ["clerk"] [.raw "doc:read", .raw "*:a:b:c"]).filed Tokens.wildcard :=
    mem_filed_ofParts.2 ⟨by simp, by decide +kernel⟩
  exact (judge_eq_scan (.ofParts _ _) _).1.1 judged ⟨_, broken, .inl ⟨by simp, here⟩⟩

/-- Without requests nothing is read, so a broken text under `*` does no harm. -/
theorem judge_nil_of_broken :
    ¬ ∀ (c : Clearance) (l : List Permission), c.Filled →
      ((∃ verdicts, c.judge l = .ok verdicts) ↔
        ¬ ∃ g : Grant, g.Broken ∧ (g ∈ c.filed Tokens.wildcard ∨
          ∃ p ∈ l, ∃ token ∈ p.domain, g ∈ c.filed token)) := by
  intro claim
  have broken : (Grant.raw "*:a:b:c").Broken := Grant.broken_of_length (by decide +kernel)
  have here : Grant.raw "*:a:b:c" ∈ (ofParts [] [.raw "*:a:b:c"]).filed Tokens.wildcard :=
    mem_filed_ofParts.2 ⟨by simp, by decide +kernel⟩
  exact (claim (ofParts [] [.raw "*:a:b:c"]) [] (.ofParts _ _)).1 ⟨[], rfl⟩ ⟨_, broken, .inl here⟩

end Clearance

end Gatehouse
