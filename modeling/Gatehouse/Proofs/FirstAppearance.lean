import Mathlib.Data.List.Nodup
import Mathlib.Data.List.Induction
import Mathlib.Data.List.Perm.Basic

/-!
# First appearance

Lists in which each member is kept once, in the place where it came up first. `InFirstOrder` says
what such a list is, and `inFirstOrder_eraseDups` that it can be computed. Sorting a list by a key
loses nothing and repeats nothing (`flatMap_filter_perm`).
-/

namespace Gatehouse

variable {α : Type u} {β : Type v} [DecidableEq α] [DecidableEq β]

/-- All that was given is listed, and nothing else, in the order in which it came up first. -/
structure InFirstOrder (given listed : List α) : Prop where
  mem_iff : ∀ a, a ∈ listed ↔ a ∈ given
  ordered : listed.Pairwise fun a b => given.idxOf a < given.idxOf b

theorem InFirstOrder.nodup {given listed : List α} (h : InFirstOrder given listed) :
    listed.Nodup :=
  h.ordered.imp fun {_ _} earlier same => absurd (same ▸ earlier) (Nat.lt_irrefl _)

theorem eraseDups_append_singleton (l : List α) (a : α) :
    (l ++ [a]).eraseDups = if a ∈ l then l.eraseDups else l.eraseDups ++ [a] := by
  rw [List.eraseDups_append, List.removeAll]
  split
  next mem => simp [mem]
  next other => simp [other, List.eraseDups_cons]

theorem inFirstOrder_eraseDups (given : List α) : InFirstOrder given given.eraseDups where
  mem_iff _ := List.mem_eraseDups
  ordered := by
    induction given using List.reverseRecOn with
    | nil => exact .nil
    | append_singleton given last ih =>
      -- What came up before stays where it is.
      have earlier {a : α} (mem : a ∈ given.eraseDups) :
          (given ++ [last]).idxOf a = given.idxOf a :=
        List.idxOf_append_of_mem (List.mem_eraseDups.1 mem)
      have ih := ih.imp_of_mem fun ha hb lt => by rwa [← earlier ha, ← earlier hb] at lt
      rw [eraseDups_append_singleton]
      split
      next => exact ih
      next new =>
        refine List.pairwise_append.2 ⟨ih, List.pairwise_singleton .., fun a ha b hb => ?_⟩
        rw [List.mem_singleton.1 hb, earlier ha, List.idxOf_append_of_notMem new]
        have := List.idxOf_lt_length_of_mem (List.mem_eraseDups.1 ha)
        omega

/-! ## Members by a key -/

/-- What came up first before a map also comes up first after it. -/
theorem eraseDups_map_eraseDups (f : α → β) (l : List α) :
    (l.eraseDups.map f).eraseDups = (l.map f).eraseDups := by
  induction l using List.reverseRecOn with
  | nil => rfl
  | append_singleton l a ih =>
    rw [eraseDups_append_singleton, List.map_append, List.map_singleton,
      eraseDups_append_singleton]
    split
    next old => rw [ih, if_pos (List.mem_map_of_mem old)]
    next =>
      have same : f a ∈ l.eraseDups.map f ↔ f a ∈ l.map f := by
        simp only [List.mem_map, List.mem_eraseDups]
      rw [List.map_append, List.map_singleton, eraseDups_append_singleton, ih]
      simp only [same]

theorem filter_eraseDups (p : α → Bool) (l : List α) :
    l.eraseDups.filter p = (l.filter p).eraseDups := by
  induction l using List.reverseRecOn with
  | nil => rfl
  | append_singleton l a ih =>
    rw [eraseDups_append_singleton, List.filter_append]
    by_cases kept : p a
    · rw [List.filter_cons_of_pos kept, List.filter_nil, eraseDups_append_singleton, ← ih]
      by_cases old : a ∈ l
      · rw [if_pos old, if_pos (List.mem_filter.2 ⟨old, kept⟩)]
      · rw [if_neg old, if_neg fun mem => old (List.mem_filter.1 mem).1, List.filter_append,
          List.filter_cons_of_pos kept, List.filter_nil]
    · rw [List.filter_cons_of_neg kept, List.filter_nil, List.append_nil, ← ih]
      split
      next => rfl
      next => rw [List.filter_append, List.filter_cons_of_neg kept, List.filter_nil,
        List.append_nil]

/-- A map that tells the members apart keeps the order in which they came up first. -/
theorem map_eraseDups {f : α → β} {l : List α} (apart : ∀ a ∈ l, ∀ b ∈ l, f a = f b → a = b) :
    l.eraseDups.map f = (l.map f).eraseDups := by
  induction l using List.reverseRecOn with
  | nil => rfl
  | append_singleton l a ih =>
    have ih := ih fun b hb c hc =>
      apart b (List.mem_append_left _ hb) c (List.mem_append_left _ hc)
    have same : f a ∈ l.map f ↔ a ∈ l := by
      refine ⟨fun mem => ?_, List.mem_map_of_mem⟩
      obtain ⟨b, hb, eq⟩ := List.mem_map.1 mem
      rwa [apart b (List.mem_append_left _ hb) a (by simp) eq] at hb
    rw [eraseDups_append_singleton, List.map_append, List.map_singleton,
      eraseDups_append_singleton, ← ih]
    simp only [same]
    split <;> simp

omit [DecidableEq α] in
/-- The members sorted by a key are the members, none of them lost and none repeated. -/
theorem flatMap_filter_perm (key : α → β) (l : List α) :
    ((l.map key).eraseDups.flatMap fun k => l.filter (key · = k)).Perm l := by
  match l with
  | [] => exact .nil
  | a :: l =>
    -- The members with another key than the first one are sorted as if they stood alone.
    let others := l.filter (key · ≠ key a)
    have keys : ((a :: l).map key).eraseDups = key a :: (others.map key).eraseDups := by
      rw [List.map_cons, List.eraseDups_cons, List.filter_map]
      simp [others, Function.comp_def, beq_eq_decide]
    have apart : ∀ k ∈ (others.map key).eraseDups,
        (a :: l).filter (key · = k) = others.filter (key · = k) := by
      intro k mem
      obtain ⟨b, hb, rfl⟩ := List.mem_map.1 (List.mem_eraseDups.1 mem)
      have unlike : key b ≠ key a := by simpa [others] using (List.mem_filter.1 hb).2
      rw [List.filter_cons_of_neg (by simpa using unlike.symm), List.filter_filter]
      refine List.filter_congr fun c _ => ?_
      by_cases same : key c = key b <;> simp [same, unlike]
    have rest : (a :: l).filter (fun b => !decide (key b = key a)) = others := by simp [others]
    rw [keys, List.flatMap_cons, List.flatMap_congr apart]
    refine ((flatMap_filter_perm key others).append_left _).trans ?_
    rw [← rest]
    exact List.filter_append_perm _ _
termination_by l.length
decreasing_by exact Nat.lt_succ_of_le (List.length_filter_le _ _)

end Gatehouse
