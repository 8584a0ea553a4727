import Gatehouse.Authorizer
import Gatehouse.Proofs.FirstAppearance

/-!
# Joining verdicts

The verdicts of all realms are joined one at a time, with a note of where in the result the verdict on
each item stands. What comes out is told without any positions by `join_eq`: the distinct items in
order of first appearance, each granted if any verdict grants it. What an operator makes of them in
the end is told by `Operator.Requires`.
-/

namespace Gatehouse

variable {ι : Type} [DecidableEq ι]

/-- Some verdict grants the item. -/
def Verdicts.grants (given : Verdicts ι) (item : ι) : Bool :=
  given.any fun verdict => verdict.1 = item && verdict.2

theorem Verdicts.grants_iff {given : Verdicts ι} {item : ι} :
    given.grants item ↔ (item, true) ∈ given := by
  simp only [grants, List.any_eq_true, Bool.and_eq_true, decide_eq_true_eq]
  constructor
  · rintro ⟨⟨_, _⟩, mem, rfl, rfl⟩
    exact mem
  · intro mem
    exact ⟨_, mem, rfl, rfl⟩

theorem Verdicts.grants_append_singleton {given : Verdicts ι} {verdict : ι × Bool} {item : ι} :
    Verdicts.grants (given ++ [verdict]) item =
      (given.grants item || (verdict.1 = item && verdict.2)) := by
  simp [grants]

namespace Tally

variable {t : Tally ι} {given : Verdicts ι}

/-- The verdicts given so far are joined, and the positions are those of the items in the result. -/
structure Joins (t : Tally ι) (given : Verdicts ι) : Prop where
  items : t.verdicts.map Prod.fst = (given.map Prod.fst).eraseDups
  granted : ∀ verdict ∈ t.verdicts, verdict.2 = given.grants verdict.1
  position : ∀ item i,
    t.positions.lookup item = some i ↔ (t.verdicts.map Prod.fst)[i]? = some item

theorem Joins.nil : ({} : Tally ι).Joins [] where
  items := rfl
  granted := nofun
  position := by simp

theorem Joins.mem_iff (h : t.Joins given) {item : ι} :
    (∃ i, t.positions.lookup item = some i) ↔ item ∈ given.map Prod.fst := by
  simp only [h.position, ← List.mem_iff_getElem?]
  rw [h.items, List.mem_eraseDups]

/-- An item stands in one position only. -/
theorem Joins.nodup (h : t.Joins given) : (t.verdicts.map Prod.fst).Nodup := by
  refine List.nodup_iff_getElem?_ne_getElem?.2 fun i j lt bound same => ?_
  obtain ⟨item, here⟩ : ∃ item, (t.verdicts.map Prod.fst)[j]? = some item :=
    ⟨_, List.getElem?_eq_getElem bound⟩
  have first := (h.position item i).2 (same.trans here)
  have second := (h.position item j).2 here
  have : i = j := Option.some.inj (first.symm.trans second)
  omega

/-- The verdict on an item that was met before only changes what stands in its position. -/
theorem Joins.add_known (h : t.Joins given) {verdict : ι × Bool} {i : Nat}
    (known : t.positions.lookup verdict.1 = some i) :
    (t.add verdict).Joins (given ++ [verdict]) := by
  have stands := (h.position verdict.1 i).1 known
  have met : verdict.1 ∈ given.map Prod.fst := h.mem_iff.1 ⟨i, known⟩
  rw [Tally.add, known]
  dsimp only
  have same : (t.verdicts.modify i fun old => (old.1, old.2 || verdict.2)).map Prod.fst =
      t.verdicts.map Prod.fst := by
    refine List.ext_getElem? fun j => ?_
    simp only [List.getElem?_map, List.getElem?_modify]
    cases t.verdicts[j]? with
    | none => rfl
    | some old => simp [apply_ite Prod.fst]
  refine ⟨?_, fun v mem => ?_, fun item j => ?_⟩
  · rw [same, h.items, List.map_append, List.map_singleton, eraseDups_append_singleton, if_pos met]
  · obtain ⟨j, here⟩ := List.mem_iff_getElem?.1 mem
    rw [List.getElem?_modify, Option.map_eq_map, Option.map_eq_some_iff] at here
    obtain ⟨old, there, rfl⟩ := here
    have before := h.granted old (List.mem_of_getElem? there)
    have item : (t.verdicts.map Prod.fst)[j]? = some old.1 := by rw [List.getElem?_map, there]; rfl
    rw [Verdicts.grants_append_singleton]
    split
    next at_position =>
      subst at_position
      have : old.1 = verdict.1 := Option.some.inj (item.symm.trans stands)
      simp [before, this]
    next other =>
      have : verdict.1 ≠ old.1 := by
        intro own
        have again := (h.position old.1 j).2 item
        rw [← own, known] at again
        exact other (Option.some.inj again)
      simp [before, this]
  · rw [same]
    exact h.position item j

/-- The verdict on a new item goes to the end. -/
theorem Joins.add_new (h : t.Joins given) {verdict : ι × Bool}
    (new : t.positions.lookup verdict.1 = none) : (t.add verdict).Joins (given ++ [verdict]) := by
  have unmet : verdict.1 ∉ given.map Prod.fst := by
    rw [← h.mem_iff]
    simp [new]
  have absent : verdict.1 ∉ t.verdicts.map Prod.fst := by
    rwa [h.items, List.mem_eraseDups]
  rw [Tally.add, new]
  refine ⟨?_, fun v mem => ?_, fun item j => ?_⟩
  · rw [List.map_append, h.items, List.map_append, List.map_singleton, eraseDups_append_singleton,
      if_neg unmet]
  · rw [Verdicts.grants_append_singleton]
    rcases List.mem_append.1 mem with mem | mem
    · have : verdict.1 ≠ v.1 := fun own => absent (own ▸ List.mem_map_of_mem mem)
      simp [h.granted v mem, this]
    · obtain rfl := List.mem_singleton.1 mem
      have : given.grants v.1 = false := by
        rw [Bool.eq_false_iff, ne_eq, Verdicts.grants_iff]
        exact fun granted => unmet (List.mem_map.2 ⟨_, granted, rfl⟩)
      simp [this]
  · rw [List.lookup_cons, List.map_append, List.map_singleton]
    by_cases own : item = verdict.1
    · subst own
      simp only [beq_self_eq_true]
      grind
    · have other : (item == verdict.1) = false := by simpa using own
      simp only [other, h.position]
      grind

theorem Joins.add (h : t.Joins given) (verdict : ι × Bool) :
    (t.add verdict).Joins (given ++ [verdict]) := by
  cases found : t.positions.lookup verdict.1 with
  | some i => exact h.add_known found
  | none => exact h.add_new found

theorem Joins.addAll (h : t.Joins given) (more : Verdicts ι) :
    (more.foldl Tally.add t).Joins (given ++ more) := by
  induction more generalizing t given with
  | nil => simpa using h
  | cons verdict more ih => simpa using ih (h.add verdict)

end Tally

namespace Verdicts

theorem joins_join (given : Verdicts ι) : (given.foldl Tally.add {}).Joins given := by
  simpa using Tally.Joins.nil.addAll given

/-- The joint verdicts: one for each item, in order of first appearance, which grants it if any
verdict does. -/
theorem join_eq (given : Verdicts ι) :
    given.join = (given.map Prod.fst).eraseDups.map fun item => (item, given.grants item) := by
  have h := joins_join given
  rw [← h.items, List.map_map]
  calc given.join
    _ = given.join.map id := (List.map_id _).symm
    _ = given.join.map ((fun item => (item, given.grants item)) ∘ Prod.fst) :=
      List.map_congr_left fun verdict mem => Prod.ext rfl (h.granted verdict mem)

theorem mem_join_iff {given : Verdicts ι} {verdict : ι × Bool} :
    verdict ∈ given.join ↔
      verdict.1 ∈ given.map Prod.fst ∧ verdict.2 = given.grants verdict.1 := by
  rw [join_eq]
  simp only [List.mem_map, List.mem_eraseDups]
  constructor
  · rintro ⟨item, met, rfl⟩
    exact ⟨met, rfl⟩
  · rintro ⟨met, same⟩
    exact ⟨verdict.1, met, Prod.ext rfl same.symm⟩

theorem nodup_join (given : Verdicts ι) : (given.join.map Prod.fst).Nodup :=
  (joins_join given).nodup

/-! ## Several voices on the same items -/

theorem grants_flatten {answers : List (Verdicts ι)} {item : ι} :
    Verdicts.grants answers.flatten item = answers.any (·.grants item) := by
  simp only [grants, List.any_flatten]

theorem grants_map {items : List ι} {f : ι → Bool} {item : ι} (mem : item ∈ items) :
    Verdicts.grants (items.map fun i => (i, f i)) item = f item := by
  rw [Bool.eq_iff_iff, grants_iff, List.mem_map]
  constructor
  · rintro ⟨i, -, same⟩
    obtain ⟨rfl, granted⟩ := Prod.mk.inj same
    exact granted
  · intro granted
    exact ⟨item, mem, by rw [granted]⟩

theorem eraseDups_flatten {lists : List (List ι)} {items : List ι} (nonempty : lists ≠ [])
    (same : ∀ l ∈ lists, l = items) : lists.flatten.eraseDups = items.eraseDups := by
  obtain ⟨first, rest, rfl⟩ := List.exists_cons_of_ne_nil nonempty
  obtain ⟨rfl, same⟩ := List.forall_mem_cons.1 same
  have repeated : rest.flatten.removeAll first = [] := by
    rw [List.removeAll, List.filter_eq_nil_iff]
    intro item mem
    obtain ⟨l, listed, mem⟩ := List.mem_flatten.1 mem
    simpa [← same l listed] using mem
  rw [List.flatten_cons, List.eraseDups_append, repeated, List.eraseDups_nil, List.append_nil]

/-- Where all voices speak of the same items in the same order, the joint verdicts are one for each
distinct item, in this order. -/
theorem join_flatten {answers : List (Verdicts ι)} {items : List ι} (nonempty : answers ≠ [])
    (same : ∀ answer ∈ answers, answer.map Prod.fst = items) :
    Verdicts.join answers.flatten =
      items.eraseDups.map fun item => (item, answers.any (·.grants item)) := by
  have keys : (answers.map (·.map Prod.fst)).flatten.eraseDups = items.eraseDups :=
    eraseDups_flatten (by simpa using nonempty) (by simpa using same)
  rw [join_eq, List.map_flatten, keys]
  simp only [grants_flatten]

end Verdicts

/-! ## Combining verdicts -/

namespace Operator

variable {ι : Type}

/-- What it takes of the items that a property holds under an operator. -/
def Requires (operator : Operator) (P : ι → Prop) (items : List ι) : Prop :=
  match operator with
  | all => ∀ item ∈ items, P item
  | any => ∃ item ∈ items, P item

theorem apply_map_iff {operator : Operator} {grants : ι → Bool} {items : List ι} :
    operator.apply (items.map grants) ↔ operator.Requires (grants ·) items := by
  cases operator <;> simp [apply, Requires]

end Operator

end Gatehouse
