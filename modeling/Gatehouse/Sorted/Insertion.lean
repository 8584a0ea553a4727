/-!
# Insertion into ascending lists

A list is ascending by a key when the keys of its elements increase strictly. Insertion puts an
element where its key belongs and replaces the element that held the key before.

`Ascending.insertBy` keeps the order, `mem_insertBy` says what the result holds, and `Ascending.ext`
says that an ascending list is determined by its elements.
-/

namespace Gatehouse.Sorted

variable {α : Type u} {κ : Type v} [Ord κ]

/-- The keys of the list increase strictly. -/
def Ascending (key : α → κ) (l : List α) : Prop :=
  l.Pairwise fun a b => compare (key a) (key b) = .lt

/-- Puts `x` where its key belongs, in place of an element with the same key. -/
def insertBy (key : α → κ) (x : α) : List α → List α
  | [] => [x]
  | y :: ys =>
    match compare (key x) (key y) with
    | .lt => x :: y :: ys
    | .eq => x :: ys
    | .gt => y :: insertBy key x ys

theorem mem_of_mem_insertBy {key : α → κ} {x z : α} {l : List α} (h : z ∈ insertBy key x l) :
    z = x ∨ z ∈ l := by
  induction l with
  | nil => simpa [insertBy] using h
  | cons y ys ih =>
    simp only [insertBy] at h
    split at h
    · simpa using h
    · rcases List.mem_cons.1 h with h | h
      · exact .inl h
      · exact .inr (List.mem_cons_of_mem _ h)
    · rcases List.mem_cons.1 h with h | h
      · exact .inr (h ▸ List.mem_cons_self)
      · exact (ih h).imp_right (List.mem_cons_of_mem _)

theorem Ascending.insertBy [Std.TransOrd κ] {key : α → κ} {l : List α} (h : Ascending key l)
    (x : α) : Ascending key (insertBy key x l) := by
  induction l with
  | nil => exact List.pairwise_singleton ..
  | cons y ys ih =>
    obtain ⟨first, rest⟩ := List.pairwise_cons.1 h
    simp only [Sorted.insertBy]
    split
    next lt =>
      refine List.pairwise_cons.2 ⟨fun z hz => ?_, h⟩
      rcases List.mem_cons.1 hz with rfl | hz
      · exact lt
      · exact Std.TransCmp.lt_trans lt (first z hz)
    next eq =>
      refine List.pairwise_cons.2 ⟨fun z hz => ?_, rest⟩
      exact Std.TransCmp.lt_of_eq_of_lt eq (first z hz)
    next gt =>
      refine List.pairwise_cons.2 ⟨fun z hz => ?_, ih rest⟩
      rcases mem_of_mem_insertBy hz with rfl | hz
      · exact Std.OrientedCmp.lt_of_gt gt
      · exact first z hz

/-- An element with the same key is replaced, every other one stays. -/
theorem mem_insertBy [Std.TransOrd κ] [Std.LawfulEqOrd κ] {key : α → κ} {l : List α}
    (h : Ascending key l) {x z : α} :
    z ∈ insertBy key x l ↔ z = x ∨ z ∈ l ∧ key z ≠ key x := by
  induction l with
  | nil => simp [insertBy]
  | cons y ys ih =>
    obtain ⟨first, rest⟩ := List.pairwise_cons.1 h
    have distinct {a b : κ} (lt : compare a b = .lt) : a ≠ b := by
      rintro rfl
      simp at lt
    simp only [insertBy]
    split
    next lt =>
      have later : ∀ z ∈ y :: ys, key z ≠ key x := by
        intro z hz
        rcases List.mem_cons.1 hz with rfl | hz
        · exact (distinct lt).symm
        · exact (distinct (Std.TransCmp.lt_trans lt (first z hz))).symm
      grind
    next eq =>
      have same := Std.LawfulEqOrd.eq_of_compare eq
      have later : ∀ z ∈ ys, key z ≠ key x := fun z hz => same ▸ (distinct (first z hz)).symm
      grind
    next gt =>
      have : key y ≠ key x := distinct (Std.OrientedCmp.lt_of_gt gt)
      have := ih rest
      grind

/-- Ascending lists with the same elements are equal. -/
theorem Ascending.ext [Std.TransOrd κ] {key : α → κ} {l m : List α} (hl : Ascending key l)
    (hm : Ascending key m) (same : ∀ x, x ∈ l ↔ x ∈ m) : l = m := by
  have irrefl (a : α) : compare (key a) (key a) ≠ .lt := by simp
  induction l generalizing m with
  | nil => exact (List.eq_nil_iff_forall_not_mem.2 fun x hx => by simpa using (same x).2 hx).symm
  | cons a l ih =>
    cases m with
    | nil => simpa using (same a).1
    | cons b m =>
      obtain ⟨firstA, restA⟩ := List.pairwise_cons.1 hl
      obtain ⟨firstB, restB⟩ := List.pairwise_cons.1 hm
      have head : a = b := by
        have ha : a = b ∨ a ∈ m := by simpa using (same a).1 List.mem_cons_self
        have hb : b = a ∨ b ∈ l := by simpa using (same b).2 List.mem_cons_self
        rcases ha with ha | ha
        · exact ha
        rcases hb with hb | hb
        · exact hb.symm
        exact absurd (Std.TransCmp.lt_trans (firstA b hb) (firstB a ha)) (irrefl a)
      subst head
      have tail : l = m := by
        refine ih restA restB fun x => ?_
        have hx := same x
        have notA : x ∈ l → x ≠ a := fun h e => irrefl a (e ▸ firstA x h)
        have notB : x ∈ m → x ≠ a := fun h e => irrefl a (e ▸ firstB x h)
        grind
      rw [tail]

end Gatehouse.Sorted
