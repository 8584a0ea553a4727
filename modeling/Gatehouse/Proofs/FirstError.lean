/-!
# The first error

An operation that can fail is done for each member of a list until it fails for one. `FirstError`
tells which error that is; `mapM_eq_error_iff` and `mapM_eq_ok_iff` say what the whole comes to.
-/

namespace Gatehouse

variable {ε : Type u} {α : Type v} {β : Type w}

/-- The error of the first member of a list for which an operation fails. -/
inductive FirstError (f : α → Except ε β) : List α → ε → Prop
  | here {a : α} {l : List α} {e : ε} (failed : f a = .error e) : FirstError f (a :: l) e
  | later {a : α} {b : β} {l : List α} {e : ε} (passed : f a = .ok b) (rest : FirstError f l e) :
    FirstError f (a :: l) e

namespace FirstError

variable {f : α → Except ε β} {a : α} {l : List α} {e : ε}

theorem not_nil : ¬ FirstError f [] e := nofun

theorem cons_iff :
    FirstError f (a :: l) e ↔ f a = .error e ∨ (∃ b, f a = .ok b) ∧ FirstError f l e := by
  constructor
  · rintro (failed | ⟨passed, rest⟩)
    · exact .inl failed
    · exact .inr ⟨⟨_, passed⟩, rest⟩
  · rintro (failed | ⟨⟨b, passed⟩, rest⟩)
    · exact .here failed
    · exact .later passed rest

theorem cons_of_ok {b : β} (h : f a = .ok b) : FirstError f (a :: l) e ↔ FirstError f l e := by
  simp [cons_iff, h]

theorem cons_of_error {d : ε} (h : f a = .error d) : FirstError f (a :: l) e ↔ d = e := by
  simp [cons_iff, h]

theorem append_iff {m : List α} :
    FirstError f (l ++ m) e ↔
      FirstError f l e ∨ (∀ a ∈ l, ∃ b, f a = .ok b) ∧ FirstError f m e := by
  induction l with
  | nil => simp [not_nil]
  | cons a l ih =>
    rw [List.cons_append]
    cases h : f a with
    | error d => simp [cons_of_error h, h]
    | ok b => simp [cons_of_ok h, h, ih]

/-- There is a first error where any member fails. -/
theorem exists_iff : (∃ e, FirstError f l e) ↔ ∃ a ∈ l, ∃ e, f a = .error e := by
  induction l with
  | nil => simp [not_nil]
  | cons a l ih =>
    cases h : f a with
    | error d => simp [cons_of_error h, h]
    | ok b => simp [cons_of_ok h, h, ih]

theorem forall_ok_iff : (∀ a ∈ l, ∃ b, f a = .ok b) ↔ ¬ ∃ e, FirstError f l e := by
  rw [exists_iff]
  constructor
  · rintro ok ⟨a, mem, e, failed⟩
    obtain ⟨b, passed⟩ := ok a mem
    rw [passed] at failed
    contradiction
  · intro none a mem
    cases h : f a with
    | error e => exact absurd ⟨a, mem, e, h⟩ none
    | ok b => exact ⟨b, rfl⟩

theorem iff_exists_append :
    FirstError f l e ↔ ∃ before a after, l = before ++ a :: after ∧
      (∀ b ∈ before, ∃ c, f b = .ok c) ∧ f a = .error e := by
  constructor
  · intro h
    induction h with
    | here failed => exact ⟨[], _, _, rfl, by simp, failed⟩
    | later passed rest ih =>
      obtain ⟨before, a, after, rfl, all, failed⟩ := ih
      exact ⟨_ :: before, a, after, rfl, List.forall_mem_cons.2 ⟨⟨_, passed⟩, all⟩, failed⟩
  · rintro ⟨before, a, after, rfl, all, failed⟩
    exact append_iff.2 (.inr ⟨all, .here failed⟩)

/-- Members for which the operation passes can be left out. -/
theorem filter_iff {p : α → Bool} (passed : ∀ a ∈ l, p a = false → ∃ b, f a = .ok b) :
    FirstError f (l.filter p) e ↔ FirstError f l e := by
  induction l with
  | nil => rfl
  | cons a l ih =>
    have ih := ih fun b mem => passed b (List.mem_cons_of_mem a mem)
    cases kept : p a with
    | false =>
      obtain ⟨b, h⟩ := passed a List.mem_cons_self kept
      rw [List.filter_cons_of_neg (by simp [kept]), cons_of_ok h, ih]
    | true => rw [List.filter_cons_of_pos kept, cons_iff, cons_iff, ih]

/-- Repeated members do not matter. -/
theorem eraseDups_iff [BEq α] [LawfulBEq α] {l : List α} :
    FirstError f l.eraseDups e ↔ FirstError f l e := by
  match l with
  | [] => rfl
  | a :: l =>
    rw [List.eraseDups_cons, cons_iff, cons_iff, eraseDups_iff]
    refine or_congr_right (and_congr_right fun ok => filter_iff fun b _ same => ?_)
    rw [show b = a by simpa using same]
    exact ok
termination_by l.length
decreasing_by exact Nat.lt_succ_of_le (List.length_filter_le _ _)

/-- Where the operation does another one for a list, the errors are those of the other one. -/
theorem flatMap_iff {γ : Type x} {δ : Type y} {g : γ → Except ε δ} {parts : α → List γ}
    (h : ∀ a e, f a = .error e ↔ FirstError g (parts a) e) :
    FirstError g (l.flatMap parts) e ↔ FirstError f l e := by
  induction l with
  | nil => simp [not_nil]
  | cons a l ih =>
    have passes : (∀ c ∈ parts a, ∃ d, g c = .ok d) ↔ ∃ b, f a = .ok b := by
      rw [forall_ok_iff]
      simp only [← h]
      cases f a <;> simp
    rw [List.flatMap_cons, append_iff, cons_iff, ih, h, passes]

end FirstError

/-! ## Doing it for all members -/

section MapM

variable {f : α → Except ε β} {l : List α}

theorem mapM_eq_error_iff {e : ε} : l.mapM f = .error e ↔ FirstError f l e := by
  induction l with
  | nil => simp [FirstError.not_nil, pure, Except.pure]
  | cons a l ih =>
    rw [List.mapM_cons]
    cases h : f a with
    | error d => simp [FirstError.cons_of_error h, bind, Except.bind]
    | ok b =>
      rw [FirstError.cons_of_ok h, ← ih]
      cases l.mapM f <;> simp [bind, Except.bind, pure, Except.pure]

theorem mapM_eq_ok_iff {r : List β} : l.mapM f = .ok r ↔ l.map f = r.map .ok := by
  induction l generalizing r with
  | nil => cases r <;> simp [pure, Except.pure]
  | cons a l ih =>
    rw [List.mapM_cons]
    cases h : f a with
    | error d => cases r <;> simp [bind, Except.bind, h]
    | ok b =>
      cases r with
      | nil => cases l.mapM f <;> simp [bind, Except.bind, pure, Except.pure]
      | cons c r =>
        have ih := ih (r := r)
        cases hl : l.mapM f <;> simp_all [bind, Except.bind, pure, Except.pure]

theorem exists_mapM_eq_ok_iff : (∃ r, l.mapM f = .ok r) ↔ ∀ a ∈ l, ∃ b, f a = .ok b := by
  rw [FirstError.forall_ok_iff]
  simp only [← mapM_eq_error_iff]
  cases l.mapM f <;> simp

theorem forM_eq_ok_iff {f : α → Except ε PUnit} {l : List α} :
    l.forM f = .ok ⟨⟩ ↔ ∀ a ∈ l, f a = .ok ⟨⟩ := by
  induction l with
  | nil => exact iff_of_true rfl (by simp)
  | cons a l ih =>
    have step : (a :: l).forM f = f a >>= fun _ => l.forM f := rfl
    rw [step, List.forall_mem_cons, ← ih]
    cases f a with
    | error e => exact iff_of_false nofun (by simp)
    | ok => simp [bind, Except.bind]

theorem forM_eq_error_iff {f : α → Except ε PUnit} {l : List α} {e : ε} :
    l.forM f = .error e ↔ FirstError f l e := by
  induction l with
  | nil => exact iff_of_false nofun FirstError.not_nil
  | cons a l ih =>
    have step : (a :: l).forM f = f a >>= fun _ => l.forM f := rfl
    rw [step]
    cases h : f a with
    | error d => simp [FirstError.cons_of_error h, bind, Except.bind]
    | ok => rw [FirstError.cons_of_ok h, ← ih]; rfl

end MapM

end Gatehouse
