import Gatehouse.Proofs.Site.Running

/-!
# What operations keep

`Action.Keeps` and `Check.Keeps` say that an operation keeps a property of the site, and
`Check.Yields` that moreover it does not fail and gives a certain result. `Action.Quiet` says that
it leaves alone what most properties are about. All are shown part by part.
-/

namespace Gatehouse

variable {σ α β : Type} {P : Site σ → Prop}

/-- From a site with the property the operation leads to one with it. -/
def Action.Keeps (P : Site σ → Prop) (x : Action σ α) : Prop := ∀ s, P s → P (x.run s).2

namespace Action.Keeps

theorem pure (a : α) : Keeps P (Pure.pure a) := fun _ h => h

theorem get : Keeps P (MonadState.get : Action σ (Site σ)) := fun _ h => h

theorem bind {x : Action σ α} {f : α → Action σ β} (hx : Keeps P x) (hf : ∀ a, Keeps P (f a)) :
    Keeps P (x >>= f) := fun s h => hf _ _ (hx s h)

theorem forM {f : α → Action σ PUnit} {l : List α} (h : ∀ a ∈ l, Keeps P (f a)) :
    Keeps P (l.forM f) := by
  induction l with
  | nil => exact pure _
  | cons a l ih =>
    have first := h a List.mem_cons_self
    exact first.bind fun _ => ih fun b mem => h b (List.mem_cons_of_mem a mem)

theorem mapM {f : α → Action σ β} {l : List α} (h : ∀ a ∈ l, Keeps P (f a)) :
    Keeps P (l.mapM f) := by
  induction l with
  | nil => exact pure _
  | cons a l ih =>
    rw [List.mapM_cons]
    refine (h a List.mem_cons_self).bind fun b => ?_
    exact (ih fun b mem => h b (List.mem_cons_of_mem a mem)).bind fun _ => pure _

end Action.Keeps

/-- The sites have the same stores, caches and names. -/
structure Site.Beside (s t : Site σ) : Prop where
  stores : t.stores = s.stores
  caches : t.caches = s.caches
  names : t.names = s.names

/-- The operation leaves stores, caches and names alone. -/
def Action.Quiet (x : Action σ α) : Prop := ∀ s : Site σ, s.Beside (x.run s).2

namespace Action.Quiet

theorem pure (a : α) : Quiet (Pure.pure a : Action σ α) := fun _ => ⟨rfl, rfl, rfl⟩

theorem bind {x : Action σ α} {f : α → Action σ β} (hx : x.Quiet) (hf : ∀ a, (f a).Quiet) :
    (x >>= f).Quiet := by
  intro s
  have first := hx s
  have last := hf (x.run s).1 (x.run s).2
  exact ⟨last.stores.trans first.stores, last.caches.trans first.caches,
    last.names.trans first.names⟩

theorem forM {f : α → Action σ PUnit} {l : List α} (h : ∀ a, (f a).Quiet) : (l.forM f).Quiet := by
  induction l with
  | nil => exact pure _
  | cons a l ih => exact bind (h a) fun _ => ih

end Action.Quiet

namespace Site

theorem quiet_record (happening : Happening) : (record happening : Action σ Unit).Quiet :=
  fun _ => ⟨rfl, rfl, rfl⟩

theorem quiet_changeBus (bus : Nat) (f : Bus (Handler σ) → Bus (Handler σ)) :
    (changeBus bus f).Quiet := fun _ => ⟨rfl, rfl, rfl⟩

theorem quiet_newBus : (newBus : Action σ Nat).Quiet := fun _ => ⟨rfl, rfl, rfl⟩

theorem quiet_newCounter : (newCounter : Action σ Nat).Quiet := fun _ => ⟨rfl, rfl, rfl⟩

theorem quiet_warnUnfiled (grants : List Grant) : (warnUnfiled grants : Action σ Unit).Quiet :=
  .forM fun _ => quiet_record _

end Site

/-- Whether it fails or not, the operation leads from a site with the property to one with it. -/
def Check.Keeps (P : Site σ → Prop) (x : Check σ α) : Prop := Action.Keeps P x.run

namespace Check.Keeps

theorem pure (a : α) : Keeps P (Pure.pure a) := fun _ h => h

theorem throw (e : AccessError) : Keeps P (MonadExcept.throw e : Check σ α) := fun _ h => h

theorem bind {x : Check σ α} {f : α → Check σ β} (hx : Keeps P x) (hf : ∀ a, Keeps P (f a)) :
    Keeps P (x >>= f) := by
  intro s hs
  have ht := hx s hs
  rcases ran : x.run.run s with ⟨e | a, t⟩
  · rw [Check.run_bind_of_error ran]
    rw [ran] at ht
    exact ht
  · rw [Check.run_bind_of_ok ran]
    rw [ran] at ht
    exact hf a t ht

theorem lift {x : Action σ α} (h : x.Keeps P) : Keeps P (ExceptT.lift x) := h

theorem ofExcept (o : Except AccessError α) : Keeps P (liftM o : Check σ α) := by
  cases o
  · exact throw _
  · exact pure _

theorem tryCatch {x : Check σ α} {handle : AccessError → Check σ α} (hx : Keeps P x)
    (hh : ∀ e, Keeps P (handle e)) : Keeps P (MonadExcept.tryCatch x handle) := by
  intro s hs
  have ht := hx s hs
  rcases ran : x.run.run s with ⟨e | a, t⟩
  · rw [ran] at ht
    change P ((MonadExcept.tryCatch x handle).run.run s).2
    rw [Check.run_tryCatch_of_error ran]
    exact hh e t ht
  · rw [ran] at ht
    change P ((MonadExcept.tryCatch x handle).run.run s).2
    rw [Check.run_tryCatch_of_ok ran]
    exact ht

theorem mapM {f : α → Check σ β} {l : List α} (h : ∀ a ∈ l, Keeps P (f a)) :
    Keeps P (l.mapM f) := by
  induction l with
  | nil => exact pure _
  | cons a l ih =>
    rw [List.mapM_cons]
    refine (h a List.mem_cons_self).bind fun b => ?_
    exact (ih fun b mem => h b (List.mem_cons_of_mem a mem)).bind fun _ => pure _

theorem forM {f : α → Check σ PUnit} {l : List α} (h : ∀ a ∈ l, Keeps P (f a)) :
    Keeps P (l.forM f) := by
  induction l with
  | nil => exact pure _
  | cons a l ih =>
    refine bind (h a List.mem_cons_self) fun _ => ?_
    exact ih fun b mem => h b (List.mem_cons_of_mem a mem)

end Check.Keeps

/-- From a site with the property the operation leads to one with it, and gives such a result. -/
def Check.Yields (P : Site σ → Prop) (x : Check σ α) (Q : α → Prop) : Prop :=
  ∀ s, P s → ∃ a t, x.run.run s = (.ok a, t) ∧ Q a ∧ P t

namespace Check.Yields

variable {Q : α → Prop} {R : β → Prop}

theorem keeps {x : Check σ α} (h : Yields P x Q) : x.Keeps P := by
  intro s hs
  obtain ⟨a, t, ran, -, ht⟩ := h s hs
  rw [ran]
  exact ht

theorem pure {a : α} (h : Q a) : Yields P (Pure.pure a) Q := fun s hs => ⟨a, s, rfl, h, hs⟩

theorem bind {x : Check σ α} {f : α → Check σ β} (hx : Yields P x Q)
    (hf : ∀ a, Q a → Yields P (f a) R) : Yields P (x >>= f) R := by
  intro s hs
  obtain ⟨a, t, ran, ha, ht⟩ := hx s hs
  rw [Check.run_bind_of_ok ran]
  exact hf a ha t ht

theorem lift {x : Action σ α} (h : x.Keeps P) : Yields P (ExceptT.lift x) fun _ => True :=
  fun s hs => ⟨_, _, rfl, trivial, h s hs⟩

theorem ofExcept {o : Except AccessError α} {a : α} (h : o = .ok a) (ha : Q a) :
    Yields P (liftM o : Check σ α) Q := by
  subst h
  exact pure ha

theorem mapM {f : α → Check σ β} {g : α → β} {l : List α}
    (h : ∀ a ∈ l, Yields P (f a) (· = g a)) : Yields P (l.mapM f) (· = l.map g) := by
  induction l with
  | nil => exact pure rfl
  | cons a l ih =>
    rw [List.mapM_cons]
    refine (h a List.mem_cons_self).bind fun b hb => ?_
    refine (ih fun b mem => h b (List.mem_cons_of_mem a mem)).bind fun bs hbs => ?_
    exact pure (by rw [hb, hbs, List.map_cons])

theorem forM {f : α → Check σ PUnit} {l : List α}
    (h : ∀ a ∈ l, Yields P (f a) fun _ => True) : Yields P (l.forM f) fun _ => True := by
  induction l with
  | nil => exact pure trivial
  | cons a l ih =>
    refine bind (h a List.mem_cons_self) fun _ _ => ?_
    exact ih fun b mem => h b (List.mem_cons_of_mem a mem)

end Check.Yields

end Gatehouse
