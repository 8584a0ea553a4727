import Gatehouse.Site

/-!
# Running operations

What an operation on a site gives, and where it leaves the site, told from its parts.
-/

namespace Gatehouse

variable {σ α β : Type} {s t : Site σ}

/-! ## Operations that cannot fail -/

namespace Action

theorem run_get_bind {f : Site σ → Action σ β} : (get >>= f).run s = (f s).run s := rfl

variable {f : α → Action σ Unit}

theorem run_forM_nil : (List.forM [] f).run s = ((), s) := rfl

theorem run_forM_cons {a : α} {l : List α} :
    (List.forM (a :: l) f).run s = (List.forM l f).run ((f a).run s).2 := rfl

end Action

/-! ## Operations that can fail -/

namespace Check

section

variable {ε : Type} {x : ExceptT ε (Action σ) α} {f : α → ExceptT ε (Action σ) β}

theorem run_bind_of_ok {a : α} (h : x.run.run s = (.ok a, t)) :
    (x >>= f).run.run s = (f a).run.run t := by
  rw [ExceptT.run_bind, StateT.run_bind, h]
  rfl

theorem run_bind_of_error {e : ε} (h : x.run.run s = (.error e, t)) :
    (x >>= f).run.run s = (.error e, t) := by
  rw [ExceptT.run_bind, StateT.run_bind, h]
  rfl

end

/-- It does not matter to the site whether the result is used. -/
theorem run_discard_snd {x : Check σ α} :
    ((do let _ ← x : Check σ Unit).run.run s).2 = (x.run.run s).2 := by
  rcases ran : x.run.run s with ⟨e | a, t⟩
  · rw [run_bind_of_error ran]
  · rw [run_bind_of_ok ran]
    rfl

theorem run_get_bind {f : Site σ → Check σ β} : (get >>= f).run.run s = (f s).run.run s := rfl

theorem run_lift_bind {x : Action σ α} {f : α → Check σ β} :
    (ExceptT.lift x >>= f).run.run s = (f (x.run s).1).run.run (x.run s).2 := rfl

theorem run_tryCatch_of_ok {x : Check σ α} {handle : AccessError → Check σ α} {a : α}
    (h : x.run.run s = (.ok a, t)) : (tryCatch x handle).run.run s = (.ok a, t) := by
  change (ExceptT.tryCatch x handle).run.run s = _
  change StateT.run x s = _ at h
  rw [ExceptT.tryCatch, ExceptT.run_mk, StateT.run_bind, h]
  rfl

theorem run_tryCatch_of_error {x : Check σ α} {handle : AccessError → Check σ α} {e : AccessError}
    (h : x.run.run s = (.error e, t)) :
    (tryCatch x handle).run.run s = (handle e).run.run t := by
  change (ExceptT.tryCatch x handle).run.run s = _
  change StateT.run x s = _ at h
  rw [ExceptT.tryCatch, ExceptT.run_mk, StateT.run_bind, h]
  rfl

end Check

/-! ## The primitive operations -/

namespace Site

@[simp] theorem run_record {h : Happening} :
    (record h : Action σ Unit).run s = ((), { s with trace := s.trace ++ [h] }) := rfl

@[simp] theorem run_changeStore {store : Nat} {f : Store σ → Store σ} :
    (changeStore store f).run s = ((), { s with stores := s.stores.update store f }) := rfl

/-- Warnings of grants without a domain only add to the record. -/
theorem run_warnUnfiled (grants : List Grant) :
    (warnUnfiled grants : Action σ Unit).run s =
      ((), { s with
        trace := s.trace ++ (Clearance.unfiled grants).map (.warned <| .unfiled ·) }) := by
  rw [warnUnfiled]
  generalize Clearance.unfiled grants = l
  induction l generalizing s with
  | nil => rw [Action.run_forM_nil, List.map_nil, List.append_nil]
  | cons grant l ih =>
    rw [Action.run_forM_cons, ih, warn, run_record, List.append_assoc, List.map_cons,
      List.singleton_append]

/-- The sites have the same stores, caches and buses. -/
structure Alike (s t : Site σ) : Prop where
  stores : t.stores = s.stores
  caches : t.caches = s.caches
  buses : t.buses = s.buses

theorem Alike.trans {u : Site σ} (h : s.Alike t) (after : t.Alike u) : s.Alike u :=
  ⟨after.stores.trans h.stores, after.caches.trans h.caches, after.buses.trans h.buses⟩

end Site

end Gatehouse
