import Gatehouse.Account
import Gatehouse.Proofs.Clearance.Judgement

/-!
# The clearance of an account

Where every permission text of an account can be read, its clearance always gives a judgement, and
that is the one which can be told from the texts.
-/

namespace Gatehouse

namespace Account

variable {a : Account}

/-- Every permission text of the account is a permission. -/
def Sound (a : Account) : Prop := ∀ text ∈ a.permissions, ∃ p, Permission.parse text = .ok p

/-- One of the permission texts implies the request. -/
def implies (a : Account) (requested : Permission) : Bool := a.grants.any (·.implies requested)

theorem implies_iff {requested : Permission} :
    a.implies requested ↔
      ∃ text ∈ a.permissions, ∃ p, Permission.parse text = .ok p ∧ p.implies requested := by
  simp only [implies, grants, List.any_map, List.any_eq_true, Function.comp_apply,
    Grant.implies_iff]
  rfl

theorem mem_roles_clearance {role : String} : role ∈ a.clearance.roles ↔ role ∈ a.roles := by
  rw [clearance, Clearance.ofParts, Clearance.roles_addGrants]
  simp [Clearance.addRoles, Clearance.empty, SortedSet.mem_toList]

theorem judgeRoles_clearance (roles : List String) :
    a.clearance.judgeRoles roles = roles.map fun role => (role, decide (role ∈ a.roles)) := by
  simp only [Clearance.judgeRoles, Clearance.hasRole, mem_roles_clearance]

/-- Texts that can be read are all on file. -/
theorem mem_grants_clearance (h : a.Sound) {g : Grant} :
    g ∈ a.clearance.grants ↔ ∃ text ∈ a.permissions, g = .raw text := by
  simp only [Clearance.mem_grants_iff, clearance, Clearance.mem_filed_ofParts, grants,
    List.mem_map, exists_and_left]
  constructor
  · rintro ⟨⟨text, mem, rfl⟩, -⟩
    exact ⟨text, mem, rfl⟩
  · rintro ⟨text, mem, rfl⟩
    obtain ⟨p, read⟩ := h text mem
    exact ⟨⟨text, mem, rfl⟩, Grant.exists_mem_domains (g := .raw text) read⟩

theorem scan_clearance (h : a.Sound) (requested : Permission) :
    a.clearance.scan requested = a.implies requested := by
  rw [Clearance.scan, implies, grants, Bool.eq_iff_iff, List.any_eq_true, List.any_eq_true]
  simp only [SortedSet.mem_toList, mem_grants_clearance h, List.mem_map, eq_comm]

theorem judge_clearance (h : a.Sound) (requested : List Permission) :
    a.clearance.judge requested = .ok (requested.map fun p => (p, a.implies p)) := by
  have readable : ∀ p ∈ requested, ∀ g ∈ a.clearance.consulted p, ¬ g.Broken := by
    intro p _ g mem
    obtain ⟨text, listed, rfl⟩ :=
      (mem_grants_clearance h).1 (Clearance.mem_grants_of_mem_consulted mem)
    exact Grant.not_broken_iff.2 (h text listed)
  obtain ⟨verdicts, judged⟩ := Clearance.exists_judge_eq_ok_iff.2 readable
  have orderly : a.clearance.Orderly := Clearance.orderly_ofParts _ _
  rw [judged, Clearance.judge_eq_ok orderly judged]
  simp only [scan_clearance h]

end Account

end Gatehouse
