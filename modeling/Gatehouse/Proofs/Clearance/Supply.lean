import Gatehouse.Proofs.Clearance.Filing

/-!
# What a clearance was supplied with

A clearance is supplied step by step: roles are added, grants are filed, or all grants are replaced.
What it holds can be told from the supplies alone (`Clearance.Course.holds_what_stands`): the roles
that were ever added, and the grants that `Stand`, as they were supplied and not replaced since. How
the supplies were divided, ordered or repeated leaves no trace, because `Tidy` clearances with the
same grants on file are equal.
-/

namespace Gatehouse.Clearance

/-! ## Supplies -/

/-- One step in which a clearance is supplied. -/
inductive Supply where
  | addRoles (roles : List String)
  | addGrants (grants : List Grant)
  | setGrants (grants : List Grant)

namespace Supply

def apply (c : Clearance) : Supply → Clearance
  | addRoles roles => c.addRoles roles
  | addGrants grants => c.addGrants grants
  | setGrants grants => c.setGrants grants

def roles : Supply → List String
  | addRoles roles => roles
  | _ => []

def grants : Supply → List Grant
  | addRoles _ => []
  | addGrants grants => grants
  | setGrants grants => grants

/-- The step drops the grants that were supplied before it. -/
def replaces : Supply → Bool
  | setGrants _ => true
  | _ => false

end Supply

/-- The clearance that has been supplied in these steps, in order. -/
def supplied (supplies : List Supply) : Clearance := supplies.foldl Supply.apply empty

@[simp] theorem supplied_append_singleton (supplies : List Supply) (s : Supply) :
    supplied (supplies ++ [s]) = s.apply (supplied supplies) := by
  simp [supplied]

/-- Some step added the role. -/
def Named (supplies : List Supply) (role : String) : Prop := ∃ s ∈ supplies, role ∈ s.roles

/-- Some step supplied the grant, and no later one replaced the grants. -/
def Stands (supplies : List Supply) (g : Grant) : Prop :=
  ∃ earlier s later, supplies = earlier ++ s :: later ∧ g ∈ s.grants ∧
    ∀ other ∈ later, other.replaces = false

section

variable {supplies : List Supply} {s : Supply} {g : Grant} {role domain : String} {c d : Clearance}

theorem named_append_singleton :
    Named (supplies ++ [s]) role ↔ Named supplies role ∨ role ∈ s.roles := by
  simp [Named, or_and_right, exists_or]

theorem stands_append_singleton :
    Stands (supplies ++ [s]) g ↔ g ∈ s.grants ∨ s.replaces = false ∧ Stands supplies g := by
  constructor
  · rintro ⟨earlier, t, later, eq, mem, kept⟩
    obtain rfl | ⟨later, last, rfl⟩ := later.eq_nil_or_concat'
    · obtain ⟨-, same⟩ := List.append_inj' eq rfl
      obtain rfl := List.singleton_inj.1 same
      exact .inl mem
    · rw [← List.cons_append, ← List.append_assoc] at eq
      obtain ⟨rfl, same⟩ := List.append_inj' eq rfl
      obtain rfl := List.singleton_inj.1 same
      refine .inr ⟨kept s (by simp), earlier, t, later, rfl, mem, ?_⟩
      exact fun other here => kept other (List.mem_append_left _ here)
  · rintro (mem | ⟨keeps, earlier, t, later, rfl, mem, kept⟩)
    · exact ⟨supplies, s, [], rfl, mem, by simp⟩
    · refine ⟨earlier, t, later ++ [s], by simp, mem, ?_⟩
      simpa [or_imp, forall_and, keeps] using kept

/-! ## What is held -/

theorem mem_roles_apply : role ∈ (s.apply c).roles ↔ role ∈ c.roles ∨ role ∈ s.roles := by
  cases s with
  | addRoles roles => simp [Supply.apply, Supply.roles, Clearance.addRoles, or_comm]
  | addGrants grants => simp [Supply.apply, Supply.roles, roles_addGrants]
  | setGrants grants => simp [Supply.apply, Supply.roles, setGrants, roles_addGrants]

theorem mem_filed_apply :
    g ∈ (s.apply c).filed domain ↔
      g ∈ s.grants ∧ domain ∈ g.domains ∨ s.replaces = false ∧ g ∈ c.filed domain := by
  cases s with
  | addRoles roles => simp [Supply.apply, Supply.grants, Supply.replaces, mem_filed_addRoles]
  | addGrants grants => simp [Supply.apply, Supply.grants, Supply.replaces, mem_filed_addGrants]
  | setGrants grants => simp [Supply.apply, Supply.grants, Supply.replaces, mem_filed_setGrants]

theorem mem_roles_supplied : role ∈ (supplied supplies).roles ↔ Named supplies role := by
  induction supplies using List.reverseRecOn with
  | nil => simp [supplied, empty, Named]
  | append_singleton supplies s ih =>
    rw [supplied_append_singleton, mem_roles_apply, ih, named_append_singleton]

theorem mem_filed_supplied :
    g ∈ (supplied supplies).filed domain ↔ Stands supplies g ∧ domain ∈ g.domains := by
  induction supplies using List.reverseRecOn with
  | nil => simp [supplied, empty, Stands]
  | append_singleton supplies s ih =>
    rw [supplied_append_singleton, mem_filed_apply, ih, stands_append_singleton]
    tauto

theorem mem_grants_supplied :
    g ∈ (supplied supplies).grants ↔ Stands supplies g ∧ g.domains ≠ [] := by
  simp only [mem_grants_iff, mem_filed_supplied, exists_and_left]
  refine and_congr_right fun _ => ?_
  exact ⟨fun ⟨_, mem⟩ => List.ne_nil_of_mem mem, List.exists_mem_of_ne_nil _⟩

/-! ## Tidiness -/

/-- No domain token is kept without a grant. -/
def Tidy (c : Clearance) : Prop :=
  ∀ domain bucket, c.index.find? domain = some bucket → bucket.isEmpty = false

theorem tidy_of_empty_index (roles : SortedSet String) : Tidy ⟨roles, .empty⟩ := by
  intro domain bucket found
  simp at found

theorem Tidy.fileUnder (hc : c.Tidy) (g : Grant) (domain : String) : (c.fileUnder g domain).Tidy := by
  intro other bucket found
  rw [Clearance.fileUnder, SortedMap.find?_insert] at found
  split at found
  next =>
    obtain rfl := Option.some.inj found
    exact SortedSet.isEmpty_eq_false_iff.2 ⟨g, SortedSet.mem_insert.2 (.inl rfl)⟩
  next => exact hc other bucket found

theorem Tidy.addGrants (hc : c.Tidy) (grants : List Grant) : (c.addGrants grants).Tidy :=
  List.foldlRecOn grants Clearance.file hc fun _ before g _ =>
    List.foldlRecOn g.domains (Clearance.fileUnder g) before fun _ before domain _ =>
      before.fileUnder g domain

theorem Tidy.apply (hc : c.Tidy) (s : Supply) : (s.apply c).Tidy := by
  cases s with
  | addRoles roles => exact hc
  | addGrants grants => exact hc.addGrants grants
  | setGrants grants => exact (tidy_of_empty_index c.roles).addGrants grants

theorem tidy_supplied (supplies : List Supply) : (supplied supplies).Tidy :=
  List.foldlRecOn supplies Supply.apply (tidy_of_empty_index .empty) fun _ before s _ =>
    before.apply s

theorem Tidy.mem_keys_iff (hc : c.Tidy) : domain ∈ c.index.keys ↔ ∃ g, g ∈ c.filed domain := by
  rw [SortedMap.mem_keys_iff, filed]
  cases found : c.index.find? domain with
  | none => simp
  | some bucket => simpa using SortedSet.isEmpty_eq_false_iff.1 (hc domain bucket found)

/-- A tidy index is told from what is filed. -/
theorem Tidy.find?_index (hc : c.Tidy) (domain : String) :
    c.index.find? domain = if (c.filed domain).isEmpty then none else some (c.filed domain) := by
  rw [filed]
  cases found : c.index.find? domain with
  | none => rfl
  | some bucket => simp [hc domain bucket found]

theorem Tidy.ext (hc : c.Tidy) (hd : d.Tidy) (roles : c.roles = d.roles)
    (filed : ∀ domain, c.filed domain = d.filed domain) : c = d := by
  have index : c.index = d.index := SortedMap.ext fun domain => by
    rw [hc.find?_index, hd.find?_index, filed]
  cases c
  cases d
  simp_all

theorem Tidy.isEmpty_iff (hc : c.Tidy) :
    c.isEmpty ↔ (∀ role, ¬ role ∈ c.roles) ∧ ∀ g, ¬ g ∈ c.grants := by
  have index : c.index.isEmpty ↔ ∀ g, ¬ g ∈ c.grants := by
    have keys : c.index.isEmpty ↔ ∀ domain, ¬ domain ∈ c.index.keys := by
      rw [SortedMap.isEmpty, List.isEmpty_iff, ← List.eq_nil_iff_forall_not_mem, SortedMap.keys,
        List.map_eq_nil_iff]
    simp only [keys, hc.mem_keys_iff, mem_grants_iff, not_exists]
    exact forall_comm
  rw [isEmpty, Bool.and_eq_true, SortedSet.isEmpty_iff, index]

end

/-! ## Courses -/

/-- What a clearance starts as. -/
inductive Origin where
  | empty
  | ofParts (roles : List String) (grants : List Grant)

namespace Origin

def clearance : Origin → Clearance
  | empty => .empty
  | ofParts roles grants => .ofParts roles grants

/-- To put roles and grants together is to add them to nothing. -/
def supplies : Origin → List Supply
  | empty => []
  | ofParts roles grants => [.addRoles roles, .addGrants grants]

theorem clearance_eq (origin : Origin) : origin.clearance = supplied origin.supplies := by
  cases origin <;> rfl

end Origin

/-- How a clearance came about. -/
structure Course where
  origin : Origin
  later : List Supply

namespace Course

def clearance (course : Course) : Clearance :=
  course.later.foldl Supply.apply course.origin.clearance

def supplies (course : Course) : List Supply := course.origin.supplies ++ course.later

theorem clearance_eq (course : Course) : course.clearance = supplied course.supplies := by
  rw [clearance, Origin.clearance_eq, supplied, supplied, supplies, List.foldl_append]

/-- The roles that were ever added. -/
def Roles (course : Course) (role : String) : Prop := Named course.supplies role

/-- The grants that stand and can be filed. -/
def Grants (course : Course) (g : Grant) : Prop := Stands course.supplies g ∧ g.domains ≠ []

theorem clearance_eq_iff {course other : Course} :
    course.clearance = other.clearance ↔
      (∀ role, course.Roles role ↔ other.Roles role) ∧ ∀ g, course.Grants g ↔ other.Grants g := by
  simp only [clearance_eq, Roles, Grants, ← mem_roles_supplied, ← mem_grants_supplied]
  refine ⟨fun same => by simp [same], fun ⟨roles, grants⟩ => ?_⟩
  refine (tidy_supplied _).ext (tidy_supplied _) (SortedSet.ext roles) fun domain => ?_
  refine SortedSet.ext fun g => ?_
  have held := grants g
  simp only [mem_grants_supplied] at held
  have inhabited : domain ∈ g.domains → g.domains ≠ [] := List.ne_nil_of_mem
  simp only [mem_filed_supplied]
  tauto

/-- A clearance holds the roles that were ever added and the grants that stand, each under its domain
tokens; no token is kept without a grant. So clearances are equal when their roles and grants agree,
however they came about. -/
theorem holds_what_stands (course : Course) :
    (∀ role, role ∈ course.clearance.roles ↔ course.Roles role) ∧
    (∀ g, g ∈ course.clearance.grants ↔ course.Grants g) ∧
    (∀ domain g, g ∈ course.clearance.filed domain ↔ course.Grants g ∧ domain ∈ g.domains) ∧
    (∀ domain, domain ∈ course.clearance.index.keys ↔ ∃ g, g ∈ course.clearance.filed domain) ∧
    (∀ domain bucket,
      course.clearance.index.find? domain = some bucket → bucket.isEmpty = false) ∧
    (course.clearance.isEmpty ↔ (∀ role, ¬ course.Roles role) ∧ ∀ g, ¬ course.Grants g) ∧
    (∀ other : Course, course.clearance = other.clearance ↔
      (∀ role, course.Roles role ↔ other.Roles role) ∧ ∀ g, course.Grants g ↔ other.Grants g) ∧
    (∀ grants, (course.clearance.setGrants grants).roles = course.clearance.roles) := by
  have tidy : course.clearance.Tidy := clearance_eq course ▸ tidy_supplied _
  have roles (role : String) : role ∈ course.clearance.roles ↔ course.Roles role := by
    rw [clearance_eq, mem_roles_supplied, Roles]
  have grants (g : Grant) : g ∈ course.clearance.grants ↔ course.Grants g := by
    rw [clearance_eq, mem_grants_supplied, Grants]
  refine ⟨roles, grants, fun domain g => ?_, fun domain => tidy.mem_keys_iff, tidy, ?_,
    fun other => clearance_eq_iff, fun grants => roles_addGrants _ grants⟩
  · have inhabited : domain ∈ g.domains → g.domains ≠ [] := List.ne_nil_of_mem
    rw [clearance_eq, mem_filed_supplied, Grants]
    tauto
  · rw [tidy.isEmpty_iff]
    simp only [roles, grants]

end Course

end Gatehouse.Clearance
