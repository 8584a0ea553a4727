import Gatehouse.Clearance
import Gatehouse.Proofs.Permission.Reading

/-!
# Where grants are filed

A grant is filed under each of its domain tokens, and under no other: `Orderly` says so of a
clearance, and every way of filling a clearance keeps it. The domain tokens of a text are those of
the permission that it reads as, so a grant is found wherever its permission could apply.
-/

namespace Gatehouse

theorem Permission.exists_mem_domain (p : Permission) : ∃ token, token ∈ p.domain :=
  SortedSet.isEmpty_eq_false_iff.1 (p.inhabited _ (List.head_mem p.parts_ne_nil))

namespace Grant

/-- The domain tokens told from a text alone are those of the permission. -/
theorem mem_domains_iff {g : Grant} {p : Permission} (h : g.resolve = .ok p) {token : String} :
    token ∈ g.domains ↔ token ∈ p.domain := by
  cases g with
  | parsed q => cases h; exact SortedSet.mem_toList
  | raw text =>
    have parts := Permission.parse_eq_ok_iff.1 h
    obtain ⟨first, rest, eq⟩ :=
      List.exists_cons_of_ne_nil (List.splitOn_ne_nil ':' text.toList)
    have domain : p.domain = .ofList (Tokens.read first) := by
      simp [Permission.domain, parts, Permission.partsOf, eq]
    rw [domain, SortedSet.mem_ofList, domains, eq]
    rfl

theorem exists_mem_domains {g : Grant} {p : Permission} (h : g.resolve = .ok p) :
    ∃ token, token ∈ g.domains :=
  p.exists_mem_domain.imp fun _ => (mem_domains_iff h).2

end Grant

namespace Clearance

variable {c : Clearance} {g h : Grant} {token : String}

/-! ## What is filed -/

@[simp] theorem not_mem_filed_empty {roles : SortedSet String} :
    ¬ g ∈ (⟨roles, .empty⟩ : Clearance).filed token := by
  simp [filed]

theorem mem_filed_fileUnder {domain : String} :
    h ∈ (c.fileUnder g domain).filed token ↔ h = g ∧ token = domain ∨ h ∈ c.filed token := by
  simp only [filed, fileUnder, SortedMap.find?_insert]
  by_cases same : token = domain
  · simp [same]
  · simp [same]

theorem mem_filed_file :
    h ∈ (c.file g).filed token ↔ h = g ∧ token ∈ g.domains ∨ h ∈ c.filed token := by
  have go (tokens : List String) (c : Clearance) :
      h ∈ (tokens.foldl (fileUnder g) c).filed token ↔
        h = g ∧ token ∈ tokens ∨ h ∈ c.filed token := by
    induction tokens generalizing c with
    | nil => simp
    | cons domain tokens ih =>
      rw [List.foldl_cons, ih, mem_filed_fileUnder, List.mem_cons]
      tauto
  exact go g.domains c

theorem mem_filed_addGrants {grants : List Grant} :
    g ∈ (c.addGrants grants).filed token ↔
      g ∈ grants ∧ token ∈ g.domains ∨ g ∈ c.filed token := by
  induction grants generalizing c with
  | nil => simp [addGrants]
  | cons first grants ih =>
    have step : c.addGrants (first :: grants) = (c.file first).addGrants grants := rfl
    rw [step, ih, mem_filed_file, List.mem_cons]
    constructor
    · rintro (later | ⟨rfl, here⟩ | before)
      · exact .inl ⟨.inr later.1, later.2⟩
      · exact .inl ⟨.inl rfl, here⟩
      · exact .inr before
    · rintro (⟨rfl | later, here⟩ | before)
      · exact .inr (.inl ⟨rfl, here⟩)
      · exact .inl ⟨later, here⟩
      · exact .inr (.inr before)

theorem mem_filed_setGrants {grants : List Grant} :
    g ∈ (c.setGrants grants).filed token ↔ g ∈ grants ∧ token ∈ g.domains := by
  simp [setGrants, mem_filed_addGrants]

theorem mem_filed_addRoles {roles : List String} :
    g ∈ (c.addRoles roles).filed token ↔ g ∈ c.filed token := .rfl

theorem mem_filed_ofParts {roles : List String} {grants : List Grant} :
    g ∈ (ofParts roles grants).filed token ↔ g ∈ grants ∧ token ∈ g.domains := by
  simp [ofParts, mem_filed_addGrants, empty, addRoles]

/-- Filing leaves the roles alone. -/
theorem roles_addGrants (c : Clearance) (grants : List Grant) :
    (c.addGrants grants).roles = c.roles := by
  have file (c : Clearance) (g : Grant) : (c.file g).roles = c.roles := by
    rw [Clearance.file]
    generalize g.domains = tokens
    induction tokens generalizing c with
    | nil => rfl
    | cons token tokens ih => exact ih (c.fileUnder g token)
  induction grants generalizing c with
  | nil => rfl
  | cons g grants ih => exact (ih (c.file g)).trans (file c g)

/-- A grant is on file when it is filed under some token. -/
theorem mem_grants_iff : g ∈ c.grants ↔ ∃ token, g ∈ c.filed token := by
  simp only [grants, SortedSet.mem_ofList, List.mem_flatMap, SortedSet.mem_toList]
  constructor
  · rintro ⟨⟨token, filedHere⟩, entry, mem⟩
    refine ⟨token, ?_⟩
    rw [filed, SortedMap.mem_toList_iff.1 entry]
    exact mem
  · rintro ⟨token, mem⟩
    cases found : c.index.find? token with
    | none => simp [filed, found] at mem
    | some filedHere =>
      refine ⟨(token, filedHere), SortedMap.mem_toList_iff.2 found, ?_⟩
      simpa [filed, found] using mem

/-! ## Order in the file -/

/-- What is filed anywhere is filed under each of its domain tokens, and nowhere else. -/
def Orderly (c : Clearance) : Prop :=
  ∀ g token, g ∈ c.filed token → ∀ other, g ∈ c.filed other ↔ other ∈ g.domains

theorem Orderly.addGrants (hc : c.Orderly) (grants : List Grant) :
    (c.addGrants grants).Orderly := by
  intro g token mem other
  rw [mem_filed_addGrants] at mem ⊢
  rcases mem with ⟨listed, -⟩ | before
  · refine ⟨fun h => ?_, fun h => .inl ⟨listed, h⟩⟩
    exact h.elim And.right fun before => (hc g other before other).1 before
  · have := hc g token before other
    tauto

theorem Orderly.addRoles (hc : c.Orderly) (roles : List String) : (c.addRoles roles).Orderly := hc

theorem orderly_of_empty_index (roles : SortedSet String) : Orderly ⟨roles, .empty⟩ :=
  fun _ _ mem => absurd mem not_mem_filed_empty

theorem orderly_ofParts (roles : List String) (grants : List Grant) :
    (ofParts roles grants).Orderly :=
  (orderly_of_empty_index _).addGrants grants

theorem orderly_setGrants (c : Clearance) (grants : List Grant) : (c.setGrants grants).Orderly :=
  (orderly_of_empty_index _).addGrants grants

/-- The clearance comes about by filling it step by step. -/
inductive Filled : Clearance → Prop
  | ofParts (roles : List String) (grants : List Grant) : Filled (ofParts roles grants)
  | addRoles {c : Clearance} (before : Filled c) (roles : List String) : Filled (c.addRoles roles)
  | addGrants {c : Clearance} (before : Filled c) (grants : List Grant) :
    Filled (c.addGrants grants)
  | setGrants {c : Clearance} (before : Filled c) (grants : List Grant) :
    Filled (c.setGrants grants)

theorem Filled.orderly {c : Clearance} (h : Filled c) : c.Orderly := by
  induction h with
  | ofParts roles grants => exact orderly_ofParts roles grants
  | addRoles _ roles ih => exact ih.addRoles roles
  | addGrants _ grants ih => exact ih.addGrants grants
  | setGrants _ grants => exact orderly_setGrants _ grants

end Clearance

end Gatehouse
