import Mathlib.Algebra.Ring.Nat
import Gatehouse.Identity
import Gatehouse.Proofs.FirstAppearance

/-!
# Adding identifiers

However identifiers are added, an identity lists each of them once, in the order in which they were
added first (`entries_addAll`), and what it tells of its sources follows that order. The identifier
that was added first stays the primary one.
-/

namespace Gatehouse.Identity

theorem addAll_cons (identity : Identity) (entry : Identifier) (more : List Identifier) :
    identity.addAll (entry :: more) = (identity.add entry).addAll more := rfl

/-- What is there stays in front, and what is new follows in the order in which it came up. -/
theorem entries_addAll (identity : Identity) (more : List Identifier) :
    (identity.addAll more).entries =
      identity.entries ++ (more.filter (· ∉ identity.entries)).eraseDups := by
  induction more generalizing identity with
  | nil => simp [addAll]
  | cons entry more ih =>
    rw [addAll_cons, ih, entries_add]
    by_cases old : entry ∈ identity.entries
    · simp [old]
    · have later : more.filter (· ∉ identity.entries ++ [entry]) =
          (more.filter (· ∉ identity.entries)).filter (fun e => !e == entry) := by
        rw [List.filter_filter]
        refine List.filter_congr fun e _ => ?_
        by_cases same : e = entry <;> simp [same]
      rw [if_neg old, later, List.filter_cons_of_pos (by simpa using old), List.eraseDups_cons,
        List.append_assoc, List.singleton_append]

theorem entries_ofList (entries : List Identifier) :
    (ofList entries).entries = entries.eraseDups := by
  rw [ofList, entries_addAll]
  simp [anonymous]

/-- An identity that has a primary identifier keeps it. -/
theorem primary?_addAll (identity : Identity) (more : List Identifier) :
    (identity.addAll more).primary? =
      identity.primary?.or (more.head?.map Identifier.name) := by
  rw [primary?, primary?, entries_addAll]
  cases first : identity.entries with
  | cons => rfl
  | nil => cases more <;> simp [List.eraseDups_cons]

/-! ## Sources -/

theorem sources_ofList (entries : List Identifier) :
    (ofList entries).sources = (entries.map Identifier.source).eraseDups := by
  rw [sources, entries_ofList, eraseDups_map_eraseDups]

theorem fromSource_ofList (entries : List Identifier) (source : String) :
    (ofList entries).fromSource source =
      ((entries.filter (·.source = source)).map Identifier.name).eraseDups := by
  rw [fromSource, entries_ofList, filter_eraseDups]
  refine map_eraseDups fun e he f hf same => ?_
  have ofSource {e : Identifier} (mem : e ∈ entries.filter (·.source = source)) :
      e = ⟨source, e.name⟩ := by
    obtain rfl : e.source = source := by simpa using (List.mem_filter.1 mem).2
    rfl
  rw [ofSource he, ofSource hf, same]

/-- The identifiers of a source, with the source. -/
theorem map_fromSource (identity : Identity) (source : String) :
    (identity.fromSource source).map (Identifier.mk source) =
      identity.entries.filter (·.source = source) := by
  rw [fromSource, List.map_map]
  refine (List.map_congr_left fun e mem => ?_).trans (List.map_id _)
  obtain rfl : e.source = source := by simpa using (List.mem_filter.1 mem).2
  rfl

/-- The sources share the identifiers out among them. -/
theorem flatMap_fromSource_perm (identity : Identity) :
    (identity.sources.flatMap fun source =>
      (identity.fromSource source).map (Identifier.mk source)).Perm identity.entries := by
  simp only [map_fromSource]
  exact flatMap_filter_perm Identifier.source identity.entries

theorem sum_length_fromSource (identity : Identity) :
    (identity.sources.map fun source => (identity.fromSource source).length).sum =
      identity.size := by
  rw [size, ← identity.flatMap_fromSource_perm.length_eq, List.length_flatMap]
  simp only [List.length_map]

/-- Identifiers that are added to the anonymous identity are listed once each, in the order in which
they came up first, and so are their sources, and the names that each source gave; the sources share
the identifiers out among them. The first identifier is the primary one for good. An identity that
is there already, repetitions and all, keeps its identifiers in front, and no identifier that it has
is added again. -/
theorem lists_first_additions (added : List Identifier) (identity : Identity) :
    InFirstOrder added (ofList added).entries ∧
    (∀ later, ((ofList added).addAll later).primary? =
      (added ++ later).head?.map Identifier.name) ∧
    InFirstOrder (added.map Identifier.source) (ofList added).sources ∧
    (∀ source, InFirstOrder ((added.filter (·.source = source)).map Identifier.name)
      ((ofList added).fromSource source)) ∧
    ((ofList added).sources.flatMap fun source =>
      ((ofList added).fromSource source).map (Identifier.mk source)).Perm
        (ofList added).entries ∧
    ((ofList added).sources.map fun source => ((ofList added).fromSource source).length).sum =
      (ofList added).size ∧
    ∃ new, (identity.addAll added).entries = identity.entries ++ new ∧
      InFirstOrder (added.filter (· ∉ identity.entries)) new := by
  refine ⟨?_, fun later => ?_, ?_, fun source => ?_, flatMap_fromSource_perm _,
    sum_length_fromSource _, _, identity.entries_addAll added, inFirstOrder_eraseDups _⟩
  · rw [entries_ofList]
    exact inFirstOrder_eraseDups added
  · rw [primary?_addAll, ofList, primary?_addAll]
    cases added <;> rfl
  · rw [sources_ofList]
    exact inFirstOrder_eraseDups _
  · rw [fromSource_ofList]
    exact inFirstOrder_eraseDups _

end Gatehouse.Identity
