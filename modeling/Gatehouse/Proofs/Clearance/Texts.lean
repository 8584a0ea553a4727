import Gatehouse.Proofs.Clearance.Filing

/-!
# Texts on file

A text is filed before it is read, and two readers of it have to agree. `Permission.WellFormed` says
which texts are permissions (`Permission.exists_parse_eq_ok_iff`), and `Clearance.filed_file` where
any grant is filed. A text that is a permission is filed where its permission would be, and one that
is left out is no permission (`Clearance.files_texts_as_read`).
-/

namespace Gatehouse

open Text

/-! ## Texts that are permissions -/

/-- A part names something if one of its pieces is not blank. -/
theorem Tokens.read_ne_nil_iff {cs : List Char} :
    Tokens.read cs ≠ [] ↔ ∃ piece ∈ cs.splitOn ',', ¬ AllBlank piece := by
  simp only [Tokens.read, ne_eq, List.map_eq_nil_iff, List.filter_eq_nil_iff, List.mem_map,
    ← trimChars_eq_nil_iff]
  simp

theorem SortedSet.isEmpty_ofList_eq_false_iff {l : List String} :
    (SortedSet.ofList l).isEmpty = false ↔ l ≠ [] := by
  simp only [SortedSet.isEmpty_eq_false_iff, SortedSet.mem_ofList]
  exact ⟨fun ⟨_, mem⟩ => List.ne_nil_of_mem mem, List.exists_mem_of_ne_nil l⟩

namespace Permission

/-- The text is not blank and has one to three parts, each of which names something. -/
structure WellFormed (text : String) : Prop where
  not_blank : ¬ AllBlank text.toList
  colons : text.toList.count ':' ≤ 2
  named : ∀ part ∈ text.toList.splitOn ':', ∃ piece ∈ part.splitOn ',', ¬ AllBlank piece

theorem exists_parts_eq_iff {parts : List Tokens} :
    (∃ p : Permission, p.parts = parts) ↔
      parts ≠ [] ∧ parts.length ≤ 3 ∧ ∀ part ∈ parts, part.isEmpty = false := by
  constructor
  · rintro ⟨p, rfl⟩
    exact ⟨p.parts_ne_nil, p.length_parts_le, p.inhabited⟩
  · rintro ⟨ne_nil, le, inhabited⟩
    exact ⟨⟨parts, ne_nil, le, inhabited⟩, rfl⟩

theorem exists_parse_eq_ok_iff {text : String} :
    (∃ p, parse text = .ok p) ↔ WellFormed text := by
  have ne_nil : partsOf text ≠ [] := by simp [partsOf, List.splitOn_ne_nil]
  have length : (partsOf text).length = text.toList.count ':' + 1 := by
    rw [partsOf, List.length_map, length_splitOn]
  have named : (∀ part ∈ partsOf text, part.isEmpty = false) ↔
      ∀ part ∈ text.toList.splitOn ':', ∃ piece ∈ part.splitOn ',', ¬ AllBlank piece := by
    simp only [partsOf, List.forall_mem_map, SortedSet.isEmpty_ofList_eq_false_iff,
      Tokens.read_ne_nil_iff]
  simp only [parse_eq_ok_iff, exists_parts_eq_iff, length, named]
  constructor
  · rintro ⟨-, le, named⟩
    refine ⟨fun blank => ?_, by omega, named⟩
    obtain ⟨first, mem⟩ := List.exists_mem_of_ne_nil _ (List.splitOn_ne_nil ':' text.toList)
    obtain ⟨piece, hp, other⟩ := named first mem
    exact other fun c hc => blank c <|
      subset_of_mem_splitOn mem (subset_of_mem_splitOn hp hc)
  · rintro ⟨-, colons, named⟩
    exact ⟨ne_nil, by omega, named⟩

theorem message_of_parse_eq_error {text : String} {e : FormatError}
    (h : parse text = .error e) :
    e.message = "invalid permission '" ++ text ++ "': " ++ e.fault.reason := by
  obtain rfl := text_of_parse_eq_error h
  rfl

end Permission

/-! ## Keys -/

namespace Grant

/-- What a text is filed under is what its permission applies to. -/
theorem ofList_domains {text : String} {p : Permission} (h : Permission.parse text = .ok p) :
    SortedSet.ofList (raw text).domains = p.domain :=
  SortedSet.ext fun _ => SortedSet.mem_ofList.trans (mem_domains_iff (g := raw text) h)

end Grant

namespace Clearance

theorem filed_file (c : Clearance) (g : Grant) (token : String) :
    (c.file g).filed token =
      if token ∈ g.domains then (c.filed token).insert g else c.filed token := by
  refine SortedSet.ext fun h => ?_
  rw [mem_filed_file]
  split
  next here => simp [here]
  next elsewhere => simp [elsewhere]

/-- A grant without domain tokens is left out. -/
theorem file_of_domains_eq_nil {g : Grant} (none : g.domains = []) (c : Clearance) :
    c.file g = c := by
  rw [file, none]
  rfl

/-- A text is a permission if and only if it is well formed, and any error quotes it as given. A
permission and its text are filed under the same tokens, those of the permission's domain. A text
that has no token to be filed under is left out, and is no permission; so a text that is one is on
file whenever it has been filed, whatever was filed with it. -/
theorem files_texts_as_read (text : String) :
    ((∃ p, Permission.parse text = .ok p) ↔ Permission.WellFormed text) ∧
    (∀ e, Permission.parse text = .error e →
      e.text = text ∧ e.message = "invalid permission '" ++ text ++ "': " ++ e.fault.reason) ∧
    (∀ p, Permission.parse text = .ok p →
      SortedSet.ofList (Grant.raw text).domains = p.domain ∧
      ∀ (c : Clearance) (token : String),
        (c.file (.raw text)).filed token =
          (if token ∈ p.domain then (c.filed token).insert (.raw text) else c.filed token) ∧
        (c.file (.parsed p)).filed token =
          (if token ∈ p.domain then (c.filed token).insert (.parsed p) else c.filed token)) ∧
    ((Grant.raw text).domains = [] →
      (∀ c : Clearance, c.file (.raw text) = c) ∧ ∃ e, Permission.parse text = .error e) ∧
    ∀ (c : Clearance) (grants : List Grant), Permission.WellFormed text → .raw text ∈ grants →
      .raw text ∉ unfiled grants ∧ .raw text ∈ (c.addGrants grants).grants := by
  refine ⟨Permission.exists_parse_eq_ok_iff, fun e failed => ?_, fun p read => ?_,
    fun none => ?_, fun c grants wellFormed listed => ?_⟩
  · exact ⟨Permission.text_of_parse_eq_error failed, Permission.message_of_parse_eq_error failed⟩
  · refine ⟨Grant.ofList_domains read, fun c token => ⟨?_, ?_⟩⟩
    · rw [filed_file]
      simp only [Grant.mem_domains_iff (g := .raw text) read]
    · exact filed_file c (.parsed p) token
  · refine ⟨file_of_domains_eq_nil none, ?_⟩
    cases read : Permission.parse text with
    | error e => exact ⟨e, rfl⟩
    | ok p =>
      obtain ⟨token, mem⟩ := Grant.exists_mem_domains (g := .raw text) read
      rw [none] at mem
      contradiction
  · obtain ⟨p, read⟩ := Permission.exists_parse_eq_ok_iff.2 wellFormed
    obtain ⟨token, mem⟩ := Grant.exists_mem_domains (g := .raw text) read
    refine ⟨fun left => ?_, ?_⟩
    · have := (List.mem_filter.1 left).2
      rw [List.isEmpty_iff.1 this] at mem
      contradiction
    · exact mem_grants_iff.2 ⟨token, mem_filed_addGrants.2 (.inl ⟨listed, mem⟩)⟩

/-- Blanks, an empty piece and capital letters, one of which grows when it is lowered. -/
theorem files_texts_as_read_of_capitals :
    let text := " Doc , ,İ\t: READ"
    let p : Permission :=
      { parts := [.ofList ["doc", "i\u0307"], .singleton "read"]
        parts_ne_nil := by decide
        length_parts_le := by decide
        inhabited := by decide +kernel }
    Permission.parse text = .ok p ∧ SortedSet.ofList (Grant.raw text).domains = p.domain ∧
      .raw text ∈ (empty.addGrants [.raw ",:a", .raw text]).grants ∧
      (Grant.raw ",:a").domains = [] ∧ empty.file (.raw ",:a") = empty := by
  intro text p
  have read : Permission.parse text = .ok p := Permission.parse_eq_ok_iff.2 (by decide +kernel)
  obtain ⟨written, -, domain, -, kept⟩ := files_texts_as_read text
  have none : (Grant.raw ",:a").domains = [] := by decide +kernel
  obtain ⟨-, -, -, skipped, -⟩ := files_texts_as_read ",:a"
  have listed : Grant.raw text ∈ [.raw ",:a", .raw text] := by simp
  exact ⟨read, (domain p read).1, (kept empty _ (written.1 ⟨p, read⟩) listed).2, none,
    (skipped none).1 empty⟩

end Clearance

end Gatehouse
