import Gatehouse.Document.Event
import Gatehouse.Proofs.Permission.Reading
import Gatehouse.Proofs.Text.Lowering

/-!
# Canonical texts

A permission that was read is printed in its canonical text: its parts between colons, and the tokens
of each part between commas, in ascending order and in lower case. Reading a canonical text gives the
permission that it is the text of, and printing that gives the text again
(`Permission.prints_canonically`). What is needed of tokens is that reading leaves them alone once they
have been read (`Tokens.canonical_of_mem_read`, `Tokens.read_of_canonical`).
-/

namespace Gatehouse

open Text

theorem SortedSet.toList_ofList {α : Type} [Ord α] [Std.TransOrd α] [Std.LawfulEqOrd α]
    {l : List α} (ascending : Sorted.Ascending id l) : (SortedSet.ofList l).toList = l :=
  (SortedSet.ofList l).ascending.ext ascending fun a => by
    rw [SortedSet.mem_toList, SortedSet.mem_ofList]

/-! ## Tokens -/

namespace Tokens

/-- The token is as reading leaves tokens: not empty, without blanks around it, in lower case, and
without dividers. -/
structure Canonical (token : String) : Prop where
  inhabited : token ≠ ""
  trimmed : Text.trim token = token
  lower : Text.lowercase token = token
  colon : ':' ∉ token.toList
  comma : ',' ∉ token.toList

theorem canonical_of_mem_read {cs : List Char} (whole : ':' ∉ cs) {token : String}
    (h : token ∈ read cs) : Canonical token := by
  simp only [read, List.mem_map, List.mem_filter] at h
  obtain ⟨_, ⟨⟨piece, mem, rfl⟩, inhabited⟩, rfl⟩ := h
  have trimmed_subset := trimChars_subset piece
  have colon : ':' ∉ trimChars piece :=
    fun c => whole (subset_of_mem_splitOn mem (trimmed_subset c))
  have comma : ',' ∉ trimChars piece := fun c => not_mem_of_mem_splitOn mem (trimmed_subset c)
  have nonempty : trimChars piece ≠ [] := by simpa using inhabited
  refine ⟨?_, ?_, ?_, ?_, ?_⟩
  · simpa using lowerChars_ne_nil nonempty
  · simp [Text.trim, trimChars_lowerChars]
  · simp [Text.lowercase, lowerChars_lowerChars]
  · simpa using not_mem_lowerChars (by simp [specialCodes]) colon
  · simpa using not_mem_lowerChars (by simp [specialCodes]) comma

/-- Tokens that are canonical are read as they stand. -/
theorem read_of_canonical {cs : List Char}
    (h : ∀ token ∈ (cs.splitOn ',').map String.ofList, Canonical token) :
    read cs = (cs.splitOn ',').map String.ofList := by
  have kept (piece : List Char) (mem : piece ∈ cs.splitOn ',') :
      trimChars piece = piece ∧ piece ≠ [] ∧ lowerChars piece = piece := by
    have canonical := h _ (List.mem_map_of_mem mem)
    refine ⟨?_, ?_, ?_⟩
    · simpa [Text.trim, String.ofList_inj] using canonical.trimmed
    · simpa using canonical.inhabited
    · simpa [Text.lowercase, String.ofList_inj] using canonical.lower
  have trimmed : (cs.splitOn ',').map trimChars = cs.splitOn ',' :=
    (List.map_congr_left fun piece mem => (kept piece mem).1).trans (List.map_id _)
  have full : (cs.splitOn ',').filter (!·.isEmpty) = cs.splitOn ',' := by
    rw [List.filter_eq_self]
    intro piece mem
    simpa using (kept piece mem).2.1
  rw [read, trimmed, full]
  exact List.map_congr_left fun piece mem => congrArg String.ofList (kept piece mem).2.2

/-- The tokens of a text between commas. -/
theorem splitOn_text {part : Tokens} (inhabited : part.isEmpty = false)
    (canonical : ∀ token ∈ part, Canonical token) :
    (part.text.toList.splitOn ',').map String.ofList = part.toList := by
  have nonempty : part.toList ≠ [] := by simpa [SortedSet.isEmpty] using inhabited
  have whole : ∀ piece ∈ part.toList.map String.toList, ',' ∉ piece :=
    List.forall_mem_map.2 fun token mem => (canonical token mem).comma
  rw [text, String.toList_intercalate]
  change (([','].intercalate _).splitOn ',').map _ = _
  rw [List.splitOn_intercalate ',' whole (by simpa using nonempty), List.map_map]
  simp [Function.comp_def]

theorem colon_not_mem_text {part : Tokens} (canonical : ∀ token ∈ part, Canonical token) :
    ':' ∉ part.text.toList := by
  rw [text, String.toList_intercalate]
  refine not_mem_intercalate (by decide) ?_
  exact List.forall_mem_map.2 fun token mem => (canonical token mem).colon

/-- A part is read from its own text. -/
theorem read_text {part : Tokens} (inhabited : part.isEmpty = false)
    (canonical : ∀ token ∈ part, Canonical token) : read part.text.toList = part.toList := by
  have split := splitOn_text inhabited canonical
  rw [read_of_canonical (by rwa [split]), split]

end Tokens

/-! ## Permissions -/

namespace Permission

/-- All tokens of the permission are canonical. -/
def Canonical (p : Permission) : Prop := ∀ part ∈ p.parts, ∀ token ∈ part, Tokens.Canonical token

theorem Readable.canonical {p : Permission} (h : p.Readable) : p.Canonical := by
  obtain ⟨text, h⟩ := h
  intro part mem token here
  rw [parse_eq_ok_iff.1 h, partsOf, List.mem_map] at mem
  obtain ⟨piece, mem, rfl⟩ := mem
  exact Tokens.canonical_of_mem_read (not_mem_of_mem_splitOn mem) (SortedSet.mem_ofList.1 here)

theorem splitOn_text {p : Permission} (h : p.Canonical) :
    p.text.toList.splitOn ':' = p.parts.map fun part => part.text.toList := by
  have whole : ∀ piece ∈ (p.parts.map Tokens.text).map String.toList, ':' ∉ piece := by
    simp only [List.map_map, List.forall_mem_map]
    exact fun part mem => Tokens.colon_not_mem_text (h part mem)
  rw [text, String.toList_intercalate]
  change ([':'].intercalate _).splitOn ':' = _
  rw [List.splitOn_intercalate ':' whole (by simpa using p.parts_ne_nil), List.map_map]
  rfl

/-- A permission with canonical tokens is read from its own text. -/
theorem parse_text {p : Permission} (h : p.Canonical) : parse p.text = .ok p := by
  rw [parse_eq_ok_iff, partsOf, splitOn_text h, List.map_map]
  symm
  refine (List.map_congr_left fun part mem => ?_).trans (List.map_id _)
  refine SortedSet.ext fun token => ?_
  rw [Function.comp_apply, Tokens.read_text (p.inhabited part mem) (h part mem),
    SortedSet.mem_ofList, SortedSet.mem_toList, id]

theorem text_injective {p q : Permission} (hp : p.Canonical) (hq : q.Canonical)
    (same : p.text = q.text) : p = q := by
  have both := parse_text hp
  rw [same, parse_text hq] at both
  exact (Except.ok.inj both).symm

/-! ## Canonical texts -/

/-- The tokens of a text as they stand between its dividers. -/
def written (text : String) : List (List String) :=
  (text.toList.splitOn ':').map fun part => (part.splitOn ',').map String.ofList

/-- The text has three parts at most, and each of them lists canonical tokens in strictly ascending
order. -/
def IsCanonical (text : String) : Prop :=
  (written text).length ≤ 3 ∧
    ∀ tokens ∈ written text,
      Sorted.Ascending id tokens ∧ ∀ token ∈ tokens, Tokens.Canonical token

theorem written_text {p : Permission} (h : p.Canonical) :
    written p.text = p.parts.map SortedSet.toList := by
  rw [written, splitOn_text h, List.map_map]
  exact List.map_congr_left fun part mem => Tokens.splitOn_text (p.inhabited part mem) (h part mem)

theorem Canonical.isCanonical_text {p : Permission} (h : p.Canonical) : IsCanonical p.text := by
  rw [IsCanonical, written_text h, List.length_map]
  refine ⟨p.length_parts_le, List.forall_mem_map.2 fun part mem => ?_⟩
  exact ⟨part.ascending, h part mem⟩

/-- A canonical text reads as its parts as they stand. -/
theorem partsOf_of_isCanonical {text : String} (h : IsCanonical text) :
    (partsOf text).map SortedSet.toList = written text := by
  rw [partsOf, written, List.map_map]
  refine List.map_congr_left fun part mem => ?_
  obtain ⟨ascending, canonical⟩ := h.2 _ (List.mem_map_of_mem mem)
  rw [Function.comp_apply, Tokens.read_of_canonical canonical, SortedSet.toList_ofList ascending]

theorem exists_of_isCanonical {text : String} (h : IsCanonical text) :
    ∃ p, parse text = .ok p ∧ p.text = text := by
  have parts := partsOf_of_isCanonical h
  have length : (partsOf text).length = (written text).length := by
    rw [← parts, List.length_map]
  have inhabited : ∀ part ∈ partsOf text, part.isEmpty = false := by
    intro part mem
    have tokens : part.toList ∈ written text := parts ▸ List.mem_map_of_mem mem
    obtain ⟨piece, -, eq⟩ := List.mem_map.1 tokens
    simp [SortedSet.isEmpty, ← eq, List.splitOn_ne_nil]
  let p : Permission :=
    { parts := partsOf text
      parts_ne_nil := by simp [partsOf, List.splitOn_ne_nil]
      length_parts_le := length ▸ h.1
      inhabited }
  refine ⟨p, parse_eq_ok_iff.2 rfl, ?_⟩
  have texts : p.parts.map Tokens.text = (written text).map (",".intercalate ·) := by
    rw [← parts, List.map_map]
    rfl
  have split : (p.parts.map Tokens.text).map String.toList = text.toList.splitOn ':' := by
    rw [texts, written, List.map_map, List.map_map]
    refine (List.map_congr_left fun part _ => ?_).trans (List.map_id _)
    simp only [Function.comp_apply, String.toList_intercalate, List.map_map]
    simp [Function.comp_def]
  rw [Permission.text, ← String.toList_inj, String.toList_intercalate, split]
  exact List.intercalate_splitOn ':'

/-! ## Documents -/

/-- In a document a permission is its text. -/
theorem ofValue?_eq_some_iff {v : Document.Value} {p : Permission} :
    ofValue? v = some p ↔ ∃ text, v = .text text ∧ parse text = .ok p := by
  have reads (text : String) : (parse text).toOption = some p ↔ parse text = .ok p := by
    cases parse text <;> simp [Except.toOption]
  cases v with
  | text text => simp [ofValue?, Document.Value.text?, reads]
  | _ => simp [ofValue?, Document.Value.text?]

/-- A permission that was read has one to three parts of canonical tokens, and its own text reads as it
again. So permissions that were read are the same when their texts are, and their texts are the
canonical ones. -/
theorem prints_canonically {text : String} {p : Permission} (read : parse text = .ok p) :
    (1 ≤ p.parts.length ∧ p.parts.length ≤ 3 ∧ p.parts[0]? = some p.domain) ∧
    (∀ part ∈ p.parts, (∃ token, token ∈ part) ∧ ∀ token ∈ part, Tokens.Canonical token) ∧
    parse p.text = .ok p ∧
    (∀ q : Permission, q.Readable → (p = q ↔ p.text = q.text)) ∧
    (∀ t : String, (∃ q : Permission, q.Readable ∧ q.text = t) ↔ IsCanonical t) ∧
    (ofValue? p.toValue = some p ∧
      ∀ v, ofValue? v = some p ↔ ∃ t, v = .text t ∧ parse t = .ok p) := by
  have readable : p.Readable := ⟨text, read⟩
  have again : parse p.text = .ok p := parse_text readable.canonical
  refine ⟨⟨?_, p.length_parts_le, ?_⟩, ?_, again, ?_, ?_, ?_, fun v => ofValue?_eq_some_iff⟩
  · exact List.length_pos_iff.2 p.parts_ne_nil
  · rw [domain, ← List.head?_eq_getElem?, List.head?_eq_some_head]
  · intro part mem
    exact ⟨SortedSet.isEmpty_eq_false_iff.1 (p.inhabited part mem), readable.canonical part mem⟩
  · intro q other
    exact ⟨congrArg _, text_injective readable.canonical other.canonical⟩
  · intro t
    constructor
    · rintro ⟨q, other, rfl⟩
      exact other.canonical.isCanonical_text
    · intro canonical
      obtain ⟨q, parsed, printed⟩ := exists_of_isCanonical canonical
      exact ⟨q, ⟨t, parsed⟩, printed⟩
  · exact ofValue?_eq_some_iff.2 ⟨p.text, rfl, again⟩

/-- What has a capital sigma at its end, and blanks and empty tokens, is printed without them. -/
theorem prints_canonically_of_sigma :
    ∃ p, parse "  ΟΔΟΣ, Doc:READ,, read : *" = .ok p ∧ p.text = "doc,οδος:read:*" ∧
      parse "doc,οδος:read:*" = .ok p := by
  let p : Permission :=
    { parts := partsOf "  ΟΔΟΣ, Doc:READ,, read : *"
      parts_ne_nil := by decide +kernel
      length_parts_le := by decide +kernel
      inhabited := by decide +kernel }
  have read : parse "  ΟΔΟΣ, Doc:READ,, read : *" = .ok p := parse_eq_ok_iff.2 rfl
  have printed : p.text = "doc,οδος:read:*" := by decide +kernel
  obtain ⟨-, -, again, -⟩ := prints_canonically read
  exact ⟨p, read, printed, printed ▸ again⟩

end Permission

end Gatehouse
