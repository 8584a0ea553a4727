import Mathlib.Algebra.Order.BigOperators.Group.List
import Mathlib.Algebra.Order.Group.Nat
import Gatehouse.Permission
import Gatehouse.Proofs.Text.Pieces

/-!
# What a permission text reads as

The parts of a permission are read off the text between its colons, and blanks around the text do
not matter: `parse_eq_ok_iff` says which permission a text is, if it is one.

`Spelled` describes the tokens that texts can bring about, `Readable` the permissions. Any three
spelled tokens make up a readable permission, and there is always a spelled token left that a finite
list does not hold.
-/

namespace Gatehouse

open Text

namespace Tokens

/-! ## Blanks around a part -/

theorem read_append_left {blanks : List Char} (h : AllBlank blanks) (cs : List Char) :
    read (blanks ++ cs) = read cs := by
  obtain ⟨first, rest, eq, grown⟩ := splitOn_append_left ',' (h.not_mem (by decide)) cs
  simp only [read, eq, grown, List.map_cons, trimChars_append_left h]

theorem read_append_right {blanks : List Char} (h : AllBlank blanks) (cs : List Char) :
    read (cs ++ blanks) = read cs := by
  obtain ⟨initial, last, eq, grown⟩ := splitOn_append_right ',' (h.not_mem (by decide)) cs
  simp only [read, eq, grown, List.map_append, List.map_cons, trimChars_append_right h]

theorem read_of_allBlank {cs : List Char} (h : AllBlank cs) : read cs = [] := by
  simpa [read, trimChars] using read_append_left h []

/-- Blanks around a text do not change what its parts read as. -/
theorem map_read_splitOn_trimChars (cs : List Char) :
    ((trimChars cs).splitOn ':').map read = (cs.splitOn ':').map read := by
  obtain ⟨before, after, hb, ha, eq⟩ := exists_eq_append_trimChars cs
  generalize trimChars cs = trimmed at eq
  subst eq
  obtain ⟨initial, last, eq, grown⟩ :=
    splitOn_append_right ':' (ha.not_mem (by decide)) (before ++ trimmed)
  obtain ⟨first, rest, eq', grown'⟩ := splitOn_append_left ':' (hb.not_mem (by decide)) trimmed
  calc (trimmed.splitOn ':').map read
      = ((before ++ trimmed).splitOn ':').map read := by
        simp only [eq', grown', List.map_cons, read_append_left hb]
    _ = ((before ++ trimmed ++ after).splitOn ':').map read := by
        simp only [eq, grown, List.map_append, List.map_cons, read_append_right ha]

end Tokens

namespace Permission

/-- The parts that the text between the colons reads as. -/
def partsOf (text : String) : List Tokens :=
  (text.toList.splitOn ':').map fun part => .ofList (Tokens.read part)

theorem partsOf_trimChars (text : String) :
    ((trimChars text.toList).splitOn ':').map (fun part => SortedSet.ofList (Tokens.read part)) =
      partsOf text := by
  have same := congrArg (List.map SortedSet.ofList) (Tokens.map_read_splitOn_trimChars text.toList)
  rw [List.map_map, List.map_map] at same
  exact same

theorem ofParts_eq_ok_iff {parts : List Tokens} {p : Permission} :
    ofParts parts = .ok p ↔ p.parts = parts := by
  constructor
  · intro h
    unfold ofParts at h
    split at h
    next => contradiction
    next =>
      split at h
      next => contradiction
      next =>
        split at h
        · contradiction
        · contradiction
        · exact (Except.ok.inj h) ▸ rfl
  · rintro rfl
    unfold ofParts
    have long : ¬ p.parts.length > 3 := by have := p.length_parts_le; omega
    have full : p.parts.findIdx? SortedSet.isEmpty = none :=
      List.findIdx?_eq_none_iff.2 p.inhabited
    rw [dif_neg p.parts_ne_nil, dif_neg long]
    split
    next found => simp [full] at found
    next found => simp [full] at found
    next => rfl

theorem parse_eq (text : String) :
    parse text =
      (if (trimChars text.toList).isEmpty then .error .blank
        else ofParts (partsOf text)).mapError (⟨text, ·⟩) := by
  rw [← partsOf_trimChars]
  rfl

/-- A blank text has a single part, which names nothing. -/
theorem partsOf_of_blank {text : String} (h : AllBlank text.toList) : partsOf text = [.empty] := by
  rw [partsOf, List.splitOn_eq_singleton (h.not_mem (by decide))]
  simp [Tokens.read_of_allBlank h, SortedSet.ofList, SortedSet.insertAll]

/-- A text is the permission whose parts it reads as, and no permission if there is none. -/
theorem parse_eq_ok_iff {text : String} {p : Permission} :
    parse text = .ok p ↔ p.parts = partsOf text := by
  have lift (outcome : Except FormatFault Permission) :
      outcome.mapError (FormatError.mk text) = .ok p ↔ outcome = .ok p := by
    cases outcome <;> simp [Except.mapError]
  rw [parse_eq, lift]
  by_cases blank : (trimChars text.toList).isEmpty
  · rw [if_pos blank, partsOf_of_blank (trimChars_eq_nil_iff.1 (List.isEmpty_iff.1 blank))]
    refine ⟨fun h => (nomatch h), fun h => ?_⟩
    have := p.inhabited .empty (h ▸ List.mem_singleton_self _)
    simp [SortedSet.isEmpty, SortedSet.empty] at this
  · rw [if_neg blank, ofParts_eq_ok_iff]

/-- The error quotes the text as it was given. -/
theorem text_of_parse_eq_error {text : String} {e : FormatError} (h : parse text = .error e) :
    e.text = text := by
  rw [parse_eq] at h
  revert h
  generalize (if (trimChars text.toList).isEmpty then _ else _ : Except FormatFault Permission) = o
  rintro h
  cases o with
  | error fault => cases h; rfl
  | ok => cases h

end Permission

/-! ## Tokens that can be spelled -/

namespace Tokens

/-- Some text without a colon reads as the token alone. -/
def Spelled (token : String) : Prop := ∃ w : List Char, ':' ∉ w ∧ read w = [token]

theorem spelled_of_mem_read {cs : List Char} (whole : ':' ∉ cs) {token : String}
    (h : token ∈ read cs) : Spelled token := by
  simp only [read, List.mem_map, List.mem_filter] at h
  obtain ⟨_, ⟨⟨piece, mem, rfl⟩, inhabited⟩, rfl⟩ := h
  refine ⟨piece, fun colon => whole (subset_of_mem_splitOn mem colon), ?_⟩
  rw [read, List.splitOn_eq_singleton (not_mem_of_mem_splitOn mem)]
  simp only [List.map_cons, List.map_nil, List.filter_cons, inhabited, List.filter_nil, if_true]

theorem lowerFrom_replicate (before : List Char) (n : Nat) :
    lowerFrom before (List.replicate n 'a') = List.replicate n 'a' := by
  induction n generalizing before with
  | zero => rfl
  | succ n ih =>
    have one (after : List Char) : lowerAt before 'a' after = ['a'] := by
      simp [lowerAt, show lowerChar 'a' = 'a' by decide]
    rw [List.replicate_succ, lowerFrom, one, ih]
    rfl

/-- Spelled tokens never run out. -/
theorem exists_spelled_not_mem (taken : List String) : ∃ token, Spelled token ∧ token ∉ taken := by
  let word (n : Nat) : List Char := List.replicate (n + 1) 'a'
  have spelled (n : Nat) : Spelled (String.ofList (word n)) := by
    have comma : ',' ∉ word n := by simp [word]
    have trimmed : trimChars (word n) = word n := trimChars_eq_self fun c hc => by
      rw [List.eq_of_mem_replicate hc]
      decide
    refine ⟨word n, by simp [word], ?_⟩
    rw [read, List.splitOn_eq_singleton comma, List.map_singleton, trimmed]
    simp [lowerChars, word, lowerFrom_replicate]
  -- One word is longer than every token that is taken.
  let n := (taken.map String.length).sum
  refine ⟨_, spelled n, fun mem => ?_⟩
  have short : (String.ofList (word n)).length ≤ n := List.le_sum_of_mem (List.mem_map_of_mem mem)
  simp only [String.length_ofList, word, List.length_replicate] at short
  omega

end Tokens

namespace Permission

/-- Some text reads as the permission. -/
def Readable (p : Permission) : Prop := ∃ text, parse text = .ok p

theorem readable_wildcard : wildcard.Readable :=
  ⟨"*", parse_eq_ok_iff.2 (by decide +kernel)⟩

theorem Readable.spelled {p : Permission} (h : p.Readable) {part : Tokens} (hp : part ∈ p.parts)
    {token : String} (ht : token ∈ part) : Tokens.Spelled token := by
  obtain ⟨text, h⟩ := h
  rw [parse_eq_ok_iff.1 h, partsOf, List.mem_map] at hp
  obtain ⟨piece, mem, rfl⟩ := hp
  exact Tokens.spelled_of_mem_read (not_mem_of_mem_splitOn mem) (SortedSet.mem_ofList.1 ht)

/-- The permission to do one action in one domain on one target. -/
def ofTokens (domain action target : String) : Permission where
  parts := [.singleton domain, .singleton action, .singleton target]
  parts_ne_nil := by simp
  length_parts_le := by simp
  inhabited := by simp [SortedSet.singleton, SortedSet.isEmpty]

theorem readable_ofTokens {domain action target : String} (hd : Tokens.Spelled domain)
    (ha : Tokens.Spelled action) (ht : Tokens.Spelled target) :
    (ofTokens domain action target).Readable := by
  obtain ⟨u, colon_u, hu⟩ := hd
  obtain ⟨v, colon_v, hv⟩ := ha
  obtain ⟨w, colon_w, hw⟩ := ht
  refine ⟨String.ofList (u ++ ':' :: (v ++ ':' :: w)), parse_eq_ok_iff.2 ?_⟩
  rw [partsOf, String.toList_ofList, List.splitOn_append_cons_self_of_not_mem colon_u,
    List.splitOn_append_cons_self_of_not_mem colon_v, List.splitOn_eq_singleton colon_w]
  simp only [List.map_cons, List.map_nil, hu, hv, hw]
  rfl

end Permission

end Gatehouse
