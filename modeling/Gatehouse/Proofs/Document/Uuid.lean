import Mathlib.Tactic.IntervalCases
import Gatehouse.Proofs.Document.Reading
import Gatehouse.Proofs.Text.Pieces
import Gatehouse.Uuid

/-!
# Spellings of identifiers

A text is read as a universally unique identifier if and only if it spells its digits, in letters of
either case, in one of four forms (`Uuid.parse?_eq_some_iff`). The text that is written is one of
them (`Uuid.parse?_text`).
-/

namespace Gatehouse

namespace Text

theorem hexValue?_eq_some_iff {c : Char} {digit : Fin 16} :
    hexValue? c = some digit ↔ c = hexDigit digit ∨ c = hexDigitUpper digit := by
  constructor
  · intro value
    have code : c = Char.ofNat c.toNat := c.ofNat_toNat.symm
    have ranges : '0'.toNat ≤ c.toNat ∧ c.toNat ≤ '9'.toNat ∨
        'a'.toNat ≤ c.toNat ∧ c.toNat ≤ 'f'.toNat ∨
        'A'.toNat ≤ c.toNat ∧ c.toNat ≤ 'F'.toNat := by
      unfold hexValue? at value
      split at value
      next range => exact .inl range
      next =>
        split at value
        next range => exact .inr (.inl range)
        next =>
          split at value
          next range => exact .inr (.inr range)
          next => contradiction
    -- the ranges hold 22 codes in all, and each is that of its digit
    generalize c.toNat = n at code ranges
    subst code
    simp only [Char.reduceToNat] at ranges
    revert value
    rcases ranges with ⟨low, high⟩ | ⟨low, high⟩ | ⟨low, high⟩ <;> interval_cases n <;>
      (revert digit; decide)
  · rintro (rfl | rfl)
    · exact hexValue?_hexDigit digit
    · exact hexValue?_hexDigitUpper digit

/-- The characters write the digits, in letters of either case. -/
abbrev Writes : List Char → List (Fin 16) → Prop :=
  List.Forall₂ fun c digit => c = hexDigit digit ∨ c = hexDigitUpper digit

theorem mapM_hexValue?_eq_some_iff {cs : List Char} {digits : List (Fin 16)} :
    cs.mapM hexValue? = some digits ↔ Writes cs digits := by
  simp only [mapM_eq_some_iff, hexValue?_eq_some_iff]

theorem writes_hexDigit (digits : List (Fin 16)) : Writes (digits.map hexDigit) digits := by
  rw [Writes, List.forall₂_map_left_iff]
  exact List.forall₂_same.2 fun digit _ => .inl rfl

/-- What no digit is, none of the characters is. -/
theorem Writes.not_mem {cs : List Char} {digits : List (Fin 16)} (h : Writes cs digits) {c : Char}
    (other : ∀ digit, c ≠ hexDigit digit ∧ c ≠ hexDigitUpper digit) : c ∉ cs := by
  induction h with
  | nil => exact List.not_mem_nil
  | @cons a digit cs digits first _ ih =>
    have : c ≠ a := by
      rintro rfl
      exact first.elim (other digit).1 (other digit).2
    simp [this, ih]

end Text

namespace Uuid

open Text

/-- Groups of digits between hyphens. -/
def Grouped (u : Uuid) (cs : List Char) : Prop :=
  ∃ pieces, cs = ['-'].intercalate pieces ∧ pieces.map List.length = groups ∧
    Writes pieces.flatten u.digits

/-- The forms in which an identifier is spelled. -/
inductive Spelled (u : Uuid) : List Char → Prop where
  | plain {cs} (digits : Writes cs u.digits) : Spelled u cs
  | grouped {cs} (groups : u.Grouped cs) : Spelled u cs
  | braced {cs} (groups : u.Grouped cs) : Spelled u ('{' :: (cs ++ ['}']))
  | named {name cs} (urn : name.map Char.toLower = scheme) (groups : u.Grouped cs) :
      Spelled u (name ++ cs)

variable {u : Uuid} {cs : List Char}

theorem parsePlain_eq_some_iff : parsePlain cs = some u ↔ Writes cs u.digits := by
  rw [← mapM_hexValue?_eq_some_iff, parsePlain]
  cases cs.mapM hexValue? with
  | none => simp
  | some digits =>
    change ofDigits? digits = some u ↔ _
    obtain ⟨own, length⟩ := u
    unfold ofDigits?
    split
    · simp
    next other =>
      simp only [reduceCtorEq, Option.some.injEq, false_iff]
      rintro rfl
      exact other length

theorem parseGrouped_eq_some_iff : parseGrouped cs = some u ↔ u.Grouped cs := by
  constructor
  · intro read
    change (if (cs.splitOn '-').map List.length = groups then parsePlain (cs.splitOn '-').flatten
      else none) = some u at read
    split at read
    next sizes =>
      exact ⟨cs.splitOn '-', (List.intercalate_splitOn '-').symm, sizes,
        parsePlain_eq_some_iff.1 read⟩
    next => contradiction
  · rintro ⟨pieces, rfl, sizes, written⟩
    have hyphen : '-' ∉ pieces.flatten := written.not_mem (by decide)
    have whole : ∀ piece ∈ pieces, '-' ∉ piece := fun piece mem inside =>
      hyphen (List.mem_flatten_of_mem mem inside)
    have nonempty : pieces ≠ [] := by
      rintro rfl
      contradiction
    have read := parsePlain_eq_some_iff.2 written
    rw [parseGrouped, List.splitOn_intercalate '-' whole nonempty]
    simp only [sizes, if_true, read]

theorem Grouped.not_mem (h : u.Grouped cs) {c : Char} (hyphen : c ≠ '-')
    (other : ∀ digit, c ≠ hexDigit digit ∧ c ≠ hexDigitUpper digit) : c ∉ cs := by
  obtain ⟨pieces, rfl, -, written⟩ := h
  refine not_mem_intercalate (by simpa using hyphen) fun piece mem inside => ?_
  exact written.not_mem other (List.mem_flatten_of_mem mem inside)

theorem Grouped.length (h : u.Grouped cs) : cs.length = 36 := by
  obtain ⟨pieces, rfl, sizes, -⟩ := h
  simp only [groups, List.map_eq_cons_iff, List.map_eq_nil_iff] at sizes
  obtain ⟨_, _, rfl, first, _, _, rfl, second, _, _, rfl, third, _, _, rfl, fourth, _, _, rfl,
    fifth, rfl⟩ := sizes
  simp [List.intercalate, first, second, third, fourth, fifth]

theorem toLower_ne_colon {c : Char} (other : c ≠ ':') : c.toLower ≠ ':' := by
  unfold Char.toLower
  split
  next upper =>
    have low : 65 ≤ c.val.toNat := upper.1
    have high : c.val.toNat ≤ 90 := upper.2
    intro same
    have code : (c.val + 32).toNat = 58 := congrArg Char.toNat same
    have sum : (c.val + 32).toNat = (c.val.toNat + 32) % 2 ^ 32 := UInt32.toNat_add c.val 32
    omega
  next => exact other

/-- What has no colon does not begin with the scheme. -/
theorem take_ne_scheme (colon : ':' ∉ cs) : (cs.take scheme.length).map Char.toLower ≠ scheme := by
  intro same
  have mem : ':' ∈ (cs.take scheme.length).map Char.toLower := by
    rw [same]
    decide
  obtain ⟨c, there, lower⟩ := List.mem_map.1 mem
  have other : c ≠ ':' := fun same => colon (same ▸ List.mem_of_mem_take there)
  exact toLower_ne_colon other lower

theorem parse?_of_opened {s : String} (opened : s.toList = '{' :: cs) :
    parse? s = if cs.getLast? = some '}' then parseGrouped cs.dropLast else none := by
  rw [parse?, opened]
  rfl

/-- How a text is read that does not begin with a brace. -/
theorem parse?_of_bare {s : String} (bare : s.toList.head? ≠ some '{') :
    parse? s =
      if (s.toList.take scheme.length).map Char.toLower = scheme
      then parseGrouped (s.toList.drop scheme.length)
      else if s.toList.length = 32 then parsePlain s.toList
      else parseGrouped s.toList := by
  unfold parse?
  split
  next opened => exact absurd (by rw [opened]; rfl) bare
  next => rfl

theorem spelled_of_parse? {s : String} (read : parse? s = some u) : Spelled u s.toList := by
  by_cases bare : s.toList.head? = some '{'
  · obtain ⟨cs, opened⟩ := List.head?_eq_some_iff.1 bare
    rw [parse?_of_opened opened] at read
    split at read
    next closed =>
      rw [opened, ← List.dropLast_append_getLast? '}' closed]
      exact .braced (parseGrouped_eq_some_iff.1 read)
    next => contradiction
  · rw [parse?_of_bare bare] at read
    split at read
    next urn =>
      rw [← List.take_append_drop scheme.length s.toList]
      exact .named urn (parseGrouped_eq_some_iff.1 read)
    next =>
      split at read
      · exact .plain (parsePlain_eq_some_iff.1 read)
      · exact .grouped (parseGrouped_eq_some_iff.1 read)

theorem parse?_of_spelled {s : String} (h : Spelled u s.toList) : parse? s = some u := by
  generalize spelled : s.toList = cs at h
  cases h with
  | plain digits =>
    have opening : '{' ∉ cs := digits.not_mem (by decide)
    have colon : ':' ∉ cs := digits.not_mem (by decide)
    have length : cs.length = 32 := digits.length_eq.trans u.length_digits
    subst spelled
    rw [parse?_of_bare fun opened => opening (List.mem_of_mem_head? opened),
      if_neg (take_ne_scheme colon), if_pos length]
    exact parsePlain_eq_some_iff.2 digits
  | grouped groups =>
    have opening : '{' ∉ cs := groups.not_mem (by decide) (by decide)
    have colon : ':' ∉ cs := groups.not_mem (by decide) (by decide)
    have length : cs.length = 36 := groups.length
    subst spelled
    rw [parse?_of_bare fun opened => opening (List.mem_of_mem_head? opened),
      if_neg (take_ne_scheme colon), if_neg (by omega)]
    exact parseGrouped_eq_some_iff.2 groups
  | @braced cs groups =>
    rw [parse?_of_opened spelled, List.getLast?_concat, if_pos rfl, List.dropLast_concat]
    exact parseGrouped_eq_some_iff.2 groups
  | @named name cs urn groups =>
    have length : name.length = scheme.length := by rw [← urn, List.length_map]
    have bare : s.toList.head? ≠ some '{' := by
      rw [spelled]
      cases name with
      | nil => contradiction
      | cons c name =>
        intro opened
        obtain rfl : c = '{' := Option.some.inj opened
        exact absurd (List.cons.inj urn).1 (by decide)
    rw [parse?_of_bare bare, spelled, List.take_left' length, if_pos urn, List.drop_left' length]
    exact parseGrouped_eq_some_iff.2 groups

/-- A text is read as an identifier if and only if it is spelled in one of the forms. -/
theorem parse?_eq_some_iff {s : String} : parse? s = some u ↔ Spelled u s.toList :=
  ⟨spelled_of_parse?, parse?_of_spelled⟩

theorem flatten_cut {α : Type} (sizes : List Nat) (l : List α) :
    (cut sizes l).flatten = l.take sizes.sum := by
  induction sizes generalizing l with
  | nil => simp [cut]
  | cons size sizes ih => rw [cut, List.flatten_cons, ih, List.sum_cons, List.take_add]

theorem map_length_cut {α : Type} (sizes : List Nat) {l : List α} (long : sizes.sum ≤ l.length) :
    (cut sizes l).map List.length = sizes := by
  induction sizes generalizing l with
  | nil => rfl
  | cons size sizes ih =>
    rw [List.sum_cons] at long
    rw [cut, List.map_cons, ih (by rw [List.length_drop]; omega), List.length_take,
      Nat.min_eq_left (by omega)]

/-- An identifier is read from the text that is written of it. -/
theorem parse?_text (u : Uuid) : parse? u.text = some u := by
  have size : (u.digits.map hexDigit).length = groups.sum := by
    rw [List.length_map, u.length_digits]
    rfl
  refine parse?_of_spelled (.grouped ⟨cut groups (u.digits.map hexDigit), ?_, ?_, ?_⟩)
  · exact String.toList_ofList
  · exact map_length_cut groups size.ge
  · rw [flatten_cut, ← size, List.take_length]
    exact writes_hexDigit u.digits

end Uuid

end Gatehouse
