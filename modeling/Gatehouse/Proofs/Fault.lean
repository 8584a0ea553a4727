import Gatehouse.AccessError
import Gatehouse.Config.Error
import Gatehouse.Event.Topic
import Gatehouse.Logging
import Gatehouse.Proofs.Text.Pieces

/-!
# Codes of faults

A code is checked by conditions on the whole text and on its bytes. What they come to is that the
code is made of words of capital letters and digits, joined by single underscores
(`Code.isUpperSnakeCase_iff`): an underscore in the wrong place leaves an empty piece beside it, and
a character beyond ASCII has a byte that does not pass.

`Code.complains_of_first_improper` says which code of a list is complained about, and
`Code.isProper_code` that none of the library is.
-/

namespace Gatehouse

/-! ## Bytes of a text -/

namespace Text

theorem toList_toUTF8 (s : String) :
    s.toUTF8.data.toList = s.toList.flatMap String.utf8EncodeChar := by
  rw [String.toUTF8_eq_toByteArray, ← String.utf8Encode_toList, List.utf8Encode,
    List.toList_data_toByteArray]

theorem utf8EncodeChar_of_lt {c : Char} (ascii : c.toNat < 128) :
    String.utf8EncodeChar c = [c.toUInt8] := by
  refine String.utf8EncodeChar_eq_singleton (Char.utf8Size_eq_one_iff.2 ?_)
  exact UInt32.le_iff_toNat_le.2 (Nat.le_of_lt_succ ascii)

theorem toNat_toUInt8_of_lt {c : Char} (ascii : c.toNat < 128) : c.toUInt8.toNat = c.toNat := by
  rw [Char.toUInt8, UInt32.toNat_toUInt8]
  exact Nat.mod_eq_of_lt (ascii.trans (by decide))

/-- A character beyond ASCII begins with a byte beyond ASCII. -/
theorem exists_mem_utf8EncodeChar_of_le {c : Char} (beyond : 128 ≤ c.toNat) :
    ∃ b ∈ String.utf8EncodeChar c, 128 ≤ b.toNat := by
  have high (b mark : UInt8) (le : 128 ≤ mark.toNat) : 128 ≤ (b ||| mark).toNat := by
    rw [UInt8.toNat_or]
    exact le.trans Nat.right_le_or
  -- The first byte of several carries a mark, which has the highest bit.
  obtain one | two | three | four := Char.utf8Size_eq c
  · have := UInt32.le_iff_toNat_le.1 (Char.utf8Size_eq_one_iff.1 one)
    exact absurd (Nat.lt_succ_of_le this) (Nat.not_lt.2 beyond)
  · rw [String.utf8EncodeChar_eq_cons_cons two]
    exact ⟨_, List.mem_cons_self, high _ _ (by decide)⟩
  · rw [String.utf8EncodeChar_eq_cons_cons_cons three]
    exact ⟨_, List.mem_cons_self, high _ _ (by decide)⟩
  · rw [String.utf8EncodeChar_eq_cons_cons_cons_cons four]
    exact ⟨_, List.mem_cons_self, high _ _ (by decide)⟩

theorem all_utf8EncodeChar_iff {p : UInt8 → Bool} (ascii : ∀ b, p b → b.toNat < 128) {c : Char} :
    (String.utf8EncodeChar c).all p ↔ c.toNat < 128 ∧ p c.toUInt8 := by
  by_cases within : c.toNat < 128
  · simp [utf8EncodeChar_of_lt within, within]
  · refine iff_of_false (fun all => ?_) (fun h => within h.1)
    obtain ⟨b, mem, beyond⟩ := exists_mem_utf8EncodeChar_of_le (Nat.not_lt.1 within)
    have := ascii b (List.all_eq_true.1 all b mem)
    omega

/-- Where only bytes of ASCII pass, those of a text pass if its characters are in ASCII and pass. -/
theorem all_toUTF8_iff {p : UInt8 → Bool} (ascii : ∀ b, p b → b.toNat < 128) {s : String} :
    s.toUTF8.data.all p ↔ ∀ c ∈ s.toList, c.toNat < 128 ∧ p c.toUInt8 := by
  rw [← Array.all_toList, toList_toUTF8, List.all_flatMap, List.all_eq_true]
  simp only [all_utf8EncodeChar_iff ascii]

end Text

namespace Code

open Text

/-! ## Words -/

/-- A capital letter or a digit. -/
def IsLetter (c : Char) : Prop := ('A' ≤ c ∧ c ≤ 'Z') ∨ ('0' ≤ c ∧ c ≤ '9')

instance (c : Char) : Decidable (IsLetter c) := inferInstanceAs (Decidable (_ ∨ _))

/-- One or more letters. -/
structure IsWord (word : String) : Prop where
  inhabited : word ≠ ""
  letters : ∀ c ∈ word.toList, IsLetter c

/-- One or more words, joined by single underscores. -/
def IsWorded (code : String) : Prop :=
  ∃ words : List String, words ≠ [] ∧ (∀ word ∈ words, IsWord word) ∧
    code = "_".intercalate words

/-- The code begins as it has to, and is made of words. -/
structure IsProper (start code : String) : Prop where
  begun : ∃ rest, code = start ++ rest
  worded : IsWorded code

theorem isLetter_iff_toNat {c : Char} :
    IsLetter c ↔ (65 ≤ c.toNat ∧ c.toNat ≤ 90) ∨ (48 ≤ c.toNat ∧ c.toNat ≤ 57) := by
  have le (a b : Char) : a ≤ b ↔ a.toNat ≤ b.toNat := UInt32.le_iff_toNat_le
  simp only [IsLetter, le]
  rfl

theorem IsLetter.ne_underscore {c : Char} (h : IsLetter c) : c ≠ '_' := by
  rintro rfl
  exact absurd h (by decide)

/-- The words are the pieces between the underscores. -/
theorem isWorded_iff {code : String} :
    IsWorded code ↔
      ∀ piece ∈ code.toList.splitOn '_', piece ≠ [] ∧ ∀ c ∈ piece, IsLetter c := by
  constructor
  · rintro ⟨words, ne_nil, worded, rfl⟩
    -- Words hold no underscore, so that splitting what was joined gives them back.
    have apart : ∀ piece ∈ words.map String.toList, '_' ∉ piece := by
      rw [List.forall_mem_map]
      intro word hw mem
      exact ((worded word hw).letters _ mem).ne_underscore rfl
    rw [String.toList_intercalate, show "_".toList = ['_'] from rfl,
      List.splitOn_intercalate '_' apart (by simpa using ne_nil), List.forall_mem_map]
    intro word hw
    exact ⟨by simpa using (worded word hw).inhabited, (worded word hw).letters⟩
  · intro pieces
    refine ⟨(code.toList.splitOn '_').map String.ofList, by simp [List.splitOn_ne_nil],
      List.forall_mem_map.2 fun piece hp => ?_, ?_⟩
    · obtain ⟨ne_nil, letters⟩ := pieces piece hp
      exact ⟨by simpa [← String.toList_inj] using ne_nil, by simpa using letters⟩
    · rw [← String.toList_inj, String.toList_intercalate, List.map_map]
      simp [Function.comp_def, List.intercalate_splitOn]

-- Goes through the lists: an instance for all characters that there are would try each of them.
instance (code : String) : Decidable (IsWorded code) :=
  decidable_of_iff
    ((code.toList.splitOn '_').all fun piece => !piece.isEmpty && piece.all fun c => IsLetter c)
    (by simp [isWorded_iff])

/-! ## The check -/

theorem passes_iff_toNat {b : UInt8} :
    (isLetter b || b == '_'.toUInt8) ↔
      (65 ≤ b.toNat ∧ b.toNat ≤ 90) ∨ (48 ≤ b.toNat ∧ b.toNat ≤ 57) ∨ b.toNat = 95 := by
  simp only [isLetter, Bool.or_eq_true, Bool.and_eq_true, decide_eq_true_eq, beq_iff_eq,
    UInt8.le_iff_toNat_le, ← UInt8.toNat_inj, or_assoc]
  rfl

/-- The bytes pass if the characters between the underscores are letters. -/
theorem all_bytes_iff {code : String} :
    (code.toUTF8.data.all fun b => isLetter b || b == '_'.toUInt8) ↔
      ∀ c ∈ code.toList, c ≠ '_' → IsLetter c := by
  rw [all_toUTF8_iff fun b passes => by have := passes_iff_toNat.1 passes; omega]
  refine forall₂_congr fun c _ => ?_
  have underscore : c = '_' ↔ c.toNat = 95 := Char.toNat_inj.symm
  rw [passes_iff_toNat, isLetter_iff_toNat, ne_eq, underscore]
  constructor
  · rintro ⟨ascii, passes⟩
    rw [toNat_toUInt8_of_lt ascii] at passes
    omega
  · intro letter
    have ascii : c.toNat < 128 := by omega
    rw [toNat_toUInt8_of_lt ascii]
    omega

/-- The conditions of the check, told of the characters. -/
theorem isUpperSnakeCase_iff_characters {code : String} :
    isUpperSnakeCase code ↔
      ¬ (code.toList = [] ∨ ['_'] <+: code.toList ∨ ['_'] <:+ code.toList ∨
        ['_', '_'] <:+: code.toList) ∧
      ∀ c ∈ code.toList, c ≠ '_' → IsLetter c := by
  have empty : code.isEmpty ↔ code.toList = [] := by simp
  have first : code.startsWith '_' ↔ ['_'] <+: code.toList := by
    simp [String.startsWith_char_eq_head?, List.singleton_prefix_iff_head?_eq_some]
  have last : code.endsWith '_' ↔ ['_'] <:+ code.toList := by
    simp [String.endsWith_char_eq_getLast?, List.singleton_suffix_iff_getLast?_eq_some]
  have doubled : code.contains "__" ↔ ['_', '_'] <:+: code.toList := String.contains_string_iff
  rw [← empty, ← first, ← last, ← doubled, ← all_bytes_iff, isUpperSnakeCase]
  simp only [Bool.and_eq_true, Bool.not_eq_true', ← Bool.not_eq_true, not_or, and_assoc]

/-- A code passes if and only if it is made of words. -/
theorem isUpperSnakeCase_iff {code : String} : isUpperSnakeCase code ↔ IsWorded code := by
  -- The conditions on underscores say that no piece is empty, the one on bytes what is in them.
  have inhabited : (∀ piece ∈ code.toList.splitOn '_', piece ≠ []) ↔
      [] ∉ code.toList.splitOn '_' := by
    constructor
    · exact fun h mem => h _ mem rfl
    · rintro h piece hp rfl
      exact h hp
  rw [isUpperSnakeCase_iff_characters, ← nil_mem_splitOn_iff, ← forall_mem_splitOn_iff,
    ← inhabited, isWorded_iff]
  simp only [forall_and]

/-! ## Complaints -/

theorem exists_eq_append_iff {start code : String} :
    (∃ rest, code = start ++ rest) ↔ start.toList <+: code.toList := by
  constructor
  · rintro ⟨rest, rfl⟩
    simp
  · rintro ⟨rest, eq⟩
    exact ⟨String.ofList rest, by simp [← String.toList_inj, eq]⟩

theorem isProper_iff {start code : String} :
    IsProper start code ↔ (∃ rest, code = start ++ rest) ∧ IsWorded code :=
  ⟨fun h => ⟨h.begun, h.worded⟩, fun h => ⟨h.1, h.2⟩⟩

theorem startsWith_iff {code start : String} :
    code.startsWith start ↔ ∃ rest, code = start ++ rest :=
  String.startsWith_string_iff.trans exists_eq_append_iff.symm

theorem violation?_eq_none_iff {code start : String} :
    violation? code start = none ↔ IsProper start code := by
  rw [isProper_iff, ← startsWith_iff, ← isUpperSnakeCase_iff, violation?]
  cases code.startsWith start <;> cases isUpperSnakeCase code <;> simp

/-- How a code begins is looked at first. -/
theorem violation?_eq_wrongStart_iff {code start : String} :
    violation? code start = some .wrongStart ↔ ¬ ∃ rest, code = start ++ rest := by
  rw [← startsWith_iff, violation?]
  cases code.startsWith start <;> cases isUpperSnakeCase code <;> simp

theorem violation?_eq_notUpperSnakeCase_iff {code start : String} :
    violation? code start = some .notUpperSnakeCase ↔
      (∃ rest, code = start ++ rest) ∧ ¬ IsWorded code := by
  rw [← startsWith_iff, ← isUpperSnakeCase_iff, violation?]
  cases code.startsWith start <;> cases isUpperSnakeCase code <;> simp

/-- Letters beyond ASCII make no word, and what begins otherwise is no matter of words. -/
example :
    violation? "AUTHZ_É" "AUTHZ_" = some .notUpperSnakeCase ∧
      violation? "EVENT__É" "AUTHZ_" = some .wrongStart := by
  constructor <;> cbv

theorem map_text_eq_some_iff {broken? : Option Violation} {violation : Violation} :
    broken?.map Violation.text = some violation.text ↔ broken? = some violation := by
  rcases broken? with _ | _ | _ <;> cases violation <;> simp [Violation.text]

theorem complaintOf?_eq_none_iff {code start : String} :
    complaintOf? code start = none ↔ IsProper start code := by
  rw [complaintOf?, Option.map_eq_none_iff, violation?_eq_none_iff]

theorem complaintOf?_eq_some_iff {code start complaint : String} :
    complaintOf? code start = some complaint ↔
      ∃ violation, violation? code start = some violation ∧
        complaint = "error code " ++ quote code ++ " (expected prefix " ++ quote start ++ "): " ++
          violation.text := by
  simp only [complaintOf?, Option.map_eq_some_iff, eq_comm (a := complaint)]

section Errors

variable {ε : Type u} [Fault ε] {start : String} {errors : List ε}

theorem complaint?_eq_none_iff :
    complaint? (errors.map Fault.code) start = none ↔
      ∀ e ∈ errors, IsProper start (Fault.code e) := by
  simp only [complaint?, List.findSome?_map, List.findSome?_eq_none_iff, Function.comp_apply,
    complaintOf?_eq_none_iff]

theorem complaint?_eq_some_iff {complaint : String} :
    complaint? (errors.map Fault.code) start = some complaint ↔
      ∃ before e after, errors = before ++ e :: after ∧
        (∀ d ∈ before, IsProper start (Fault.code d)) ∧
        complaintOf? (Fault.code e) start = some complaint := by
  simp only [complaint?, List.findSome?_map, List.findSome?_eq_some_iff, Function.comp_apply,
    complaintOf?_eq_none_iff]
  constructor
  · rintro ⟨before, e, after, split, bad, proper⟩
    exact ⟨before, e, after, split, proper, bad⟩
  · rintro ⟨before, e, after, split, proper, bad⟩
    exact ⟨before, e, after, split, bad, proper⟩

end Errors

/-- A code breaks no rule if and only if it begins as it has to and is made of one or more words of
capital letters and digits, joined by single underscores. If it begins otherwise, that is what is
wrong with it, whatever else is; and if not, that it is not made of words. There is no complaint
about errors whose codes all break no rule; otherwise the complaint is about the first of them with
a code that breaks one. -/
theorem complains_of_first_improper [Fault ε] (start : String) (errors : List ε) :
    (∀ code,
      ((violation? code start).map Violation.text = none ↔ IsProper start code) ∧
      ((violation? code start).map Violation.text = some "wrong prefix" ↔
        ¬ ∃ rest, code = start ++ rest) ∧
      ((violation? code start).map Violation.text = some "not UPPER_SNAKE_CASE" ↔
        (∃ rest, code = start ++ rest) ∧ ¬ IsWorded code)) ∧
    (complaint? (errors.map Fault.code) start = none ↔
      ∀ e ∈ errors, IsProper start (Fault.code e)) ∧
    ∀ complaint, complaint? (errors.map Fault.code) start = some complaint ↔
      ∃ before e after, errors = before ++ e :: after ∧
        (∀ d ∈ before, IsProper start (Fault.code d)) ∧
        ∃ violation, violation? (Fault.code e) start = some violation ∧
          complaint = "error code " ++ quote (Fault.code e) ++ " (expected prefix " ++
            quote start ++ "): " ++ violation.text := by
  refine ⟨fun code => ⟨?_, ?_, ?_⟩, complaint?_eq_none_iff, fun complaint => ?_⟩
  · exact Option.map_eq_none_iff.trans violation?_eq_none_iff
  · exact map_text_eq_some_iff.trans violation?_eq_wrongStart_iff
  · exact map_text_eq_some_iff.trans violation?_eq_notUpperSnakeCase_iff
  · simp only [complaint?_eq_some_iff, complaintOf?_eq_some_iff]

/-! ## Codes of the library -/

instance (start code : String) : Decidable (IsProper start code) :=
  decidable_of_iff (start.toList <+: code.toList ∧ IsWorded code)
    (by rw [isProper_iff, exists_eq_append_iff])

/-- The code of every error begins with the part of the library that raises it. -/
theorem isProper_code :
    (∀ e : AccessError, IsProper "AUTHZ_" (Fault.code e)) ∧
    (∀ e : EventError, IsProper "EVENT_" (Fault.code e)) ∧
    (∀ e : ConfigError, IsProper "CONFIG_" (Fault.code e)) ∧
    ∀ e : LoggingError, IsProper "LOGGING_" (Fault.code e) := by
  refine ⟨fun e => ?_, fun e => ?_, fun e => ?_, fun e => ?_⟩
  all_goals
    cases e <;>
      simp only [Fault.code, AccessError.code, EventError.code, ConfigError.code,
        LoggingError.code] <;>
      decide +kernel

end Code

end Gatehouse
