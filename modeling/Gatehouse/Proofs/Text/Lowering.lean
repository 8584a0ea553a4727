import Gatehouse.Proofs.Text.Pieces
import Gatehouse.Text.Lowercase

/-!
# Lowered texts

Lowering a text once more changes nothing, although a character may become several, and a sigma
depends on what stands around it (`lowerChars_lowerChars`). Nor does lowering bring about blanks or
dividers: what it changes becomes ordinary characters, which is checked for the whole table of letters
(`isOrdinary_of_mem`).
-/

namespace Gatehouse.Text

/-! ## Code points in the table -/

/-- The code points that a run covers. -/
def CaseRun.codes (r : CaseRun) : List Nat :=
  List.range' r.first ((r.last - r.first) / r.step + 1) r.step

/-- Where the run moves a code point. -/
def CaseRun.move (r : CaseRun) (n : Nat) : Nat := (n + r.shift).toNat

theorem CaseRun.mem_codes_of_covers {r : CaseRun} {n : Nat} (h : r.covers n) : n ∈ r.codes := by
  simp only [covers, Bool.and_eq_true, decide_eq_true_eq] at h
  obtain ⟨⟨first, last⟩, aligned⟩ := h
  refine List.mem_range'.2 ⟨(n - r.first) / r.step, ?_, ?_⟩
  · exact Nat.lt_succ_of_le (Nat.div_le_div_right (by omega))
  · have := Nat.div_add_mod (n - r.first) r.step
    omega

def capitalCodes : List Nat := lowercaseRuns.flatMap CaseRun.codes

/-- What lowering can make of a character that it changes. A number that is no code point counts as
that of the null character. -/
def loweredCodes : List Nat :=
  0 :: 'ς'.toNat :: 'σ'.toNat :: 'i'.toNat :: '\u0307'.toNat ::
    lowercaseRuns.flatMap fun r => r.codes.map r.move

def blankCodes : List Nat :=
  blankRanges.flatMap fun range => List.range' range.1 (range.2 + 1 - range.1)

/-- The code points of capitals, of blanks and of the dividers of a permission. -/
def specialCodes : List Nat :=
  'İ'.toNat :: ':'.toNat :: ','.toNat :: (blankCodes ++ capitalCodes)

theorem mem_blankCodes_iff {c : Char} : c.toNat ∈ blankCodes ↔ isBlank c := by
  simp only [blankCodes, List.mem_flatMap, List.mem_range'_1, isBlank, inRanges, List.any_eq_true,
    Bool.and_eq_true, decide_eq_true_eq]
  refine exists_congr fun range => and_congr_right fun _ => ?_
  omega

theorem move_mem_loweredCodes {r : CaseRun} {n : Nat} (mem : r ∈ lowercaseRuns) (h : r.covers n) :
    r.move n ∈ loweredCodes := by
  have image := List.mem_map_of_mem (f := r.move) (r.mem_codes_of_covers h)
  have moved : r.move n ∈ lowercaseRuns.flatMap fun r => r.codes.map r.move :=
    List.mem_flatMap.2 ⟨r, mem, image⟩
  simp [loweredCodes, moved]

/-! ## Sets of code points -/

/-- A set of numbers, as the bits of one: two sets of a thousand members are compared at once. -/
def bits (l : List Nat) : Nat := l.foldr (fun n m => m ||| 1 <<< n) 0

theorem testBit_bits {l : List Nat} {n : Nat} : (bits l).testBit n = decide (n ∈ l) := by
  induction l with
  | nil => simp [bits]
  | cons k l ih =>
    have first : bits (k :: l) = bits l ||| 1 <<< k := rfl
    rw [first, Nat.testBit_or, ih, Nat.one_shiftLeft, Nat.testBit_two_pow]
    grind

theorem not_mem_of_bits_and_eq_zero {l m : List Nat} (h : bits l &&& bits m = 0) {n : Nat}
    (mem : n ∈ l) : n ∉ m := by
  intro other
  have both := congrArg (·.testBit n) h
  simp [testBit_bits, mem, other] at both

/-! ## Characters -/

/-- The character is neither a capital nor blank nor a divider. -/
def IsOrdinary (c : Char) : Prop := c.toNat ∉ specialCodes

/-- Lowering leaves the character as it is, wherever it stands. -/
def Settled (c : Char) : Prop := ∀ before after, lowerAt before c after = [c]

theorem bits_lowered_and_special : bits loweredCodes &&& bits specialCodes = 0 := by
  decide +kernel

theorem isOrdinary_of_mem {c : Char} (h : c.toNat ∈ loweredCodes) : IsOrdinary c :=
  not_mem_of_bits_and_eq_zero bits_lowered_and_special h

theorem isOrdinary_ofNat {n : Nat} (h : n ∈ loweredCodes) : IsOrdinary (Char.ofNat n) := by
  refine isOrdinary_of_mem ?_
  by_cases valid : n.isValidChar
  · rw [Char.ofNat, dif_pos valid]
    exact h
  · rw [Char.ofNat, dif_neg valid]
    exact List.mem_cons_self

theorem IsOrdinary.isBlank {c : Char} (h : IsOrdinary c) : isBlank c = false := by
  by_contra blank
  have mem : c.toNat ∈ blankCodes := mem_blankCodes_iff.2 (by simpa using blank)
  exact h (by grind [specialCodes])

/-- The first run lowers the letters `A` to `Z` too. -/
theorem lowerChar_of_ascii {c : Char} (ascii : c.toNat < 0x80) :
    let latin : CaseRun := ⟨0x41, 0x5A, 1, 32⟩
    lowerChar c = if latin.covers c.toNat then Char.ofNat (latin.move c.toNat) else c := by
  have all : ∀ n : Fin 128, (Char.ofNat n).toLower =
      if CaseRun.covers ⟨0x41, 0x5A, 1, 32⟩ n then
        Char.ofNat (CaseRun.move ⟨0x41, 0x5A, 1, 32⟩ n) else Char.ofNat n := by decide
  rw [lowerChar, if_pos ascii]
  simpa only [Char.ofNat_toNat] using all ⟨c.toNat, ascii⟩

theorem lowerChar_of_not_mem {c : Char} (h : c.toNat ∉ capitalCodes) : lowerChar c = c := by
  have uncovered (r : CaseRun) (mem : r ∈ lowercaseRuns) : ¬ r.covers c.toNat :=
    fun covers => h (List.mem_flatMap.2 ⟨r, mem, r.mem_codes_of_covers covers⟩)
  by_cases ascii : c.toNat < 0x80
  · rw [lowerChar_of_ascii ascii, if_neg (uncovered _ List.mem_cons_self)]
  · rw [lowerChar, if_neg ascii, List.find?_eq_none.2 uncovered]

theorem lowerChar_eq_self_or_isOrdinary (c : Char) : lowerChar c = c ∨ IsOrdinary (lowerChar c) := by
  by_cases ascii : c.toNat < 0x80
  · rw [lowerChar_of_ascii ascii]
    split
    next covers => exact .inr (isOrdinary_ofNat (move_mem_loweredCodes List.mem_cons_self covers))
    next => exact .inl rfl
  · rw [lowerChar, if_neg ascii]
    split
    next r found =>
      have mem := List.mem_of_find?_eq_some found
      have covers := List.find?_some found
      exact .inr (isOrdinary_ofNat (move_mem_loweredCodes mem covers))
    next => exact .inl rfl

theorem IsOrdinary.settled {c : Char} (h : IsOrdinary c) : Settled c := by
  have uncapital : c.toNat ∉ capitalCodes := fun mem => h (by grind [specialCodes])
  have sigma : c ≠ 'Σ' := by
    rintro rfl
    exact uncapital (by decide +kernel)
  have dotted : c ≠ 'İ' := by
    rintro rfl
    exact h List.mem_cons_self
  intro before after
  rw [lowerAt, if_neg sigma, if_neg dotted, lowerChar_of_not_mem uncapital]

/-- A character is lowered to ordinary ones, or stays as it is. -/
theorem isOrdinary_or_of_mem_lowerAt {before after : List Char} {c d : Char}
    (h : d ∈ lowerAt before c after) : IsOrdinary d ∨ d = c ∧ Settled c := by
  rw [lowerAt] at h
  split at h
  next =>
    refine .inl (isOrdinary_of_mem ?_)
    have : d = 'ς' ∨ d = 'σ' := by grind
    rcases this with rfl | rfl <;> simp [loweredCodes]
  next sigma =>
    split at h
    next =>
      refine .inl (isOrdinary_of_mem ?_)
      have : d = 'i' ∨ d = '\u0307' := by simpa using h
      rcases this with rfl | rfl <;> simp [loweredCodes]
    next dotted =>
      obtain rfl : d = lowerChar c := List.mem_singleton.1 h
      refine (lowerChar_eq_self_or_isOrdinary c).symm.imp_right fun same => ⟨same, ?_⟩
      intro before after
      rw [lowerAt, if_neg sigma, if_neg dotted, same]

theorem lowerAt_ne_nil (before : List Char) (c : Char) (after : List Char) :
    lowerAt before c after ≠ [] := by
  unfold lowerAt
  split
  · simp
  · split <;> simp

theorem isBlank_of_mem_lowerAt {before after : List Char} {c d : Char}
    (h : d ∈ lowerAt before c after) (inked : isBlank c = false) : isBlank d = false := by
  rcases isOrdinary_or_of_mem_lowerAt h with ordinary | ⟨rfl, -⟩
  · exact ordinary.isBlank
  · exact inked

/-! ## Texts -/

theorem lowerFrom_of_settled {cs : List Char} (h : ∀ c ∈ cs, Settled c) (before : List Char) :
    lowerFrom before cs = cs := by
  induction cs generalizing before with
  | nil => rfl
  | cons c cs ih =>
    obtain ⟨first, rest⟩ := List.forall_mem_cons.1 h
    rw [lowerFrom, first, ih rest, List.singleton_append]

theorem isOrdinary_or_of_mem_lowerFrom {before cs : List Char} {d : Char}
    (h : d ∈ lowerFrom before cs) : IsOrdinary d ∨ d ∈ cs ∧ Settled d := by
  induction cs generalizing before with
  | nil => simp [lowerFrom] at h
  | cons c cs ih =>
    rcases List.mem_append.1 h with here | later
    · rcases isOrdinary_or_of_mem_lowerAt here with ordinary | ⟨rfl, settled⟩
      · exact .inl ordinary
      · exact .inr ⟨List.mem_cons_self, settled⟩
    · exact (ih later).imp_right fun kept => ⟨List.mem_cons_of_mem c kept.1, kept.2⟩

/-- What has been lowered stays as it is. -/
theorem lowerChars_lowerChars (cs : List Char) : lowerChars (lowerChars cs) = lowerChars cs :=
  lowerFrom_of_settled (fun _ mem =>
    (isOrdinary_or_of_mem_lowerFrom mem).elim IsOrdinary.settled And.right) []

theorem not_mem_lowerChars {divider : Char} (special : divider.toNat ∈ specialCodes)
    {cs : List Char} (h : divider ∉ cs) : divider ∉ lowerChars cs := by
  intro mem
  rcases isOrdinary_or_of_mem_lowerFrom mem with ordinary | ⟨old, -⟩
  · exact ordinary special
  · exact h old

theorem lowerChars_ne_nil {cs : List Char} (h : cs ≠ []) : lowerChars cs ≠ [] := by
  cases cs with
  | nil => contradiction
  | cons c cs => simp [lowerChars, lowerFrom, lowerAt_ne_nil]

theorem exists_lowerFrom_concat (before cs : List Char) (c : Char) :
    ∃ u v, lowerFrom before (cs ++ [c]) = u ++ lowerAt v c [] := by
  induction cs generalizing before with
  | nil => exact ⟨[], before, by simp [lowerFrom]⟩
  | cons d cs ih =>
    obtain ⟨u, v, lowered⟩ := ih (d :: before)
    refine ⟨lowerAt before d (cs ++ [c]) ++ u, v, ?_⟩
    rw [List.cons_append, lowerFrom, lowered, List.append_assoc]

/-- Lowering adds no blanks around a text. -/
theorem trimChars_lowerChars {cs : List Char} (h : trimChars cs = cs) :
    trimChars (lowerChars cs) = lowerChars cs := by
  obtain ⟨first, last⟩ := trimChars_eq_self_iff.1 h
  refine trimChars_eq_self_iff.2 ⟨fun d head => ?_, fun d final => ?_⟩
  · cases cs with
    | nil => simp [lowerChars, lowerFrom] at head
    | cons c cs =>
      have mem : d ∈ lowerAt [] c cs := by
        rw [lowerChars, lowerFrom, List.head?_append_of_ne_nil _ (lowerAt_ne_nil _ _ _)] at head
        exact List.mem_of_head? head
      exact isBlank_of_mem_lowerAt mem (first c rfl)
  · rcases List.eq_nil_or_concat' cs with rfl | ⟨initial, c, rfl⟩
    · simp [lowerChars, lowerFrom] at final
    · obtain ⟨u, v, lowered⟩ := exists_lowerFrom_concat [] initial c
      have mem : d ∈ lowerAt v c [] := by
        rw [lowerChars, lowered, List.getLast?_append_of_ne_nil _ (lowerAt_ne_nil _ _ _)] at final
        exact List.mem_of_getLast? final
      exact isBlank_of_mem_lowerAt mem (last c (by simp))

end Gatehouse.Text
