import Mathlib.Data.List.DropRight
import Gatehouse.Text.Blank

/-!
# Pieces of a text

Blanks around a text change the pieces between its separators only at the outer ends, where trimming
a piece drops them again.

`trimChars_append_left` and `trimChars_append_right` say this of a single piece,
`splitOn_append_left` and `splitOn_append_right` tell which piece of a text its end belongs to, and
`nil_mem_splitOn_iff` which texts have an empty piece.
-/

namespace Gatehouse.Text

/-! ## Blanks at the ends -/

/-- Every character of the text is blank. -/
def AllBlank (cs : List Char) : Prop := ∀ c ∈ cs, isBlank c

theorem AllBlank.not_mem {cs : List Char} (h : AllBlank cs) {c : Char} (hc : isBlank c = false) :
    c ∉ cs := by
  intro mem
  simp [h c mem] at hc

theorem AllBlank.reverse {cs : List Char} (h : AllBlank cs) : AllBlank cs.reverse :=
  fun c hc => h c (List.mem_reverse.1 hc)

theorem trimChars_eq_nil {cs : List Char} (h : AllBlank cs) : trimChars cs = [] := by
  rw [trimChars, List.dropWhile_eq_nil_iff.2 h]
  rfl

/-- A text is its trimmed form between blanks. -/
theorem exists_eq_append_trimChars (cs : List Char) :
    ∃ before after, AllBlank before ∧ AllBlank after ∧ cs = before ++ trimChars cs ++ after := by
  have inner := List.takeWhile_append_dropWhile (p := isBlank) (l := (cs.dropWhile isBlank).reverse)
  refine ⟨cs.takeWhile isBlank, ((cs.dropWhile isBlank).reverse.takeWhile isBlank).reverse,
    fun c hc => List.mem_takeWhile_imp hc,
    fun c hc => List.mem_takeWhile_imp (List.mem_reverse.1 hc), ?_⟩
  rw [trimChars, List.append_assoc, ← List.reverse_append, inner, List.reverse_reverse,
    List.takeWhile_append_dropWhile]

theorem trimChars_eq_nil_iff {cs : List Char} : trimChars cs = [] ↔ AllBlank cs := by
  refine ⟨fun h => ?_, trimChars_eq_nil⟩
  obtain ⟨before, after, hb, ha, eq⟩ := exists_eq_append_trimChars cs
  rw [h, List.append_nil] at eq
  intro c hc
  rw [eq] at hc
  exact (List.mem_append.1 hc).elim (hb c) (ha c)

theorem trimChars_append_left {blanks : List Char} (h : AllBlank blanks) (cs : List Char) :
    trimChars (blanks ++ cs) = trimChars cs := by
  rw [trimChars, List.dropWhile_append_of_pos h, trimChars]

theorem trimChars_append_right {blanks : List Char} (h : AllBlank blanks) (cs : List Char) :
    trimChars (cs ++ blanks) = trimChars cs := by
  rw [trimChars, List.dropWhile_append]
  split
  next none =>
    have blank : AllBlank cs := List.dropWhile_eq_nil_iff.1 (List.isEmpty_iff.1 none)
    rw [trimChars_eq_nil blank, List.dropWhile_eq_nil_iff.2 h]
    rfl
  next some => rw [List.reverse_append, List.dropWhile_append_of_pos h.reverse, trimChars]

theorem trimChars_eq_self {cs : List Char} (h : ∀ c ∈ cs, isBlank c = false) :
    trimChars cs = cs := by
  have keep {ds : List Char} (h : ∀ c ∈ ds, isBlank c = false) : ds.dropWhile isBlank = ds := by
    cases ds with
    | nil => rfl
    | cons d ds => simp [h d List.mem_cons_self]
  rw [trimChars, keep h, keep fun c hc => h c (List.mem_reverse.1 hc), List.reverse_reverse]

theorem length_trimChars_le (cs : List Char) : (trimChars cs).length ≤ cs.length := by
  obtain ⟨before, after, -, -, eq⟩ := exists_eq_append_trimChars cs
  have := congrArg List.length eq
  simp only [List.length_append] at this
  omega

@[simp] theorem trimChars_trimChars (cs : List Char) : trimChars (trimChars cs) = trimChars cs := by
  obtain ⟨before, after, hb, ha, eq⟩ := exists_eq_append_trimChars cs
  have same := congrArg trimChars eq
  rw [trimChars_append_right ha, trimChars_append_left hb] at same
  exact same.symm

theorem trimChars_subset (cs : List Char) : trimChars cs ⊆ cs := by
  obtain ⟨before, after, -, -, eq⟩ := exists_eq_append_trimChars cs
  intro c mem
  rw [eq]
  simp [mem]

/-- A text is trimmed when it neither begins nor ends with a blank. -/
theorem trimChars_eq_self_iff {cs : List Char} :
    trimChars cs = cs ↔
      (∀ c, cs.head? = some c → isBlank c = false) ∧
        ∀ c, cs.getLast? = some c → isBlank c = false := by
  have allBlank {c : Char} (blank : isBlank c) : AllBlank [c] := by simpa [AllBlank] using blank
  constructor
  · intro trimmed
    refine ⟨fun c head => ?_, fun c last => ?_⟩
    · by_contra blank
      obtain ⟨rest, rfl⟩ := List.head?_eq_some_iff.1 head
      have shorter := trimChars_append_left (allBlank (by simpa using blank)) rest
      have := length_trimChars_le rest
      rw [List.singleton_append, trimmed] at shorter
      rw [← shorter, List.length_cons] at this
      omega
    · by_contra blank
      obtain ⟨initial, rfl⟩ := List.getLast?_eq_some_iff.1 last
      have shorter := trimChars_append_right (allBlank (by simpa using blank)) initial
      have := length_trimChars_le initial
      rw [trimmed] at shorter
      rw [← shorter, List.length_append, List.length_singleton] at this
      omega
  · rintro ⟨first, last⟩
    have keep {ds : List Char} (h : ∀ c, ds.head? = some c → isBlank c = false) :
        ds.dropWhile isBlank = ds := by
      cases ds with
      | nil => rfl
      | cons d ds => simp [h d rfl]
    have reversed : cs.reverse.dropWhile isBlank = cs.reverse :=
      keep fun c head => last c (by rwa [List.head?_reverse] at head)
    rw [trimChars, keep first, reversed, List.reverse_reverse]

/-! ## Separators -/

theorem splitOn_cons_of_ne {sep c : Char} (h : c ≠ sep) (cs : List Char) :
    ∃ first rest, cs.splitOn sep = first :: rest ∧
      (c :: cs).splitOn sep = (c :: first) :: rest := by
  obtain ⟨first, rest, eq⟩ := List.exists_cons_of_ne_nil (List.splitOn_ne_nil sep cs)
  refine ⟨first, rest, eq, ?_⟩
  simp [List.splitOn_cons_eq_if_modifyHead, h, eq]

/-- There is one piece more than there are separators. -/
theorem length_splitOn (sep : Char) (cs : List Char) :
    (cs.splitOn sep).length = cs.count sep + 1 := by
  induction cs with
  | nil => rfl
  | cons c cs ih =>
    by_cases same : c = sep
    · rw [same, List.splitOn_cons_eq_if_modifyHead]
      simp [ih]
    · obtain ⟨first, rest, eq, grown⟩ := splitOn_cons_of_ne same cs
      rw [grown, List.count_cons_of_ne same, ← ih, eq]
      rfl

/-- A piece of a longer text is a new one, or a piece of the shorter text as it was or grown by the
character in front. -/
theorem mem_splitOn_cons {sep c : Char} {cs piece : List Char}
    (h : piece ∈ (c :: cs).splitOn sep) :
    piece = [] ∨ piece ∈ cs.splitOn sep ∨
      c ≠ sep ∧ ∃ first ∈ cs.splitOn sep, piece = c :: first := by
  by_cases same : c = sep
  · simp only [List.splitOn_cons_eq_if_modifyHead, same, beq_self_eq_true, if_true] at h
    exact (List.mem_cons.1 h).imp_right .inl
  · obtain ⟨first, rest, eq, grown⟩ := splitOn_cons_of_ne same cs
    rw [grown] at h
    rw [eq]
    rcases List.mem_cons.1 h with rfl | h
    · exact .inr (.inr ⟨same, first, List.mem_cons_self, rfl⟩)
    · exact .inr (.inl (List.mem_cons_of_mem _ h))

/-- The first piece is empty in a text that is empty or begins with the separator. -/
theorem head?_splitOn_eq_nil_iff {sep : Char} {cs : List Char} :
    (cs.splitOn sep).head? = some [] ↔ cs = [] ∨ [sep] <+: cs := by
  cases cs with
  | nil => simp
  | cons c cs =>
    by_cases same : c = sep
    · simp [List.splitOn_cons_eq_if_modifyHead, same]
    · obtain ⟨first, rest, -, grown⟩ := splitOn_cons_of_ne same cs
      simp [grown, List.cons_prefix_cons, Ne.symm same]

/-- A later piece is empty in a text that ends with the separator or has two of them in a row. -/
theorem nil_mem_tail_splitOn_iff {sep : Char} {cs : List Char} :
    [] ∈ (cs.splitOn sep).tail ↔ [sep] <:+ cs ∨ [sep, sep] <:+: cs := by
  induction cs with
  | nil => simp
  | cons c cs ih =>
    rw [List.suffix_cons_iff, List.infix_cons_iff]
    by_cases same : c = sep
    · -- With a separator before them all pieces of the shorter text are later ones.
      obtain ⟨first, rest, eq⟩ := List.exists_cons_of_ne_nil (List.splitOn_ne_nil sep cs)
      have begins : first = [] ↔ cs = [] ∨ [sep] <+: cs := by
        simp [← head?_splitOn_eq_nil_iff, eq]
      rw [eq, List.tail_cons] at ih
      simp only [List.splitOn_cons_eq_if_modifyHead, same, eq, beq_self_eq_true, if_true,
        List.tail_cons, List.mem_cons, List.cons_prefix_cons, List.cons.injEq, true_and,
        eq_comm (a := ([] : List Char)), begins, ih]
      tauto
    · obtain ⟨first, rest, eq, grown⟩ := splitOn_cons_of_ne same cs
      rw [eq, List.tail_cons] at ih
      simp [grown, ih, Ne.symm same]

/-- No piece is empty in a text that has no separator at its ends and no two of them in a row. -/
theorem nil_mem_splitOn_iff {sep : Char} {cs : List Char} :
    [] ∈ cs.splitOn sep ↔ cs = [] ∨ [sep] <+: cs ∨ [sep] <:+ cs ∨ [sep, sep] <:+: cs := by
  rw [← or_assoc, ← head?_splitOn_eq_nil_iff, ← nil_mem_tail_splitOn_iff]
  cases cs.splitOn sep <;> simp [eq_comm]

theorem not_mem_of_mem_splitOn {sep : Char} {cs piece : List Char} (h : piece ∈ cs.splitOn sep) :
    sep ∉ piece := by
  induction cs generalizing piece with
  | nil => simp_all
  | cons c cs ih =>
    rcases mem_splitOn_cons h with rfl | old | ⟨other, first, old, rfl⟩
    · exact List.not_mem_nil
    · exact ih old
    · have := ih old
      grind

/-- The characters of a piece are characters of the text. -/
theorem subset_of_mem_splitOn {sep : Char} {cs piece : List Char} (h : piece ∈ cs.splitOn sep) :
    piece ⊆ cs := by
  induction cs generalizing piece with
  | nil => simp_all
  | cons c cs ih =>
    rcases mem_splitOn_cons h with rfl | old | ⟨-, first, old, rfl⟩
    · exact List.nil_subset _
    · exact fun d hd => List.mem_cons_of_mem _ (ih old hd)
    · exact List.cons_subset_cons _ (ih old)

/-- Texts that are joined bring in nothing but the separator. -/
theorem not_mem_intercalate {sep c : Char} (other : c ≠ sep) {pieces : List (List Char)}
    (h : ∀ piece ∈ pieces, c ∉ piece) : c ∉ [sep].intercalate pieces := by
  induction pieces with
  | nil => simp
  | cons first rest ih =>
    obtain ⟨here, later⟩ := List.forall_mem_cons.1 h
    cases rest with
    | nil => simpa using here
    | cons second rest =>
      have := ih later
      simp [here, other, this]

/-- The pieces have the characters of the text, less the separator. -/
theorem forall_mem_splitOn_iff {sep : Char} {cs : List Char} {p : Char → Prop} :
    (∀ piece ∈ cs.splitOn sep, ∀ c ∈ piece, p c) ↔ ∀ c ∈ cs, c ≠ sep → p c := by
  constructor
  · intro pieces c mem other
    by_contra fails
    refine not_mem_intercalate other (fun piece hp hc => fails (pieces piece hp c hc)) ?_
    rwa [List.intercalate_splitOn]
  · intro text piece hp c hc
    refine text c (subset_of_mem_splitOn hp hc) ?_
    rintro rfl
    exact not_mem_of_mem_splitOn hp hc

/-- Characters put before a text go to its first piece. -/
theorem splitOn_append_left (sep : Char) {before : List Char} (h : sep ∉ before) (cs : List Char) :
    ∃ first rest, cs.splitOn sep = first :: rest ∧
      (before ++ cs).splitOn sep = (before ++ first) :: rest := by
  induction before with
  | nil =>
    obtain ⟨first, rest, eq⟩ := List.exists_cons_of_ne_nil (List.splitOn_ne_nil sep cs)
    exact ⟨first, rest, eq, eq⟩
  | cons b before ih =>
    obtain ⟨other, h⟩ := not_or.1 (List.mem_cons.not.1 h)
    obtain ⟨first, rest, eq, grown⟩ := ih h
    obtain ⟨first', rest', eq', grown'⟩ := splitOn_cons_of_ne (Ne.symm other) (before ++ cs)
    refine ⟨first, rest, eq, ?_⟩
    rw [List.cons_append, grown', List.cons_append]
    simp_all

/-- Characters put after a text go to its last piece. -/
theorem splitOn_append_right (sep : Char) {after : List Char} (h : sep ∉ after) (cs : List Char) :
    ∃ initial last, cs.splitOn sep = initial ++ [last] ∧
      (cs ++ after).splitOn sep = initial ++ [last ++ after] := by
  induction cs with
  | nil => exact ⟨[], [], rfl, List.splitOn_eq_singleton h⟩
  | cons c cs ih =>
    obtain ⟨initial, last, eq, grown⟩ := ih
    by_cases same : c = sep
    · refine ⟨[] :: initial, last, ?_, ?_⟩ <;>
        simp [List.splitOn_cons_eq_if_modifyHead, same, eq, grown]
    · cases initial with
      | nil => refine ⟨[], c :: last, ?_, ?_⟩ <;>
          simp [List.splitOn_cons_eq_if_modifyHead, same, eq, grown]
      | cons first initial => refine ⟨(c :: first) :: initial, last, ?_, ?_⟩ <;>
          simp [List.splitOn_cons_eq_if_modifyHead, same, eq, grown]

end Gatehouse.Text
