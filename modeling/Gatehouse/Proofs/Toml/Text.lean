import Gatehouse.Toml.Text

/-!
# Texts in TOML are read as they are written

Whatever a text is, and in whichever style it is written, reading it gives the text back
(`readText_writeText`). A character of an escaping text is shown as itself or by an escape
(`Shown`), and over lines no closing quotes are met too early (`closeLines_append`), since the
writer leaves at most two quotes in a row.
-/

namespace Gatehouse.Toml

variable {c q : Char} {cs rest piece : List Char} {n : Nat}

/-! ## Characters -/

theorem toNat_lt_of_not_isPlain (h : isPlain c = false) : c.toNat < 128 := by
  simp only [isPlain, Bool.or_eq_false_iff, Bool.and_eq_false_iff, decide_eq_false_iff_not] at h
  omega

theorem readCodePoint_of_toNat {size : Nat} {digits : List (Fin 16)}
    (read : (cs.take size).mapM Text.hexValue? = some digits) (all : digits.length = size)
    (code : Text.ofHexDigits digits = c.toNat) :
    readCodePoint size cs = some (c, cs.drop size) := by
  have valid : (Text.ofHexDigits digits).isValidChar := code ▸ c.valid
  have same : Char.ofNatAux (Text.ofHexDigits digits) valid = c :=
    Char.ext (UInt32.toNat_inj.1 code)
  rw [readCodePoint, read]
  exact (dif_pos valid).trans ((if_pos all).trans (by rw [same]))

/-- A character is shown by its code point. -/
theorem readEscape_codeEscape (small : c.toNat < 256) :
    readEscape ((codeEscape c).tail ++ rest) = some (c, rest) := by
  have zero : Text.hexValue? '0' = some 0 := by decide
  have high := Text.hexValue?_hexDigitUpper (Text.lastHexDigit (c.toNat / 16))
  have low := Text.hexValue?_hexDigitUpper (Text.lastHexDigit c.toNat)
  have code : Text.ofHexDigits
      [0, 0, Text.lastHexDigit (c.toNat / 16), Text.lastHexDigit c.toNat] = c.toNat := by
    simp only [Text.ofHexDigits, Text.lastHexDigit, Fin.ofNat, List.foldl_cons, List.foldl_nil,
      Fin.val_zero]
    omega
  have digits : (((codeEscape c).tail.tail ++ rest).take 4).mapM Text.hexValue? =
      some [0, 0, Text.lastHexDigit (c.toNat / 16), Text.lastHexDigit c.toNat] := by
    simp [codeEscape, zero, high, low]
  exact readCodePoint_of_toNat digits rfl code

/-- The ways to show a character in an escaping text: as itself, or by an escape that does not
continue the line. -/
inductive Shown (c : Char) : List Char → Prop
  | plain (plain : isPlain c) (other : c ≠ '\\') : Shown c [c]
  | escaped {e : List Char} (read : ∀ rest, readEscape (e ++ rest) = some (c, rest))
      (ends : ∀ rest, continued? (e ++ rest) = none) : Shown c ('\\' :: e)

theorem Shown.ite {d : Char} {own other : List Char} (marked : Shown d own)
    (apart : c ≠ d → Shown c other) : Shown c (if c = d then own else other) := by
  split
  next same => exact same ▸ marked
  next different => exact apart different

theorem shown_writeChar (c : Char) : Shown c (writeChar c) := by
  unfold writeChar
  refine .ite (.escaped (fun _ => rfl) fun _ => rfl) fun _ => ?_
  refine .ite (.escaped (fun _ => rfl) fun _ => rfl) fun _ => ?_
  refine .ite (.escaped (fun _ => rfl) fun _ => rfl) fun _ => ?_
  refine .ite (.escaped (fun _ => rfl) fun _ => rfl) fun _ => ?_
  refine .ite (.escaped (fun _ => rfl) fun _ => rfl) fun other => ?_
  split
  next plain => exact .plain plain other
  next control =>
    have small := toNat_lt_of_not_isPlain (by simpa using control)
    exact .escaped (fun _ => readEscape_codeEscape (by omega)) fun _ => rfl

/-- What shows a character begins with one that stands for itself on a line. -/
theorem Shown.isPlain_head (h : Shown c piece) (more : List Char) :
    ∃ d l, piece ++ more = d :: l ∧ isPlain d ∧ (c ≠ '"' → d ≠ '"') := by
  cases h with
  | plain plain => exact ⟨c, more, rfl, plain, id⟩
  | escaped => exact ⟨_, _, rfl, by decide, fun _ => by decide⟩

theorem shown_quote : Shown '"' ['\\', '"'] := .escaped (fun _ => rfl) fun _ => rfl

theorem shown_lineEnd : Shown '\n' ['\\', 'n'] := .escaped (fun _ => rfl) fun _ => rfl

theorem prepend_eq (text : List Char) : prepend c (text, rest) = (c :: text, rest) := rfl

/-! ## One line -/

theorem readBasic_of_shown (h : Shown c piece) (unquoted : piece ≠ ['"']) :
    readBasic (n + 1) (piece ++ rest) = (readBasic n rest).map (prepend c) := by
  cases h with
  | plain plain other =>
    have unquoted : c ≠ '"' := by simpa using unquoted
    simp [readBasic, plain]
  | escaped read => simp [readBasic, read]

theorem readBasic_writeBasic (enough : cs.length < n) :
    readBasic n (writeBasic cs ++ '"' :: rest) = some (cs, rest) := by
  induction cs generalizing n with
  | nil =>
    obtain ⟨n, rfl⟩ := Nat.exists_eq_add_of_lt enough
    simp [writeBasic, readBasic]
  | cons c cs ih =>
    obtain ⟨m, rfl⟩ : ∃ m, n = m + 1 := ⟨n - 1, by omega⟩
    have ih := ih (n := m) (by simpa using enough)
    have step {piece : List Char} (h : Shown c piece) (unquoted : piece ≠ ['"']) :
        readBasic (m + 1) (piece ++ (writeBasic cs ++ '"' :: rest)) = some (c :: cs, rest) := by
      rw [readBasic_of_shown h unquoted, ih]
      rfl
    by_cases quote : c = '"'
    · subst quote
      exact step shown_quote (by simp)
    by_cases line : c = '\n'
    · subst line
      exact step shown_lineEnd (by simp)
    have shown := shown_writeChar c
    have unquoted : writeChar c ≠ ['"'] := by
      intro same
      obtain ⟨d, l, head, -, other⟩ := shown.isPlain_head []
      rw [same] at head
      exact other quote (List.cons.inj head).1.symm
    rw [writeBasic, List.append_assoc]
    · exact step shown unquoted
    · exact quote
    · exact line

theorem length_le_length_writeBasic (cs : List Char) : cs.length ≤ (writeBasic cs).length := by
  fun_induction writeBasic cs with
  | case1 => simp
  | case2 cs ih => simp; omega
  | case3 cs ih => simp; omega
  | case4 c cs _ _ ih =>
    obtain ⟨d, l, shown, -⟩ := (shown_writeChar c).isPlain_head []
    simp_all
    omega

theorem readLiteral_append (plain : ∀ c ∈ cs, isPlain c) (unquoted : '\'' ∉ cs) :
    readLiteral (cs ++ '\'' :: rest) = some (cs, rest) := by
  induction cs with
  | nil => rfl
  | cons c cs ih =>
    obtain ⟨first, others⟩ := List.forall_mem_cons.1 plain
    obtain ⟨other, free⟩ := not_or.1 (mt List.mem_cons.2 unquoted)
    rw [List.cons_append, readLiteral, if_pos first, ih others free]
    · rfl
    · exact fun same => other same.symm

/-! ## Lines -/

/-- Closing quotes are met as soon as nothing but quotes is left of a text, and not before. -/
theorem closeLines_append (body : List Char) (short : (body.takeWhile (· = q)).length ≤ 2)
    (ends : rest.head? ≠ some q) :
    closeLines q (body ++ q :: q :: q :: rest) =
      if body.all (· = q) then some (body, rest) else none := by
  match body with
  | [] => rcases rest with _ | ⟨d, _ | ⟨e, rest⟩⟩ <;> simp_all [closeLines]
  | [a] => rcases rest with _ | ⟨d, rest⟩ <;> by_cases first : a = q <;> simp_all [closeLines]
  | [a, b] => by_cases first : a = q <;> by_cases second : b = q <;> simp_all [closeLines]
  | a :: b :: c :: body =>
    have apart : ¬ (a = q ∧ b = q ∧ c = q) := by
      rintro ⟨rfl, rfl, rfl⟩
      simp at short
    simp [closeLines]
    grind

theorem lineEnd?_of_isPlain (h : isPlain c) : lineEnd? (c :: cs) = none := by
  have line : c ≠ '\n' := by rintro rfl; contradiction
  have carriage : c ≠ '\r' := by rintro rfl; contradiction
  simp [lineEnd?, line, carriage]

theorem readBasicLines_of_shown (h : Shown c piece)
    (opened : closeLines '"' (piece ++ rest) = none) :
    readBasicLines (n + 1) (piece ++ rest) = (readBasicLines n rest).map (prepend c) := by
  cases h with
  | plain plain other =>
    rw [List.singleton_append] at opened ⊢
    simp [readBasicLines, opened, lineEnd?_of_isPlain plain, plain]
  | escaped read ends =>
    rw [List.cons_append] at opened ⊢
    simp [readBasicLines, opened, ends, read]

theorem takeWhile_writeBasicLines (cs : List Char) {k : Nat} (few : k ≤ 2) :
    ((writeBasicLines k cs).takeWhile (· = '"')).length ≤ 2 - k := by
  fun_induction writeBasicLines k cs with
  | case1 => simp
  | case2 cs ih => simp
  | case3 k cs more ih =>
    have ih := ih (by omega)
    simp
    omega
  | case4 => simp
  | case5 k c cs quote line ih =>
    obtain ⟨d, l, shown, -, other⟩ := (shown_writeChar c).isPlain_head (writeBasicLines 0 cs)
    rw [shown]
    simp [other quote]

/-- The body that is written is all quotes only if the text is. -/
theorem writeBasicLines_of_all {k : Nat} (all : (writeBasicLines k cs).all (· = '"')) :
    writeBasicLines k cs = cs := by
  fun_induction writeBasicLines k cs with
  | case1 => rfl
  | case2 => simp at all
  | case3 k cs more ih => simpa using ih (by simpa using all)
  | case4 => simp at all
  | case5 k c cs quote line ih =>
    obtain ⟨d, l, shown, -, other⟩ := (shown_writeChar c).isPlain_head (writeBasicLines 0 cs)
    rw [shown] at all
    simp [other quote] at all

theorem readBasicLines_writeBasicLines {k : Nat} (few : k ≤ 2) (ends : rest.head? ≠ some '"')
    (enough : cs.length < n) :
    readBasicLines n (writeBasicLines k cs ++ '"' :: '"' :: '"' :: rest) = some (cs, rest) := by
  induction cs generalizing n k with
  | nil =>
    obtain ⟨m, rfl⟩ : ∃ m, n = m + 1 := ⟨n - 1, by omega⟩
    have closed := closeLines_append [] (by simp) ends
    simp_all [writeBasicLines, readBasicLines]
  | cons c cs ih =>
    obtain ⟨m, rfl⟩ : ∃ m, n = m + 1 := ⟨n - 1, by omega⟩
    have fewer : cs.length < m := by simpa using enough
    have short := takeWhile_writeBasicLines (c :: cs) few
    have closing := closeLines_append (writeBasicLines k (c :: cs)) (by omega) ends
    by_cases all : (writeBasicLines k (c :: cs)).all (· = '"')
    · have same := writeBasicLines_of_all all
      rw [if_pos all, same] at closing
      rw [same]
      simp only [readBasicLines, closing]
    rw [if_neg all] at closing
    have step {j : Nat} {piece : List Char} (few : j ≤ 2) (h : Shown c piece)
        (written : writeBasicLines k (c :: cs) = piece ++ writeBasicLines j cs) :
        readBasicLines (m + 1) (writeBasicLines k (c :: cs) ++ '"' :: '"' :: '"' :: rest) =
          some (c :: cs, rest) := by
      rw [written, List.append_assoc] at closing ⊢
      rw [readBasicLines_of_shown h closing, ih few fewer]
      rfl
    by_cases quote : c = '"'
    · subst quote
      -- after two quotes the third is escaped, so that no more than two stand in a row
      by_cases third : k = 2
      · exact step (j := 0) (by omega) shown_quote (by simp [writeBasicLines, third])
      · exact step (j := k + 1) (by omega) (.plain rfl (by decide))
          (by simp [writeBasicLines, third])
    by_cases line : c = '\n'
    · subst line
      rw [writeBasicLines] at closing ⊢
      have ih := ih (k := 0) (by omega) fewer
      simp_all [readBasicLines, lineEnd?, prepend_eq]
    · exact step (j := 0) (by omega) (shown_writeChar c) (by simp [writeBasicLines])

theorem length_le_length_writeBasicLines (k : Nat) (cs : List Char) :
    cs.length ≤ (writeBasicLines k cs).length := by
  fun_induction writeBasicLines k cs with
  | case1 => simp
  | case2 cs ih => simp; omega
  | case3 k cs more ih => simp; omega
  | case4 k cs ih => simp; omega
  | case5 k c cs _ _ ih =>
    obtain ⟨d, l, shown, -⟩ := (shown_writeChar c).isPlain_head []
    simp_all
    omega

/-! ### Verbatim -/

/-- No more than two of a character stand in a row. -/
def AtMostTwo (q : Char) (cs : List Char) : Prop :=
  ∀ l, l <:+ cs → (l.takeWhile (· = q)).length ≤ 2

theorem readLiteralLines_append (verbatim : ∀ c ∈ cs, isPlain c ∨ c = '\n')
    (few : AtMostTwo '\'' cs) (ends : rest.head? ≠ some '\'') (enough : cs.length < n) :
    readLiteralLines n (cs ++ '\'' :: '\'' :: '\'' :: rest) = some (cs, rest) := by
  induction cs generalizing n with
  | nil =>
    obtain ⟨m, rfl⟩ : ∃ m, n = m + 1 := ⟨n - 1, by omega⟩
    have closed := closeLines_append [] (by simp) ends
    simp_all [readLiteralLines]
  | cons c cs ih =>
    obtain ⟨m, rfl⟩ : ∃ m, n = m + 1 := ⟨n - 1, by omega⟩
    obtain ⟨first, others⟩ := List.forall_mem_cons.1 verbatim
    have ih := ih others (fun l mem => few l (mem.trans (List.suffix_cons c cs)))
      (n := m) (by simpa using enough)
    have closing := closeLines_append (c :: cs) (few _ List.suffix_rfl) ends
    by_cases all : (c :: cs).all (· = '\'')
    · rw [if_pos all] at closing
      simp only [readLiteralLines, closing]
    · rw [if_neg all] at closing
      rw [List.cons_append] at closing ⊢
      rcases first with plain | rfl
      · simp [readLiteralLines, closing, lineEnd?_of_isPlain plain, plain, ih, prepend_eq]
      · simp [readLiteralLines, closing, lineEnd?, ih, prepend_eq]

/-- Counts a character: the length of the run that it ends, and the longest run so far. -/
def countRun (q : Char) (state : Nat × Nat) (c : Char) : Nat × Nat :=
  if c = q then (state.1 + 1, max state.2 (state.1 + 1)) else (0, state.2)

theorem longestRun_eq : longestRun q cs = (cs.foldl (countRun q) (0, 0)).2 := rfl

/-- Counting on, the longest run is not shorter than the one that was going on and goes on. -/
theorem le_foldl_countRun (q : Char) (cs : List Char) {state : Nat × Nat}
    (counted : state.1 ≤ state.2) :
    state.2 ≤ (cs.foldl (countRun q) state).2 ∧
      state.1 + (cs.takeWhile (· = q)).length ≤ (cs.foldl (countRun q) state).2 := by
  induction cs generalizing state with
  | nil => simpa using counted
  | cons c cs ih =>
    have ih := @ih (countRun q state c)
    rw [List.foldl_cons]
    by_cases same : c = q
    · simp [countRun, same] at ih ⊢
      omega
    · simp [countRun, same] at ih ⊢
      omega

theorem foldl_countRun_le {state : Nat × Nat} (counted : state.1 ≤ state.2) :
    (cs.foldl (countRun q) state).1 ≤ (cs.foldl (countRun q) state).2 := by
  induction cs generalizing state with
  | nil => exact counted
  | cons c cs ih =>
    refine ih ?_
    rw [countRun]
    split
    · exact Nat.le_max_right _ _
    · exact Nat.zero_le _

theorem atMostTwo_of_longestRun (short : longestRun q cs ≤ 2) : AtMostTwo q cs := by
  rintro l ⟨before, rfl⟩
  rw [longestRun_eq, List.foldl_append] at short
  have counted : (before.foldl (countRun q) (0, 0)).1 ≤ (before.foldl (countRun q) (0, 0)).2 :=
    foldl_countRun_le (Nat.le_refl 0)
  have := (le_foldl_countRun q l counted).2
  omega

/-! ## Every style -/

/-- The text can be written in the style. -/
def Style.Holds (cs : List Char) : Style → Prop
  | basic | basicLines => True
  | literal => (∀ c ∈ cs, isPlain c) ∧ '\'' ∉ cs
  | literalLines => (∀ c ∈ cs, isPlain c ∨ c = '\n') ∧ AtMostTwo '\'' cs

theorem Style.holds_of (cs : List Char) : (Style.of cs).Holds cs := by
  have shown (h : cs.any needsEscape = false) : ∀ c ∈ cs, isPlain c ∨ c = '\n' := by
    intro c mem
    have := List.any_eq_false.1 h c mem
    simp only [needsEscape, Bool.and_eq_true, Bool.not_eq_true', decide_eq_true_eq] at this
    grind
  unfold Style.of
  dsimp only
  split
  · trivial
  split
  next h =>
    simp only [Bool.and_eq_true, Bool.not_eq_true', List.contains_eq_mem,
      decide_eq_false_iff_not] at h
    obtain ⟨⟨control, line⟩, quote⟩ := h
    refine ⟨fun c mem => ?_, quote⟩
    rcases shown control c mem with plain | rfl
    · exact plain
    · contradiction
  split
  · trivial
  split
  next h =>
    simp only [Bool.and_eq_true, Bool.not_eq_true', decide_eq_true_eq] at h
    exact ⟨shown h.1, atMostTwo_of_longestRun h.2⟩
  split <;> trivial

theorem lineEnd?_openLines {body : List Char} (begins : '\n' ∉ cs → lineEnd? body = none) :
    (lineEnd? (openLines cs ++ body)).getD (openLines cs ++ body) = body := by
  by_cases line : '\n' ∈ cs
  · simp [openLines, line, lineEnd?]
  · simp [openLines, line, begins line]

theorem lineEnd?_writeBasicLines (oneLine : '\n' ∉ cs) :
    lineEnd? (writeBasicLines 0 cs ++ '"' :: '"' :: '"' :: rest) = none := by
  cases cs with
  | nil => rfl
  | cons c cs =>
    by_cases quote : c = '"'
    · subst quote
      rfl
    · have line : c ≠ '\n' := by grind
      obtain ⟨d, l, shown, plain, -⟩ := (shown_writeChar c).isPlain_head
        (writeBasicLines 0 cs ++ '"' :: '"' :: '"' :: rest)
      rw [writeBasicLines, List.append_assoc, shown]
      · exact lineEnd?_of_isPlain plain
      · exact quote
      · exact line

theorem lineEnd?_literal (verbatim : ∀ c ∈ cs, isPlain c ∨ c = '\n') (oneLine : '\n' ∉ cs) :
    lineEnd? (cs ++ '\'' :: '\'' :: '\'' :: rest) = none := by
  cases cs with
  | nil => rfl
  | cons c cs =>
    obtain ⟨first, -⟩ := List.forall_mem_cons.1 verbatim
    refine lineEnd?_of_isPlain (first.resolve_right ?_)
    grind

/-- A single opening quote is not taken for a tripled one. -/
theorem writeBasic_append_ne (cs : List Char) (double : rest.head? ≠ some '"') (more : List Char) :
    writeBasic cs ++ '"' :: rest ≠ '"' :: '"' :: more := by
  cases cs with
  | nil =>
    rintro same
    simp_all [writeBasic]
  | cons c cs =>
    by_cases quote : c = '"'
    · subst quote
      simp [writeBasic]
    by_cases line : c = '\n'
    · subst line
      simp [writeBasic]
    obtain ⟨d, l, shown, -, other⟩ :=
      (shown_writeChar c).isPlain_head (writeBasic cs ++ '"' :: rest)
    rw [writeBasic, List.append_assoc, shown]
    · intro same
      exact other quote (List.cons.inj same).1
    · exact quote
    · exact line

theorem readText_writeAs {style : Style} (holds : style.Holds cs) (double : rest.head? ≠ some '"')
    (single : rest.head? ≠ some '\'') : readText (writeAs cs style ++ rest) = some (cs, rest) := by
  cases style with
  | basic =>
    have opened := writeBasic_append_ne cs double
    simp only [writeAs, List.append_assoc, List.cons_append, List.nil_append]
    rw [readText]
    · refine readBasic_writeBasic ?_
      have := length_le_length_writeBasic cs
      simp
      omega
    · exact opened
  | literal =>
    have opened (more : List Char) : cs ++ '\'' :: rest ≠ '\'' :: '\'' :: more := by
      have := holds.2
      cases cs <;> grind
    simp only [writeAs, List.append_assoc, List.cons_append, List.nil_append]
    rw [readText]
    · exact readLiteral_append holds.1 holds.2
    · exact opened
  | basicLines =>
    simp only [writeAs, List.append_assoc, List.cons_append, List.nil_append, readText]
    rw [lineEnd?_openLines lineEnd?_writeBasicLines]
    refine readBasicLines_writeBasicLines (Nat.zero_le 2) double ?_
    have := length_le_length_writeBasicLines 0 cs
    simp
    omega
  | literalLines =>
    simp only [writeAs, List.append_assoc, List.cons_append, List.nil_append, readText]
    rw [lineEnd?_openLines (lineEnd?_literal holds.1)]
    refine readLiteralLines_append holds.1 holds.2 single ?_
    simp
    omega

/-- A text that is written is read again, up to where it ends. -/
theorem readText_writeText (cs : List Char) (double : rest.head? ≠ some '"')
    (single : rest.head? ≠ some '\'') :
    readText (writeText cs ++ rest) = some (cs, rest) :=
  readText_writeAs (Style.holds_of cs) double single

end Gatehouse.Toml
