import Gatehouse.Proofs.Toml.Text
import Gatehouse.Toml.Line

/-!
# Lines of a TOML document are read as they are written

Reading a document gives back the statements of the lines that it was written from
(`parse?_writeLines`). Each level says where it stops: a key before a character of no key, a value
before the end of its line, an element of a list before its comma.
-/

namespace Gatehouse.Toml

open Document

variable {c : Char} {cs rest : List Char} {n : Nat}

/-- The character begins something: it is no blank, no line end and no comment. -/
def isSolid (c : Char) : Bool := !isGap c && c ≠ '\n' && c ≠ '\r' && c ≠ '#'

theorem skipGaps_of_isSolid (h : isSolid c) : skipGaps (c :: cs) = c :: cs := by
  simp_all [skipGaps, isSolid]

theorem skipLines_of_isSolid (h : isSolid c) : skipLines (c :: cs) = c :: cs := by
  simp_all [skipLines, isSolid]

theorem skipBreaks_eq (h : skipLines cs = c :: rest) (solid : isSolid c) (enough : cs.length ≤ n) :
    skipBreaks n cs = c :: rest := by
  cases n with
  | zero => simp_all [skipLines]
  | succ n =>
    have other : c ≠ '#' := by rintro rfl; contradiction
    simp [skipBreaks, h, other]

theorem finishLine_of_isSolid (h : isSolid c) : finishLine (c :: cs) = none := by
  simp_all [finishLine, skipGaps, skipComment, isSolid, lineEnd?]

/-! ## Keys -/

/-- The character can be the first of a key. -/
def beginsKey (c : Char) : Bool := isKeyChar c || c = '"' || c = '\''

theorem isSolid_of_beginsKey (h : beginsKey c) : isSolid c := by
  have other (d : Char) (ends : beginsKey d = false) : c ≠ d := by
    rintro rfl
    simp [h] at ends
  simp [isSolid, isGap, other ' ' rfl, other '\t' rfl, other '\n' rfl, other '\r' rfl,
    other '#' rfl]

/-- A key is bare, or it is written on one line in a style that can hold it. -/
theorem Style.holds_of_ofKey? {style : Style} (h : Style.ofKey? cs = some style) :
    style = basic ∨ style = literal ∧ literal.Holds cs := by
  unfold Style.ofKey? at h
  dsimp only at h
  split at h
  · contradiction
  split at h
  · exact .inl (Option.some.inj h).symm
  split at h
  next apart =>
    simp only [Bool.not_not, Bool.and_eq_true, List.all_eq_true, List.contains_eq_mem,
      Bool.not_eq_true', decide_eq_false_iff_not] at apart
    exact .inr ⟨(Option.some.inj h).symm, apart⟩
  · exact .inl (Option.some.inj h).symm

theorem bare_of_ofKey? (h : Style.ofKey? cs = none) : cs ≠ [] ∧ ∀ c ∈ cs, isKeyChar c := by
  unfold Style.ofKey? at h
  dsimp only at h
  split at h
  next bare => simpa using bare
  next =>
    split at h
    · contradiction
    · split at h <;> contradiction

theorem exists_writeKey_eq (key : String) (rest : List Char) :
    ∃ c l, writeKey key ++ rest = c :: l ∧ beginsKey c := by
  unfold writeKey
  cases style : Style.ofKey? key.toList with
  | none =>
    obtain ⟨inhabited, bare⟩ := bare_of_ofKey? style
    obtain ⟨c, l, eq⟩ := List.exists_cons_of_ne_nil inhabited
    refine ⟨c, l ++ rest, by simp [eq], ?_⟩
    simp [beginsKey, bare c (by simp [eq])]
  | some style =>
    rcases Style.holds_of_ofKey? ‹_› with rfl | ⟨rfl, -⟩
    · exact ⟨'"', _, rfl, rfl⟩
    · exact ⟨'\'', _, rfl, rfl⟩

theorem readKey_writeKey (key : String) (apart : ∀ c ∈ rest.head?, isKeyChar c = false) :
    readKey (writeKey key ++ rest) = some (key, rest) := by
  unfold writeKey
  cases style : Style.ofKey? key.toList with
  | none =>
    obtain ⟨inhabited, bare⟩ := bare_of_ofKey? style
    have unquoted (q : Char) (quote : isKeyChar q = false) (l : List Char) :
        key.toList ++ rest ≠ q :: l := by
      obtain ⟨c, more, eq⟩ := List.exists_cons_of_ne_nil inhabited
      have first := bare c (by simp [eq])
      rintro same
      simp_all
    have ends : rest.takeWhile isKeyChar = [] ∧ rest.dropWhile isKeyChar = rest := by
      cases rest <;> simp_all
    have word : (key.toList ++ rest).takeWhile isKeyChar = key.toList := by
      rw [List.takeWhile_append_of_pos bare, ends.1, List.append_nil]
    have after : (key.toList ++ rest).dropWhile isKeyChar = rest := by
      rw [List.dropWhile_append_of_pos bare, ends.2]
    rw [readKey]
    · simp [word, after, inhabited]
    · exact unquoted '"' rfl
    · exact unquoted '\'' rfl
  | some style =>
    rcases Style.holds_of_ofKey? ‹_› with rfl | ⟨rfl, holds⟩
    · simp only [writeAs, List.append_assoc, List.cons_append, List.nil_append, readKey]
      rw [readBasic_writeBasic]
      · simp
      · have := length_le_length_writeBasic key.toList
        simp
        omega
    · simp only [writeAs, List.append_assoc, List.cons_append, List.nil_append, readKey]
      rw [readLiteral_append holds.1 holds.2]
      simp

/-! ## Paths -/

theorem writePath_singleton (key : String) : writePath [key] = writeKey key := by
  simp [writePath, List.intercalate]

theorem writePath_cons_cons (key next : String) (path : List String) :
    writePath (key :: next :: path) = writeKey key ++ '.' :: writePath (next :: path) := by
  simp [writePath, List.intercalate]

theorem exists_writePath_eq {path : List String} (inhabited : path ≠ []) (rest : List Char) :
    ∃ c l, writePath path ++ rest = c :: l ∧ beginsKey c := by
  match path with
  | [key] =>
    rw [writePath_singleton]
    exact exists_writeKey_eq key rest
  | key :: next :: path =>
    rw [writePath_cons_cons, List.append_assoc]
    exact exists_writeKey_eq key _

theorem length_le_length_writePath {path : List String} (inhabited : path ≠ []) :
    path.length ≤ (writePath path).length := by
  match path with
  | [key] =>
    obtain ⟨c, l, eq, -⟩ := exists_writeKey_eq key []
    simp_all [writePath_singleton]
  | key :: next :: path =>
    have := length_le_length_writePath (List.cons_ne_nil next path)
    simp only [writePath_cons_cons, List.length_append, List.length_cons] at this ⊢
    omega

theorem skipGaps_writeKey (key : String) (rest : List Char) :
    skipGaps (writeKey key ++ rest) = writeKey key ++ rest := by
  obtain ⟨c, l, eq, begins⟩ := exists_writeKey_eq key rest
  rw [eq, skipGaps_of_isSolid (isSolid_of_beginsKey begins)]

/-- A path is read up to what ends its last key, without blanks. -/
theorem readKeys_writePath {path : List String} (inhabited : path ≠ [])
    (apart : ∀ c ∈ rest.head?, isKeyChar c = false) (ends : (skipGaps rest).head? ≠ some '.')
    (enough : path.length ≤ n) :
    readKeys n (writePath path ++ rest) = some (path, skipGaps rest) := by
  induction path generalizing n with
  | nil => contradiction
  | cons key path ih =>
    obtain ⟨m, rfl⟩ : ∃ m, n = m + 1 := ⟨n - 1, by simp at enough; omega⟩
    cases path with
    | nil =>
      rw [writePath_singleton, readKeys, skipGaps_writeKey, readKey_writeKey key apart]
      cases next : skipGaps rest with
      | nil => simp [next]
      | cons c l =>
        have other : c ≠ '.' := by simpa [next] using ends
        simp [next, other]
    | cons second path =>
      have more := ih (List.cons_ne_nil _ _) (n := m) (by simpa using enough)
      have dotted : readKey (writeKey key ++ '.' :: (writePath (second :: path) ++ rest)) =
          some (key, '.' :: (writePath (second :: path) ++ rest)) :=
        readKey_writeKey key (by simp [isKeyChar])
      have here : skipGaps ('.' :: (writePath (second :: path) ++ rest)) =
          '.' :: (writePath (second :: path) ++ rest) := skipGaps_of_isSolid rfl
      rw [writePath_cons_cons, List.append_assoc, List.cons_append, readKeys, skipGaps_writeKey,
        dotted]
      simp [here, more]

theorem readPath_writePath {path : List String} (rest : List Char) (inhabited : path ≠ [])
    (short : path.length < depthLimit) (apart : ∀ c ∈ rest.head?, isKeyChar c = false)
    (ends : (skipGaps rest).head? ≠ some '.') :
    readPath (writePath path ++ rest) = some (path, skipGaps rest) := by
  have enough : path.length ≤ (writePath path ++ rest).length + 1 := by
    have := length_le_length_writePath inhabited
    simp
    omega
  rw [readPath, readKeys_writePath inhabited apart ends enough]
  simp [short]

/-! ## Values -/

theorem exists_writeText_eq (cs rest : List Char) :
    ∃ c l, writeText cs ++ rest = c :: l ∧ (c = '"' ∨ c = '\'') := by
  unfold writeText
  cases Style.of cs with
  | basic | basicLines => exact ⟨'"', _, rfl, .inl rfl⟩
  | literal | literalLines => exact ⟨'\'', _, rfl, .inr rfl⟩

theorem readNested_writeText (depth : Nat) (s : String) (double : rest.head? ≠ some '"')
    (single : rest.head? ≠ some '\'') :
    readNested depth (writeText s.toList ++ rest) = some (.text s, rest) := by
  have read := readText_writeText s.toList double single
  obtain ⟨c, l, eq, quote⟩ := exists_writeText_eq s.toList rest
  rw [eq] at read ⊢
  rcases quote with rfl | rfl
  · rw [readNested, read]
    simp
  · rw [readNested, read]
    simp

theorem skipLines_writeText (cs rest : List Char) :
    ∃ c l, skipLines (writeText cs ++ rest) = c :: l ∧ writeText cs ++ rest = c :: l ∧ isSolid c ∧
      c ≠ ']' := by
  obtain ⟨c, l, eq, quote⟩ := exists_writeText_eq cs rest
  have solid : isSolid c ∧ c ≠ ']' := by rcases quote with rfl | rfl <;> exact ⟨rfl, by decide⟩
  exact ⟨c, l, by rw [eq, skipLines_of_isSolid solid.1], eq, solid⟩

section Elements

variable {read : Reader} {v : Value} {more after : List Char}

theorem readElements_of_closed (closed : skipBreaks cs.length cs = ']' :: rest) :
    readElements read (n + 1) cs = some ([], rest) := by
  rw [readElements, closed]
  rfl

theorem readElements_of_comma (begun : skipBreaks cs.length cs = c :: more) (other : c ≠ ']')
    (element : read (c :: more) = some (v, rest))
    (comma : skipBreaks rest.length rest = ',' :: after) :
    readElements read (n + 1) cs = (readElements read n after).map fun found =>
      (v :: found.1, found.2) := by
  rw [readElements, begun]
  split
  next same => exact absurd (List.cons.inj same).1 other
  next =>
    simp only [Option.bind_eq_bind, element, Option.bind_some, comma]
    cases readElements read n after <;> rfl

theorem readElements_of_last (begun : skipBreaks cs.length cs = c :: more) (other : c ≠ ']')
    (element : read (c :: more) = some (v, rest))
    (closed : skipBreaks rest.length rest = ']' :: after) :
    readElements read (n + 1) cs = some ([v], after) := by
  rw [readElements, begun]
  split
  next same => exact absurd (List.cons.inj same).1 other
  next =>
    simp only [Option.bind_eq_bind, element, Option.bind_some, closed]
    rfl

end Elements

theorem readElements_texts (depth : Nat) (l : List String) (enough : l.length < n) :
    readElements (readNested depth) n ('\n' :: (l.flatMap writeElement ++ ']' :: rest)) =
      some (l.map .text, rest) := by
  induction l generalizing n with
  | nil =>
    obtain ⟨m, rfl⟩ : ∃ m, n = m + 1 := ⟨n - 1, by omega⟩
    exact readElements_of_closed (skipBreaks_eq (c := ']') rfl rfl (Nat.le_refl _))
  | cons s l ih =>
    obtain ⟨m, rfl⟩ : ∃ m, n = m + 1 := ⟨n - 1, by omega⟩
    have ih := ih (n := m) (by simpa using enough)
    generalize following : '\n' :: (l.flatMap writeElement ++ ']' :: rest) = after at ih
    have written : '\n' :: ((s :: l).flatMap writeElement ++ ']' :: rest) =
        '\n' :: ' ' :: ' ' :: ' ' :: ' ' :: (writeText s.toList ++ ',' :: after) := by
      simp [writeElement, ← following]
    have element : readNested depth (writeText s.toList ++ ',' :: after) =
        some (.text s, ',' :: after) := readNested_writeText depth s (by simp) (by simp)
    obtain ⟨c, more, skipped, eq, solid, other⟩ := skipLines_writeText s.toList (',' :: after)
    rw [eq] at element skipped
    have begun : skipBreaks ('\n' :: ' ' :: ' ' :: ' ' :: ' ' :: c :: more).length
        ('\n' :: ' ' :: ' ' :: ' ' :: ' ' :: c :: more) = c :: more :=
      skipBreaks_eq skipped solid (Nat.le_refl _)
    have comma : skipBreaks (',' :: after).length (',' :: after) = ',' :: after :=
      skipBreaks_eq (skipLines_of_isSolid rfl) rfl (Nat.le_refl _)
    rw [written, eq, readElements_of_comma begun other element comma, ih]
    rfl

theorem readElements_text (depth : Nat) (s : String) :
    readElements (readNested depth) (n + 1) (writeText s.toList ++ ']' :: rest) =
      some ([.text s], rest) := by
  have element : readNested depth (writeText s.toList ++ ']' :: rest) =
      some (.text s, ']' :: rest) := readNested_writeText depth s (by simp) (by simp)
  obtain ⟨c, more, skipped, eq, solid, other⟩ := skipLines_writeText s.toList (']' :: rest)
  rw [eq] at element skipped ⊢
  exact readElements_of_last (skipBreaks_eq skipped solid (Nat.le_refl _)) other element
    (skipBreaks_eq (skipLines_of_isSolid rfl) rfl (Nat.le_refl _))

theorem length_le_length_flatMap_writeElement (l : List String) :
    l.length ≤ (l.flatMap writeElement).length := by
  induction l with
  | nil => simp
  | cons s l ih =>
    simp [writeElement] at ih ⊢
    omega

theorem readScalar_flag (b : Bool) (rest : List Char) :
    readScalar ((Setting.flag b).write ++ '\n' :: rest) = some (.bool b, '\n' :: rest) := by
  cases b <;> rfl

theorem readValue_list (cs : List Char) : readValue ('[' :: cs) = readList (readNested 78) cs := rfl

/-- A setting is read up to the end of its line. -/
theorem readValue_write (s : Setting) (rest : List Char) :
    readValue (s.write ++ '\n' :: rest) = some (s.toValue, '\n' :: rest) := by
  match s with
  | .flag b =>
    have read := readScalar_flag b rest
    cases b <;> exact read
  | .text s => exact readNested_writeText _ s (by simp) (by simp)
  | .texts [] =>
    have closed : readElements (readNested 78) ((']' :: '\n' :: rest).length + 1)
        (']' :: '\n' :: rest) = some ([], '\n' :: rest) :=
      readElements_of_closed (skipBreaks_eq (skipLines_of_isSolid rfl) rfl (Nat.le_refl _))
    simp only [Setting.write, List.cons_append, List.nil_append, readValue_list, readList]
    rw [closed]
    rfl
  | .texts [s] =>
    simp only [Setting.write, List.cons_append, List.nil_append, List.append_assoc, readValue_list,
      readList]
    rw [readElements_text]
    rfl
  | .texts (s :: t :: l) =>
    simp only [Setting.write, List.cons_append, List.nil_append, List.append_assoc, readValue_list,
      readList]
    rw [readElements_texts]
    · rfl
    · have := length_le_length_flatMap_writeElement (s :: t :: l)
      simp at this ⊢
      omega

/-! ## Lines -/

/-- The path of a header is neither empty nor too long. -/
def Line.Proper : Line → Prop
  | table path | row path => path ≠ [] ∧ path.length < depthLimit
  | setting .. => True

theorem Line.exists_write_eq (line : Line) (rest : List Char) :
    ∃ c l, line.write ++ rest = c :: l ∧ isSolid c ∧ c ≠ '\ufeff' := by
  cases line with
  | table | row => exact ⟨'[', _, rfl, rfl, by decide⟩
  | setting key s =>
    obtain ⟨c, l, eq, begins⟩ :=
      exists_writeKey_eq key ([' ', '=', ' '] ++ s.write ++ ['\n'] ++ rest)
    refine ⟨c, l, by simpa [Line.write] using eq, isSolid_of_beginsKey begins, ?_⟩
    rintro rfl
    contradiction

theorem Line.length_write_pos (line : Line) : 0 < line.write.length := by
  obtain ⟨c, l, eq, -⟩ := line.exists_write_eq []
  simp_all

theorem Setting.exists_write_eq (s : Setting) (rest : List Char) :
    ∃ c l, s.write ++ rest = c :: l ∧ isSolid c := by
  match s with
  | .flag true | .flag false => exact ⟨_, _, rfl, rfl⟩
  | .texts [] | .texts [_] | .texts (_ :: _ :: _) => exact ⟨_, _, rfl, rfl⟩
  | .text s =>
    obtain ⟨c, l, eq, rfl | rfl⟩ := exists_writeText_eq s.toList rest
    · exact ⟨_, _, eq, rfl⟩
    · exact ⟨_, _, eq, rfl⟩

theorem readAssignment_write (key : String) (s : Setting) (rest : List Char) :
    readAssignment readValue (writeKey key ++ ' ' :: '=' :: ' ' :: (s.write ++ '\n' :: rest)) =
      some (([key], s.toValue), '\n' :: rest) := by
  have path := readPath_writePath (' ' :: '=' :: ' ' :: (s.write ++ '\n' :: rest))
    (List.cons_ne_nil key []) (by simp [depthLimit]) (by simp [isKeyChar])
    (by simp [skipGaps, isGap])
  have gap : skipGaps (' ' :: (s.write ++ '\n' :: rest)) = s.write ++ '\n' :: rest := by
    obtain ⟨c, l, eq, solid⟩ := s.exists_write_eq ('\n' :: rest)
    rw [eq]
    exact skipGaps_of_isSolid solid
  rw [writePath_singleton] at path
  have equals : skipGaps (' ' :: '=' :: ' ' :: (s.write ++ '\n' :: rest)) =
      '=' :: ' ' :: (s.write ++ '\n' :: rest) := by simp [skipGaps, isGap]
  rw [readAssignment, path, equals]
  simp [gap, readValue_write]

/-- A line is read as its statement, up to its end. -/
theorem readStatement_write {line : Line} (proper : line.Proper) (rest : List Char) :
    readStatement (line.write ++ rest) = some (line.toStatement, '\n' :: rest) := by
  cases line with
  | table path =>
    obtain ⟨inhabited, short⟩ := proper
    have read := readPath_writePath (']' :: '\n' :: rest) inhabited short
      (by simp [isKeyChar]) (by simp [skipGaps, isGap])
    obtain ⟨c, l, eq, begins⟩ := exists_writePath_eq inhabited (']' :: '\n' :: rest)
    have other : c ≠ '[' := by rintro rfl; contradiction
    have ends : skipGaps (']' :: '\n' :: rest) = ']' :: '\n' :: rest := skipGaps_of_isSolid rfl
    simp only [Line.write, List.cons_append, List.nil_append, List.append_assoc]
    rw [eq] at read ⊢
    rw [readStatement, read, ends]
    · rfl
    · grind
  | row path =>
    obtain ⟨inhabited, short⟩ := proper
    have read := readPath_writePath (']' :: ']' :: '\n' :: rest) inhabited short
      (by simp [isKeyChar]) (by simp [skipGaps, isGap])
    have ends : skipGaps (']' :: ']' :: '\n' :: rest) = ']' :: ']' :: '\n' :: rest :=
      skipGaps_of_isSolid rfl
    simp only [Line.write, List.cons_append, List.nil_append, List.append_assoc]
    rw [readStatement, read, ends]
    rfl
  | setting key s =>
    have read := readAssignment_write key s rest
    obtain ⟨c, l, eq, begins⟩ := exists_writeKey_eq key
      (' ' :: '=' :: ' ' :: (s.write ++ '\n' :: rest))
    have other : c ≠ '[' := by rintro rfl; contradiction
    simp only [Line.write, List.cons_append, List.nil_append, List.append_assoc]
    rw [eq] at read ⊢
    rw [readStatement, read]
    · rfl
    · grind
    · grind

theorem readStatements_line {line : Line} (proper : line.Proper) :
    readStatements (n + 1) (line.write ++ rest) =
      (readStatements n rest).map (line.toStatement :: ·) := by
  have read := readStatement_write proper rest
  obtain ⟨c, l, eq, solid, -⟩ := line.exists_write_eq rest
  rw [eq] at read ⊢
  have ends : finishLine ('\n' :: rest) = some rest := rfl
  rw [readStatements, finishLine_of_isSolid solid, skipGaps_of_isSolid solid, read]
  · simp only [Option.bind_eq_bind, Option.bind_some, ends]
    cases readStatements n rest <;> rfl
  · simp

theorem readStatements_blank : readStatements (n + 1) ('\n' :: rest) = readStatements n rest := rfl

theorem readStatements_writeMore {lines : List Line} (proper : ∀ line ∈ lines, line.Proper)
    (enough : (writeMore lines).length ≤ n) :
    readStatements n (writeMore lines) = some (lines.map Line.toStatement) := by
  induction lines generalizing n with
  | nil => cases n <;> rfl
  | cons line lines ih =>
    obtain ⟨first, others⟩ := List.forall_mem_cons.1 proper
    have written : writeMore (line :: lines) =
        (if line.isHeader then ['\n'] else []) ++ line.write ++ writeMore lines := by
      simp [writeMore]
    rw [written] at enough ⊢
    have nonempty := line.length_write_pos
    by_cases header : line.isHeader
    -- a header takes two rounds, as there is a blank line before it
    · obtain ⟨m, rfl⟩ : ∃ m, n = m + 2 := ⟨n - 2, by simp [header] at enough; omega⟩
      rw [if_pos header, List.append_assoc, List.singleton_append, readStatements_blank,
        readStatements_line first, ih others]
      · rfl
      · simp [header] at enough
        omega
    · obtain ⟨m, rfl⟩ : ∃ m, n = m + 1 := ⟨n - 1, by simp [header] at enough; omega⟩
      rw [if_neg header, List.nil_append, readStatements_line first, ih others]
      · rfl
      · simp [header] at enough
        omega

theorem skipMark_of_ne (other : c ≠ '\ufeff') : skipMark (c :: cs) = c :: cs := by
  rw [skipMark]
  grind

/-- A document that is written from lines says what their statements mean. -/
theorem parse?_writeLines {lines : List Line} (proper : ∀ line ∈ lines, line.Proper) :
    parse? (writeLines lines) = Statement.meaning? (lines.map Line.toStatement) := by
  cases lines with
  | nil => rfl
  | cons line lines =>
    obtain ⟨first, others⟩ := List.forall_mem_cons.1 proper
    obtain ⟨c, l, eq, -, other⟩ := line.exists_write_eq (writeMore lines)
    have unmarked : skipMark (line.write ++ writeMore lines) = line.write ++ writeMore lines := by
      rw [eq, skipMark_of_ne other]
    have length : (line.write ++ writeMore lines).length = l.length + 1 := by simp [eq]
    have enough : (writeMore lines).length ≤ l.length := by
      have := line.length_write_pos
      simp at length
      omega
    rw [parse?, writeLines, String.toList_ofList, unmarked, length, readStatements_line first,
      readStatements_writeMore others enough]
    rfl

end Gatehouse.Toml
