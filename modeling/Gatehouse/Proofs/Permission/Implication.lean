import Gatehouse.Proofs.Permission.Reading

/-!
# Implication is inclusion

A permission is seen as three places, where a part that is not written stands as `*`. Implication
compares permissions place by place (`implies_iff_part`), and a part allows another one when it
allows each of its tokens.

A concrete permission names one token in each place. A permission implies another one exactly when
it implies all concrete permissions that the other one implies: where it falls short in one place, a
token of that place shows it, together with any tokens that the other one has in the two other
places.
-/

namespace Gatehouse

namespace Tokens

/-! ## One part -/

theorem mem_singleton {a b : String} : a ∈ (SortedSet.singleton b : Tokens) ↔ a = b :=
  List.mem_singleton

theorem isWildcard_iff {part : Tokens} : part.isWildcard ↔ wildcard ∈ part := by
  simp [isWildcard]

theorem allows_iff {held wanted : Tokens} :
    held.allows wanted ↔ held.isWildcard ∨ ∀ token ∈ wanted, token ∈ held := by
  simp only [allows, Bool.or_eq_true, SortedSet.includes_iff]

theorem allows_of_isWildcard {held : Tokens} (h : held.isWildcard) (wanted : Tokens) :
    held.allows wanted := allows_iff.2 (.inl h)

theorem allows_refl (part : Tokens) : part.allows part := allows_iff.2 (.inr fun _ h => h)

/-- Only a part that allows everything allows a part that does. -/
theorem isWildcard_of_allows {held wanted : Tokens} (h : held.allows wanted)
    (all : wanted.isWildcard) : held.isWildcard := by
  rcases allows_iff.1 h with h | h
  · exact h
  · exact isWildcard_iff.2 (h _ (isWildcard_iff.1 all))

theorem allows_trans {a b c : Tokens} (hab : a.allows b) (hbc : b.allows c) : a.allows c := by
  rcases allows_iff.1 hbc with all | sub
  · exact allows_of_isWildcard (isWildcard_of_allows hab all) c
  · exact allows_iff.2 ((allows_iff.1 hab).imp_right fun h token ht => h token (sub token ht))

theorem allows_singleton_iff {held : Tokens} {token : String} :
    held.allows (.singleton token) ↔ held.isWildcard ∨ token ∈ held := by
  rw [allows_iff]
  simp only [mem_singleton, forall_eq]

/-- The part that allows everything and names nothing else. -/
def anything : Tokens := .singleton wildcard

theorem isWildcard_anything : anything.isWildcard := by decide

theorem allows_anything_iff {held : Tokens} : held.allows anything ↔ held.isWildcard := by
  rw [anything, allows_singleton_iff, ← isWildcard_iff, or_self]

/-! ## Tokens that tell parts apart -/

/-- A part that names something allows a token other than `*`. -/
theorem exists_allows_singleton {part : Tokens} (inhabited : part.isEmpty = false)
    (spelled : ∀ token ∈ part, Spelled token) :
    ∃ token, Spelled token ∧ token ≠ wildcard ∧ part.allows (.singleton token) := by
  by_cases all : part.isWildcard
  · obtain ⟨token, ht, fresh⟩ := exists_spelled_not_mem [wildcard]
    exact ⟨token, ht, by simpa using fresh, allows_of_isWildcard all _⟩
  · obtain ⟨token, mem⟩ := SortedSet.isEmpty_eq_false_iff.1 inhabited
    refine ⟨token, spelled token mem, ?_, allows_singleton_iff.2 (.inr mem)⟩
    rintro rfl
    exact all (isWildcard_iff.2 mem)

/-- Where a part does not allow another one, a token other than `*` shows it. -/
theorem exists_separating {held wanted : Tokens} (h : ¬ held.allows wanted)
    (spelled : ∀ token ∈ wanted, Spelled token) :
    ∃ token, Spelled token ∧ token ≠ wildcard ∧ wanted.allows (.singleton token) ∧
      ¬ held.allows (.singleton token) := by
  have finite : ¬ held.isWildcard := fun all => h (allows_of_isWildcard all wanted)
  by_cases all : wanted.isWildcard
  · obtain ⟨token, ht, fresh⟩ := exists_spelled_not_mem (wildcard :: held.toList)
    obtain ⟨other, absent⟩ := not_or.1 (List.mem_cons.not.1 fresh)
    refine ⟨token, ht, other, allows_of_isWildcard all _, ?_⟩
    rw [allows_singleton_iff]
    exact not_or.2 ⟨finite, absent⟩
  · obtain ⟨token, mem, absent⟩ : ∃ token ∈ wanted, token ∉ held := by
      have := not_or.1 (allows_iff.not.1 h)
      simpa using this.2
    refine ⟨token, spelled token mem, ?_, allows_singleton_iff.2 (.inr mem), ?_⟩
    · rintro rfl
      exact all (isWildcard_iff.2 mem)
    · rw [allows_singleton_iff]
      exact not_or.2 ⟨finite, absent⟩

end Tokens

namespace Permission

/-! ## Place by place -/

/-- The part in a place of a list of parts, `*` where none is written. -/
def partAt (parts : List Tokens) (i : Nat) : Tokens := parts[i]?.getD Tokens.anything

def part (p : Permission) (i : Nat) : Tokens := partAt p.parts i

theorem partAt_of_length_le {parts : List Tokens} {i : Nat} (h : parts.length ≤ i) :
    partAt parts i = Tokens.anything := by
  simp [partAt, h]

theorem partAt_mem {parts : List Tokens} {i : Nat} (h : i < parts.length) :
    partAt parts i ∈ parts := by
  simp [partAt, h]

theorem isEmpty_part (p : Permission) (i : Nat) : (p.part i).isEmpty = false := by
  by_cases h : i < p.parts.length
  · exact p.inhabited _ (partAt_mem h)
  · rw [part, partAt_of_length_le (Nat.le_of_not_lt h)]
    rfl

theorem Readable.spelled_part {p : Permission} (h : p.Readable) (i : Nat) :
    ∀ token ∈ p.part i, Tokens.Spelled token := by
  intro token ht
  by_cases hi : i < p.parts.length
  · exact h.spelled (partAt_mem hi) ht
  · rw [part, partAt_of_length_le (Nat.le_of_not_lt hi)] at ht
    exact readable_wildcard.spelled List.mem_cons_self ht

theorem cover_iff {held wanted : List Tokens} :
    cover held wanted ↔ ∀ i, (partAt held i).allows (partAt wanted i) := by
  fun_induction cover held wanted with
  | case1 held =>
    have nothing (i : Nat) : partAt [] i = Tokens.anything := partAt_of_length_le (Nat.zero_le i)
    simp only [nothing, Tokens.allows_anything_iff, List.all_eq_true]
    constructor
    · intro all i
      by_cases hi : i < held.length
      · exact all _ (partAt_mem hi)
      · rw [partAt_of_length_le (Nat.le_of_not_lt hi)]
        exact Tokens.isWildcard_anything
    · intro all part mem
      obtain ⟨i, hi⟩ := List.getElem?_of_mem mem
      simpa [partAt, hi] using all i
  | case2 w wanted =>
    have nothing (i : Nat) : partAt [] i = Tokens.anything := partAt_of_length_le (Nat.zero_le i)
    simp only [nothing, Tokens.allows_of_isWildcard Tokens.isWildcard_anything, implies_true]
  | case3 h held w wanted ih =>
    rw [Bool.and_eq_true, ih]
    constructor
    · rintro ⟨first, rest⟩ (_ | i)
      · exact first
      · exact rest i
    · exact fun all => ⟨all 0, fun i => all (i + 1)⟩

/-- Implication compares the parts place by place. -/
theorem implies_iff_part {p q : Permission} : p.implies q ↔ ∀ i, (p.part i).allows (q.part i) :=
  cover_iff

/-- A permission can only imply what its domain allows. -/
theorem allows_domain_of_implies {p q : Permission} (h : p.implies q) :
    p.domain.allows q.domain := by
  have first (r : Permission) : r.part 0 = r.domain := by
    simp [part, partAt, domain, ← List.head?_eq_getElem?, List.head?_eq_some_head r.parts_ne_nil]
  simpa only [first] using implies_iff_part.1 h 0

theorem implies_refl (p : Permission) : p.implies p :=
  implies_iff_part.2 fun _ => Tokens.allows_refl _

theorem implies_trans {p q r : Permission} (hpq : p.implies q) (hqr : q.implies r) : p.implies r :=
  implies_iff_part.2 fun i =>
    Tokens.allows_trans (implies_iff_part.1 hpq i) (implies_iff_part.1 hqr i)

/-- Permissions that imply each other behave alike. -/
theorem implies_congr {p q : Permission} (hpq : p.implies q) (hqp : q.implies p) (r : Permission) :
    p.implies r = q.implies r ∧ r.implies p = r.implies q := by
  constructor <;> rw [Bool.eq_iff_iff]
  · exact ⟨implies_trans hqp, implies_trans hpq⟩
  · exact ⟨fun h => implies_trans h hpq, fun h => implies_trans h hqp⟩

/-! ## Spelling a permission out -/

/-- The permission with all three parts written: `*` stands for those that were not. -/
def padded (p : Permission) : Permission where
  parts := p.parts ++ List.replicate (3 - p.parts.length) Tokens.anything
  parts_ne_nil := by simp [p.parts_ne_nil]
  length_parts_le := by
    have := p.length_parts_le
    rw [List.length_append, List.length_replicate]
    omega
  inhabited part mem := by
    rcases List.mem_append.1 mem with mem | mem
    · exact p.inhabited part mem
    · rw [List.eq_of_mem_replicate mem]
      rfl

/-- The permission with `*` alone in each part that has it. -/
def collapsed (p : Permission) : Permission where
  parts := p.parts.map fun part => if part.isWildcard then Tokens.anything else part
  parts_ne_nil := by simp [p.parts_ne_nil]
  length_parts_le := by simp [p.length_parts_le]
  inhabited part mem := by
    obtain ⟨written, old, rfl⟩ := List.mem_map.1 mem
    split
    · rfl
    · exact p.inhabited written old

theorem part_padded (p : Permission) (i : Nat) : p.padded.part i = p.part i := by
  simp only [part, partAt, padded, List.getElem?_append, List.getElem?_replicate]
  split
  next => rfl
  next h =>
    rw [List.getElem?_eq_none (Nat.le_of_not_lt h)]
    split <;> rfl

theorem part_collapsed (p : Permission) (i : Nat) :
    p.collapsed.part i = if (p.part i).isWildcard then Tokens.anything else p.part i := by
  by_cases h : i < p.parts.length
  · simp [part, partAt, collapsed, h]
  · simp [part, partAt, collapsed, h, Tokens.isWildcard_anything]

/-- A part that is not written behaves as `*`. -/
theorem implies_padded (p q : Permission) :
    p.padded.implies q = p.implies q ∧ q.implies p.padded = q.implies p := by
  have alike (i : Nat) : p.padded.part i = p.part i := part_padded p i
  refine implies_congr (implies_iff_part.2 fun i => ?_) (implies_iff_part.2 fun i => ?_) q <;>
    exact alike i ▸ Tokens.allows_refl _

/-- A part that has `*` beside other tokens behaves as `*`. -/
theorem implies_collapsed (p q : Permission) :
    p.collapsed.implies q = p.implies q ∧ q.implies p.collapsed = q.implies p := by
  refine implies_congr (implies_iff_part.2 fun i => ?_) (implies_iff_part.2 fun i => ?_) q <;>
    rw [part_collapsed] <;> split
  · exact Tokens.allows_of_isWildcard Tokens.isWildcard_anything _
  · exact Tokens.allows_refl _
  next all => exact Tokens.allows_of_isWildcard all _
  · exact Tokens.allows_refl _

/-! ## Concrete permissions -/

/-- The permission names one token in each of three places, and none of them is `*`. -/
def IsConcrete (c : Permission) : Prop :=
  c.parts.length = 3 ∧ ∀ part ∈ c.parts, ∃ token, token ≠ Tokens.wildcard ∧ part = .singleton token

theorem isConcrete_ofTokens {domain action target : String} (hd : domain ≠ Tokens.wildcard)
    (ha : action ≠ Tokens.wildcard) (ht : target ≠ Tokens.wildcard) :
    (ofTokens domain action target).IsConcrete := by
  refine ⟨rfl, fun part mem => ?_⟩
  simp only [ofTokens, List.mem_cons, List.not_mem_nil, or_false] at mem
  rcases mem with rfl | rfl | rfl
  · exact ⟨domain, hd, rfl⟩
  · exact ⟨action, ha, rfl⟩
  · exact ⟨target, ht, rfl⟩

theorem implies_ofTokens_iff {p : Permission} {domain action target : String} :
    p.implies (ofTokens domain action target) ↔
      (p.part 0).allows (.singleton domain) ∧ (p.part 1).allows (.singleton action) ∧
        (p.part 2).allows (.singleton target) := by
  rw [implies_iff_part]
  constructor
  · exact fun all => ⟨all 0, all 1, all 2⟩
  · rintro ⟨first, second, third⟩ (_ | _ | _ | i)
    · exact first
    · exact second
    · exact third
    · have beyond : p.part (i + 3) = Tokens.anything :=
        partAt_of_length_le (Nat.le_trans p.length_parts_le (by omega))
      rw [beyond]
      exact Tokens.allows_of_isWildcard Tokens.isWildcard_anything _

/-- A permission that implies all that is concrete in another one implies it. -/
theorem implies_of_forall_concrete {p q : Permission} (hq : q.Readable)
    (h : ∀ c : Permission, c.Readable → c.IsConcrete → q.implies c → p.implies c) :
    p.implies q := by
  by_contra short
  obtain ⟨i, short⟩ := not_forall.1 (implies_iff_part.not.1 short)
  -- Each place has a token that `q` allows there, and in place `i` it is one that `p` does not.
  have token (j : Nat) : ∃ token, Tokens.Spelled token ∧ token ≠ Tokens.wildcard ∧
      (q.part j).allows (.singleton token) ∧
      (j = i → ¬ (p.part j).allows (.singleton token)) := by
    by_cases here : j = i
    · subst here
      obtain ⟨token, spelled, other, inside, outside⟩ :=
        Tokens.exists_separating short (hq.spelled_part j)
      exact ⟨token, spelled, other, inside, fun _ => outside⟩
    · obtain ⟨token, spelled, other, inside⟩ :=
        Tokens.exists_allows_singleton (isEmpty_part q j) (hq.spelled_part j)
      exact ⟨token, spelled, other, inside, fun same => absurd same here⟩
  choose token spelled other inside outside using token
  have covered := implies_ofTokens_iff.1 <| h (ofTokens (token 0) (token 1) (token 2))
    (readable_ofTokens (spelled 0) (spelled 1) (spelled 2))
    (isConcrete_ofTokens (other 0) (other 1) (other 2))
    (implies_ofTokens_iff.2 ⟨inside 0, inside 1, inside 2⟩)
  have place : i < 3 := by
    by_contra far
    refine short (Tokens.allows_of_isWildcard ?_ _)
    rw [part, partAt_of_length_le (Nat.le_trans p.length_parts_le (Nat.le_of_not_lt far))]
    exact Tokens.isWildcard_anything
  match i, place with
  | 0, _ => exact outside 0 rfl covered.1
  | 1, _ => exact outside 1 rfl covered.2.1
  | 2, _ => exact outside 2 rfl covered.2.2

/-- A readable permission implies another one exactly when it implies every concrete permission that
the other one implies. So implication is a preorder, in which parts that are not written and parts
with `*` beside other tokens count as `*`. -/
theorem implication_is_inclusion :
    wildcard.Readable ∧
    (∀ p q : Permission, p.Readable → q.Readable →
      (p.implies q ↔
        ∀ c : Permission, c.Readable → c.IsConcrete → q.implies c → p.implies c)) ∧
    (∀ p : Permission, p.implies p) ∧
    (∀ p q r : Permission, p.implies q → q.implies r → p.implies r) ∧
    (∀ p q : Permission, p.padded.implies q = p.implies q ∧ q.implies p.padded = q.implies p) ∧
    (∀ p q : Permission,
      p.collapsed.implies q = p.implies q ∧ q.implies p.collapsed = q.implies p) :=
  ⟨readable_wildcard,
    fun _ _ _ hq => ⟨fun h _ _ _ hc => implies_trans h hc, implies_of_forall_concrete hq⟩,
    implies_refl, fun _ _ _ => implies_trans, implies_padded, implies_collapsed⟩

/-- A permission for the domain `doc` alone falls short of one for two domains. -/
theorem implication_is_inclusion_of_doc :
    ∃ p q : Permission, parse "doc:read,*" = .ok p ∧ parse "Doc,report" = .ok q ∧
      (p.implies q ↔
        ∀ c : Permission, c.Readable → c.IsConcrete → q.implies c → p.implies c) ∧
      p.implies q = false := by
  let p : Permission :=
    { parts := [.singleton "doc", .ofList ["read", "*"]]
      parts_ne_nil := by simp
      length_parts_le := by simp
      inhabited := by decide +kernel }
  let q : Permission :=
    { parts := [.ofList ["doc", "report"]]
      parts_ne_nil := by simp
      length_parts_le := by simp
      inhabited := by decide +kernel }
  have hp : parse "doc:read,*" = .ok p := parse_eq_ok_iff.2 (by decide +kernel)
  have hq : parse "Doc,report" = .ok q := parse_eq_ok_iff.2 (by decide +kernel)
  exact ⟨p, q, hp, hq, implication_is_inclusion.2.1 p q ⟨_, hp⟩ ⟨_, hq⟩, by decide +kernel⟩

end Permission

end Gatehouse
