import Gatehouse.Proofs.Config.Validation

/-!
# The first violation

Validation reports what is met first when a configuration is read from its beginning
(`Config.FirstViolation`): realm by realm, in each its name and then its accounts by their keys, and
in each account its texts.
-/

namespace Gatehouse

namespace SortedMap

variable {κ : Type u} {ν : Type v} [Ord κ] [Std.TransOrd κ] [Std.LawfulEqOrd κ] [DecidableEq κ]

omit [DecidableEq κ] in
/-- The entries before an entry are those with smaller keys. -/
theorem mem_before_iff {m : SortedMap κ ν} {before after : List (κ × ν)} {entry other : κ × ν}
    (split : m.toList = before ++ entry :: after) :
    other ∈ before ↔ other ∈ m.toList ∧ compare other.1 entry.1 = .lt := by
  have ascending := m.ascending
  rw [Sorted.Ascending, split, List.pairwise_append, List.pairwise_cons] at ascending
  obtain ⟨-, ⟨later, -⟩, sooner⟩ := ascending
  rw [split]
  constructor
  · intro mem
    exact ⟨List.mem_append_left _ mem, sooner other mem entry List.mem_cons_self⟩
  · rintro ⟨mem, lt⟩
    rcases List.mem_append.1 mem with mem | mem
    · exact mem
    · rcases List.mem_cons.1 mem with rfl | mem
      · simp at lt
      · exact absurd (Std.TransCmp.lt_trans lt (later other mem)) (by simp)

/-- Up to an entry, something holds of all that is listed if it holds of what has smaller keys. -/
theorem exists_split_iff {m : SortedMap κ ν} {k : κ} {v : ν} {holds : κ × ν → Prop} :
    (∃ before after, m.toList = before ++ (k, v) :: after ∧ ∀ entry ∈ before, holds entry) ↔
      m.find? k = some v ∧ ∀ j w, m.find? j = some w → compare j k = .lt → holds (j, w) := by
  simp only [← mem_toList_iff]
  constructor
  · rintro ⟨before, after, split, sooner⟩
    refine ⟨by simp [split], fun j w mem lt => ?_⟩
    exact sooner _ ((mem_before_iff split).2 ⟨mem, lt⟩)
  · rintro ⟨mem, smaller⟩
    obtain ⟨before, after, split⟩ := List.append_of_mem mem
    refine ⟨before, after, split, fun entry h => ?_⟩
    obtain ⟨listed, lt⟩ := (mem_before_iff split).1 h
    exact smaller entry.1 entry.2 listed lt

end SortedMap

namespace Config

/-- The first text of an account that is no permission, with what is wrong with it. -/
def FirstBadText (a : Account) (e : FormatError) : Prop :=
  ∃ before after, a.permissions = before ++ e.text :: after ∧
    (∀ text ∈ before, ∃ p, Permission.parse text = .ok p) ∧ Permission.parse e.text = .error e

/-- What is met first in a realm that follows others, of which the names are given. -/
inductive Realm.Violation (earlier : List String) (realm : Realm) : ConfigError → Prop
  | blankName (blank : Text.AllBlank realm.name.toList) :
    Violation earlier realm (.invalidRealm realm.name .blankName)
  | repeatedName (named : ¬ Text.AllBlank realm.name.toList) (repeated : realm.name ∈ earlier) :
    Violation earlier realm (.invalidRealm realm.name .repeatedName)
  | badPermission {id : String} {a : Account} {e : FormatError}
    (named : ¬ Text.AllBlank realm.name.toList) (new : realm.name ∉ earlier)
    (found : realm.accounts.find? id = some a)
    (smaller : ∀ other b, realm.accounts.find? other = some b → other < id → b.Sound)
    (bad : FirstBadText a e) :
    Violation earlier realm (.invalidPermission realm.name id e)

/-- What is met first in realms that are read in order: a violation in one of them, before which all
realms are sound and have distinct names. -/
def FirstViolation (realms : List Realm) (e : ConfigError) : Prop :=
  ∃ before realm after, realms = before ++ realm :: after ∧ (∀ r ∈ before, r.Sound) ∧
    (before.map Realm.name).Nodup ∧ realm.Violation (before.map Realm.name) e

/-- Reading a text fails only with an error that quotes it. -/
theorem firstBadText_iff {a : Account} {e : FormatError} :
    FirstBadText a e ↔ FirstError Permission.parse a.permissions e := by
  rw [FirstError.iff_exists_append]
  constructor
  · rintro ⟨before, after, listed, sooner, bad⟩
    exact ⟨before, e.text, after, listed, sooner, bad⟩
  · rintro ⟨before, text, after, listed, sooner, bad⟩
    obtain rfl := Permission.text_of_parse_eq_error bad
    exact ⟨before, after, listed, sooner, bad⟩

theorem checkAccount_eq_error_iff {realm account : String} {a : Account} {e : ConfigError} :
    checkAccount realm account a = .error e ↔
      ∃ fault, FirstBadText a fault ∧ e = .invalidPermission realm account fault := by
  simp only [firstBadText_iff]
  rw [checkAccount, forM_eq_error_iff]
  induction a.permissions with
  | nil => simp [FirstError.not_nil]
  | cons text texts ih =>
    cases read : Permission.parse text with
    | error fault =>
      rw [FirstError.cons_of_error (by rw [read])]
      simp only [FirstError.cons_of_error read, exists_eq_left', eq_comm]
    | ok p =>
      rw [FirstError.cons_of_ok (b := ()) (by rw [read]), ih]
      simp only [FirstError.cons_of_ok read]

theorem checkRealm_eq_error_iff {earlier : List String} {realm : Realm} {e : ConfigError} :
    checkRealm earlier realm = .error e ↔ realm.Violation earlier e := by
  have allBlank : (Text.trimChars realm.name.toList).isEmpty ↔ Text.AllBlank realm.name.toList :=
    List.isEmpty_iff.trans Text.trimChars_eq_nil_iff
  rw [checkRealm]
  split
  next blank =>
    rw [allBlank] at blank
    constructor
    · rintro ⟨⟩
      exact .blankName blank
    · rintro (_ | ⟨named⟩ | ⟨named⟩)
      · rfl
      · contradiction
      · contradiction
  next named =>
    rw [allBlank] at named
    split
    next repeated =>
      constructor
      · rintro ⟨⟩
        exact .repeatedName named repeated
      · rintro (_ | _ | ⟨-, new⟩)
        · contradiction
        · rfl
        · contradiction
    next new =>
      rw [forM_eq_error_iff, FirstError.iff_exists_append]
      constructor
      · rintro ⟨before, ⟨id, a⟩, after, split, passed, failed⟩
        obtain ⟨fault, bad, rfl⟩ := checkAccount_eq_error_iff.1 failed
        have sound : ∀ entry ∈ before, entry.2.Sound := fun entry mem =>
          checkAccount_eq_ok_iff.1 (passed entry mem).choose_spec
        obtain ⟨found, smaller⟩ := SortedMap.exists_split_iff.1 ⟨before, after, split, sound⟩
        exact .badPermission named new found
          (fun other b there lt => smaller other b there (compareOfLessAndEq_eq_lt.2 lt)) bad
      · rintro (_ | _ | @⟨id, a, fault, -, -, found, smaller, bad⟩)
        · contradiction
        · contradiction
        · obtain ⟨before, after, split, sound⟩ : ∃ before after,
              realm.accounts.toList = before ++ (id, a) :: after ∧
                ∀ entry ∈ before, entry.2.Sound := by
            refine SortedMap.exists_split_iff.2 ⟨found, fun other b there lt => ?_⟩
            exact smaller other b there (compareOfLessAndEq_eq_lt.1 lt)
          refine ⟨before, _, after, split, fun entry mem => ?_,
            checkAccount_eq_error_iff.2 ⟨fault, bad, rfl⟩⟩
          exact ⟨(), checkAccount_eq_ok_iff.2 (sound entry mem)⟩

theorem checkRealms_eq_error_iff {earlier : List String} {realms : List Realm} {e : ConfigError} :
    checkRealms earlier realms = .error e ↔
      ∃ before realm after, realms = before ++ realm :: after ∧
        checkRealms earlier before = .ok () ∧
        checkRealm (earlier ++ before.map Realm.name) realm = .error e := by
  constructor
  · intro failed
    induction realms generalizing earlier with
    | nil => contradiction
    | cons realm realms ih =>
      rw [checkRealms] at failed
      cases checked : checkRealm earlier realm with
      | error d =>
        rw [checked] at failed
        refine ⟨[], realm, realms, rfl, rfl, ?_⟩
        rw [List.map_nil, List.append_nil, checked]
        exact failed
      | ok _ =>
        rw [checked] at failed
        obtain ⟨before, bad, after, rfl, passed, violation⟩ := ih failed
        refine ⟨realm :: before, bad, after, rfl, ?_, by simpa using violation⟩
        rw [checkRealms, checked]
        exact passed
  · rintro ⟨before, realm, after, rfl, passed, violation⟩
    rw [checkRealms_append, passed]
    change checkRealms _ (realm :: after) = _
    rw [checkRealms, violation]
    rfl

theorem validate_eq_error_iff {config : Config} {e : ConfigError} :
    config.validate = .error e ↔ FirstViolation config.realms e := by
  rw [validate, checkRealms_eq_error_iff]
  simp only [checkRealms_eq_ok_iff, checkRealm_eq_error_iff, FirstViolation, List.nil_append]
  simp [and_assoc]

/-- A configuration is valid if and only if no name is blank, no two names are equal and every text
of every account is a permission; and it is refused with an error if and only if that error is what
is met first in reading order. -/
theorem validates_in_reading_order (config : Config) :
    (config.validate = .ok () ↔
      (∀ realm ∈ config.realms, ∃ c ∈ realm.name.toList, Text.isBlank c = false) ∧
      (config.realms.map Realm.name).Nodup ∧
      ∀ realm ∈ config.realms, ∀ id a, realm.accounts.find? id = some a →
        ∀ text ∈ a.permissions, ∃ p, Permission.parse text = .ok p) ∧
    ∀ e, config.validate = .error e ↔ FirstViolation config.realms e := by
  refine ⟨?_, fun e => validate_eq_error_iff⟩
  have named (name : String) :
      ¬ Text.AllBlank name.toList ↔ ∃ c ∈ name.toList, Text.isBlank c = false := by
    simp [Text.AllBlank]
  rw [validate_eq_ok_iff]
  simp only [← named]
  constructor
  · rintro ⟨sound, distinct⟩
    exact ⟨fun realm mem => (sound realm mem).name_not_blank, distinct,
      fun realm mem => (sound realm mem).accounts⟩
  · rintro ⟨names, distinct, texts⟩
    exact ⟨fun realm mem => ⟨names realm mem, texts realm mem⟩, distinct⟩

/-- The account of the smaller key is read first, whatever is wrong with later realms. -/
example :
    let accounts := (SortedMap.empty.insert "bob" (Account.ofLists [] [":"])).insert "ann"
      (.ofLists [] ["doc:read", "a:b:c:d"])
    let realms : List Realm := [⟨"a", .empty⟩, ⟨"b", accounts⟩, ⟨" ", .empty⟩, ⟨"a", .empty⟩]
    validate { realms } = .error (.invalidPermission "b" "ann" ⟨"a:b:c:d", .tooManyParts⟩) := by
  decide +kernel

end Config

end Gatehouse
