import Gatehouse.Proofs.Config.DirectReading
import Gatehouse.Proofs.Config.FirstViolation
import Gatehouse.Proofs.Config.Loading

/-!
# Names that are repeated

What comes of a file that writes two realms with one name. In a configuration that is read at once
the second of them is reported. A load lays the file over what it has by then, so the second realm
drives out the first before anything is validated (`Config.loads_last_of_each`).
-/

namespace Gatehouse.Config

/-! ## Validation -/

/-- The name of a realm that has passed is not blank, so all that can be wrong with it at a later
realm is that it is repeated. -/
theorem checkRealm_of_repeated {earlier : List Realm} {realm : Realm}
    (passed : checkRealms [] earlier = .ok ()) (repeated : realm.name ∈ earlier.map Realm.name) :
    checkRealm (earlier.map Realm.name) realm =
      .error (.invalidRealm realm.name .repeatedName) := by
  obtain ⟨first, mem, same⟩ := List.mem_map.1 repeated
  have sound := ((checkRealms_eq_ok_iff.1 passed).1 first mem).1
  have named : ¬ (Text.trimChars realm.name.toList).isEmpty := by
    rw [← same]
    exact fun blank => sound.name_not_blank (Text.trimChars_eq_nil_iff.1 (List.isEmpty_iff.1 blank))
  rw [checkRealm, if_neg named, if_pos repeated]

/-- A repeated name is reported unless something is wrong before. -/
theorem checkRealms_of_repeated {before after : List Realm} {realm : Realm}
    (repeated : realm.name ∈ before.map Realm.name) :
    checkRealms [] (before ++ realm :: after) = (checkRealms [] before >>= fun _ =>
      .error (.invalidRealm realm.name .repeatedName)) := by
  rw [checkRealms_append]
  cases passed : checkRealms [] before with
  | error e => rfl
  | ok _ =>
    change checkRealms ([] ++ _) (realm :: after) = _
    rw [List.nil_append, checkRealms, checkRealm_of_repeated passed repeated]
    rfl

theorem exists_first_repeated {realms : List Realm} (repeats : ¬ (realms.map Realm.name).Nodup) :
    ∃ before realm after, realms = before ++ realm :: after ∧
      (before.map Realm.name).Nodup ∧ realm.name ∈ before.map Realm.name := by
  induction realms using List.reverseRecOn with
  | nil => exact absurd List.nodup_nil repeats
  | append_singleton realms last ih =>
    by_cases distinct : (realms.map Realm.name).Nodup
    · refine ⟨realms, last, [], rfl, distinct, ?_⟩
      by_contra new
      refine repeats ?_
      rw [List.map_append, List.map_singleton]
      simpa using distinct.concat new
    · obtain ⟨before, realm, after, rfl, first, repeated⟩ := ih distinct
      exact ⟨before, realm, after ++ [last], by simp, first, repeated⟩

/-- Where names are distinct, none is reported as repeated. -/
theorem validate_ne_repeatedName {config : Config}
    (distinct : (config.realms.map Realm.name).Nodup) (name : String) :
    config.validate ≠ .error (.invalidRealm name .repeatedName) := by
  intro failed
  obtain ⟨before, realm, after, listed, -, -, violation⟩ := validate_eq_error_iff.1 failed
  cases violation with
  | repeatedName named repeated =>
    rw [listed, List.map_append] at distinct
    exact List.disjoint_of_nodup_append distinct repeated List.mem_cons_self

/-! ## Loading -/

namespace Surroundings

/-- The variables write no realm. -/
theorem realms_of_variableLayer {s : Surroundings} {top : Layer} (h : s.variableLayer = .ok top) :
    top.realms = [] := by
  obtain ⟨op?, flag?, -, -, set⟩ := (readable_iff.2 ⟨top, h⟩).exists_variableLayer
  obtain rfl := Except.ok.inj (h.symm.trans set)
  rfl

end Surroundings

namespace Loader

variable {loader : Loader} {s : Surroundings} {found : List (Option Layer)} {top : Layer}

/-- What is laid is validated. -/
theorem load_of_read (read : (loader.paths s).mapM s.layer? = .ok found)
    (set : (loader.view s).variableLayer = .ok top) :
    let config := (found.reduceOption.foldl overlay {}).overlay top
    loader.load s = config.validate.map fun _ => config := by
  intro config
  rw [load_of_files (Surroundings.writes_iff.2 ⟨found, read, rfl⟩), set]
  rfl

/-- However often a name is written, one realm of it is laid. -/
theorem realms_laid (set : s.variableLayer = .ok top) :
    ((found.reduceOption.foldl overlay {}).overlay top).realms =
      lastOfEach (found.reduceOption.flatMap Layer.realms) := by
  change overlayRealms _ top.realms = _
  rw [s.realms_of_variableLayer set, realms_foldl_overlay, ← overlayRealms_nil]
  rfl

/-- Whatever the files repeat, a load does not find it. -/
theorem load_ne_repeatedName (name : String) :
    loader.load s ≠ .error (.invalidRealm name .repeatedName) := by
  intro failed
  cases load_eq_iff.1 failed with
  | spoiltFile listed sooner spoilt => cases spoilt
  | invalid files word bad => exact validate_ne_repeatedName word.distinct name bad

/-- A load passes if the realms that are left are sound. -/
theorem exists_load_eq_ok_iff (read : (loader.paths s).mapM s.layer? = .ok found)
    (set : (loader.view s).variableLayer = .ok top) :
    (∃ config, loader.load s = .ok config) ↔
      ∀ realm ∈ lastOfEach (found.reduceOption.flatMap Layer.realms), realm.Sound := by
  let config := (found.reduceOption.foldl overlay {}).overlay top
  have distinct := nodup_names_lastOfEach (found.reduceOption.flatMap Layer.realms)
  have valid : config.validate = .ok () ↔ _ := validate_eq_ok_iff
  rw [realms_laid set, and_iff_left distinct] at valid
  rw [← valid, load_of_read read set]
  cases Config.validate _ <;> simp [Except.map]

theorem realms_of_load (read : (loader.paths s).mapM s.layer? = .ok found)
    (set : (loader.view s).variableLayer = .ok top) {config : Config}
    (loaded : loader.load s = .ok config) :
    config.realms = lastOfEach (found.reduceOption.flatMap Layer.realms) := by
  rw [load_of_read read set] at loaded
  cases checked : ((found.reduceOption.foldl overlay {}).overlay top).validate with
  | error e =>
    rw [checked] at loaded
    contradiction
  | ok _ =>
    rw [checked] at loaded
    rw [← Except.ok.inj loaded]
    exact realms_laid set

end Loader

/-- A load never reports that a name is repeated. It keeps the last realm of each name that the files
write, passes if those are sound, and forgets the others. A configuration that is read at once from
one of these files is refused where a name is repeated for the first time, unless something is wrong
before. -/
theorem loads_last_of_each (loader : Loader) (s : Surroundings) :
    (∀ name, loader.load s ≠ .error (.invalidRealm name .repeatedName)) ∧
    (∀ found top, (loader.paths s).mapM s.layer? = .ok found →
      (loader.view s).variableLayer = .ok top →
      let entries := found.reduceOption.flatMap Layer.realms
      ((∃ config, loader.load s = .ok config) ↔ ∀ realm ∈ lastOfEach entries, realm.Sound) ∧
      ∀ config, loader.load s = .ok config → config.realms = lastOfEach entries) ∧
    ∀ text layer, Layer.ofToml? text = some layer → ¬ (layer.realms.map Realm.name).Nodup →
      ∃ config, ofToml? text = some config ∧ config.realms = layer.realms ∧
        ∃ before realm after, layer.realms = before ++ realm :: after ∧
          (before.map Realm.name).Nodup ∧ realm.name ∈ before.map Realm.name ∧
          config.validate = (checkRealms [] before >>= fun _ =>
            .error (.invalidRealm realm.name .repeatedName)) := by
  refine ⟨loader.load_ne_repeatedName, fun found top read set => ?_,
    fun text layer read repeats => ?_⟩
  · exact ⟨Loader.exists_load_eq_ok_iff read set, fun config => Loader.realms_of_load read set⟩
  · have direct : ofToml? text = some layer.alone := by
      rw [ofToml?_eq_alone, read]
      rfl
    obtain ⟨before, realm, after, listed, distinct, repeated⟩ := exists_first_repeated repeats
    refine ⟨layer.alone, direct, rfl, before, realm, after, listed, distinct, repeated, ?_⟩
    change checkRealms [] layer.realms = _
    rw [listed]
    exact checkRealms_of_repeated repeated

/-- The account of the first realm is gone, and its realm is reported where the text is read at
once. -/
theorem loads_last_of_each_of_site :
    let text := "[[realms]]\nname = \"a\"\n[realms.accounts.alice]\nroles = [\"editor\"]\n" ++
      "[[realms]]\nname = \"b\"\n[[realms]]\nname = \"a\"\n"
    let alice := SortedMap.empty.insert "alice" (Account.ofLists ["editor"] [])
    let layer : Layer := { realms := [⟨"a", alice⟩, ⟨"b", .empty⟩, ⟨"a", .empty⟩] }
    let s : Surroundings :=
      { home := "/", files := SortedMap.empty.insert "site.toml" (.file text.toUTF8) }
    let loader : Loader := { files := ["site.toml"] }
    (loader.paths s).mapM s.layer? = .ok [none, some layer] ∧
      (loader.view s).variableLayer = .ok {} ∧ Layer.ofToml? text = some layer ∧
      ¬ (layer.realms.map Realm.name).Nodup ∧
      (∃ config, loader.load s = .ok config ∧ config.realms = [⟨"a", .empty⟩, ⟨"b", .empty⟩]) ∧
      ∃ config, ofToml? text = some config ∧ config.validate ≠ .ok () := by
  intro text alice layer s loader
  have read : (loader.paths s).mapM s.layer? = .ok [none, some layer] := by decide +kernel
  have set : (loader.view s).variableLayer = .ok {} := by decide +kernel
  have written : Layer.ofToml? text = some layer := by decide +kernel
  have repeats : ¬ (layer.realms.map Realm.name).Nodup := by decide +kernel
  obtain ⟨-, laid, direct⟩ := loads_last_of_each loader s
  obtain ⟨passes, left⟩ := laid _ _ read set
  refine ⟨read, set, written, repeats, ?_, ?_⟩
  · have checked : checkRealms [] (lastOfEach layer.realms) = .ok () := by decide +kernel
    have sound : ∀ realm ∈ lastOfEach layer.realms, realm.Sound := fun realm mem =>
      ((checkRealms_eq_ok_iff.1 checked).1 realm mem).1
    obtain ⟨config, loaded⟩ := passes.2 sound
    exact ⟨config, loaded, (left config loaded).trans (by decide +kernel)⟩
  · obtain ⟨config, found, -, before, realm, -, -, -, -, outcome⟩ :=
      direct text layer written repeats
    refine ⟨config, found, ?_⟩
    rw [outcome]
    cases checkRealms [] before <;> nofun

/-- A file writes a realm twice, and the one that has an account is forgotten. -/
theorem discards_realm_of_file :
    let text := "[[realms]]\nname = \"a\"\n[realms.accounts.alice]\nroles = [\"editor\"]\n" ++
      "[[realms]]\nname = \"a\"\n"
    let s : Surroundings :=
      { home := "/", files := SortedMap.empty.insert "site.toml" (.file text.toUTF8) }
    let loader : Loader := { global := .skipped, files := ["site.toml"], skipVariables := true }
    (s.layer? "site.toml").map (·.map fun layer => layer.realms.map Realm.name) =
        .ok (some ["a", "a"]) ∧
      loader.load s = .ok { realms := [{ name := "a" }] } ∧
      (ofToml? text).map validate = some (.error (.invalidRealm "a" .repeatedName)) := by
  decide +kernel

end Gatehouse.Config
