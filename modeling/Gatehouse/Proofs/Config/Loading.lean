import Gatehouse.Proofs.Config.Layering
import Gatehouse.Proofs.Config.Validation
import Gatehouse.Proofs.Manager.Setup

/-!
# Loading

What comes of a load is told by `Config.Loader.Outcome`, without laying layers over each other: an
error in a file comes before any error in a later file, in a variable or in what has been put
together, and otherwise the configuration in which the last word stands (`Config.LastWord`) is
validated. A configuration that is loaded can be used (`Config.loads_in_order_of_priority`).
-/

namespace Gatehouse.Config

/-! ## Files -/

namespace Surroundings

variable {s : Surroundings} {path : String} {paths : List String}

/-- There is a file, and no layer can be read from it. -/
inductive Spoils (s : Surroundings) (path : String) : ConfigError → Prop
  | locked {reason : String} (file : s.files.entry? path = some (.locked reason)) :
    Spoils s path (.unreadable path (.other reason))
  | notText {content : ByteArray} (file : s.files.entry? path = some (.file content))
    (bad : String.fromUTF8? content = none) : Spoils s path (.unreadable path .notText)
  | notLayer {content : ByteArray} {text : String}
    (file : s.files.entry? path = some (.file content))
    (decoded : String.fromUTF8? content = some text) (bad : Layer.ofToml? text = none) :
    Spoils s path (.malformed path)

/-- The paths lead to files that write these layers, in this order, or to no file. -/
inductive Writes (s : Surroundings) : List String → List Layer → Prop
  | nil : Writes s [] []
  | missing {path : String} {paths : List String} {layers : List Layer}
    (missing : s.files.entry? path = none ∨ s.files.entry? path = some .directory)
    (rest : Writes s paths layers) : Writes s (path :: paths) layers
  | file {path : String} {paths : List String} {layers : List Layer} {content : ByteArray}
    {text : String} {layer : Layer} (file : s.files.entry? path = some (.file content))
    (decoded : String.fromUTF8? content = some text) (read : Layer.ofToml? text = some layer)
    (rest : Writes s paths layers) : Writes s (path :: paths) (layer :: layers)

theorem layer?_eq_error_iff {e : ConfigError} : s.layer? path = .error e ↔ s.Spoils path e := by
  constructor
  · intro failed
    unfold layer? at failed
    split at failed
    next => contradiction
    next => contradiction
    next reason file =>
      obtain rfl := Except.error.inj failed
      exact .locked file
    next content file =>
      split at failed
      next bad =>
        obtain rfl := Except.error.inj failed
        exact .notText file bad
      next text decoded =>
        split at failed
        next bad =>
          obtain rfl := Except.error.inj failed
          exact .notLayer file decoded bad
        next => contradiction
  · rintro (file | ⟨file, bad⟩ | ⟨file, decoded, bad⟩)
    · simp [layer?, file]
    · simp [layer?, file, bad]
    · simp [layer?, file, decoded, bad]

theorem layer?_eq_ok_none_iff :
    s.layer? path = .ok none ↔
      s.files.entry? path = none ∨ s.files.entry? path = some .directory := by
  unfold layer?
  split
  next missing => simp [missing]
  next directory => simp [directory]
  next locked => simp [locked]
  next content file =>
    split
    next => simp [file]
    next => split <;> simp [file]

theorem layer?_eq_ok_some_iff {layer : Layer} :
    s.layer? path = .ok (some layer) ↔
      ∃ content text, s.files.entry? path = some (.file content) ∧
        String.fromUTF8? content = some text ∧ Layer.ofToml? text = some layer := by
  unfold layer?
  split
  next missing => simp [missing]
  next directory => simp [directory]
  next locked => simp [locked]
  next content file =>
    simp only [file, Option.some.injEq, FileEntry.file.injEq, exists_and_left, exists_eq_left']
    split
    next bad => simp [bad]
    next text decoded =>
      split
      next bad => simp [decoded, bad]
      next found read => simp [decoded, read]

/-- The layers that are written are those that are found. -/
theorem writes_iff {layers : List Layer} :
    s.Writes paths layers ↔
      ∃ found, paths.mapM s.layer? = .ok found ∧ found.reduceOption = layers := by
  simp only [mapM_eq_ok_iff]
  constructor
  · intro h
    induction h with
    | nil => exact ⟨[], rfl, rfl⟩
    | missing missing rest ih =>
      obtain ⟨found, read, rfl⟩ := ih
      refine ⟨none :: found, ?_, rfl⟩
      rw [List.map_cons, layer?_eq_ok_none_iff.2 missing, read, List.map_cons]
    | file file decoded layer rest ih =>
      obtain ⟨found, read, rfl⟩ := ih
      refine ⟨some _ :: found, ?_, rfl⟩
      rw [List.map_cons, layer?_eq_ok_some_iff.2 ⟨_, _, file, decoded, layer⟩, read, List.map_cons]
  · rintro ⟨found, read, rfl⟩
    induction paths generalizing found with
    | nil =>
      obtain rfl : found = [] := by simpa using read.symm
      exact .nil
    | cons path paths ih =>
      obtain ⟨first, found, rfl⟩ : ∃ first rest, found = first :: rest :=
        List.exists_cons_of_ne_nil fun none => by simp [none] at read
      obtain ⟨here, there⟩ := List.cons.inj read
      cases first with
      | none => exact .missing (layer?_eq_ok_none_iff.1 here) (ih found there)
      | some layer =>
        obtain ⟨content, text, file, decoded, read⟩ := layer?_eq_ok_some_iff.1 here
        exact .file file decoded read (ih found there)

/-! ## Variables -/

theorem variableLayer_of_bad_operator {value : String} {fault : UnknownOperator}
    (set : s.valueOf? operatorVariable = some value) (bad : Operator.parse value = .error fault) :
    s.variableLayer = .error (.badVariable operatorVariable value (.operator fault)) := by
  rw [variableLayer, set, Option.mapM_some, operatorOf, bad]
  rfl

theorem variableLayer_of_bad_results {value : String}
    (operator : ∀ text, s.valueOf? operatorVariable = some text →
      ∃ op, Operator.parse text = .ok op)
    (set : s.valueOf? resultsVariable = some value) (bad : readFlag value = none) :
    s.variableLayer = .error (.badVariable resultsVariable value .notBoolean) := by
  obtain ⟨op?, read⟩ := exists_mapM_eq_ok operatorOf
    (by simpa only [operatorOf_eq_ok_iff] using operator)
  rw [variableLayer, read, set, Option.mapM_some, flagOf, bad]
  rfl

end Surroundings

/-- There is only one last word. -/
theorem LastWord.unique {layers : List Layer} {s : Surroundings} {c d : Config}
    (hc : LastWord layers s c) (hd : LastWord layers s d) : c = d := by
  have operator : c.authz.defaultOperator = d.authz.defaultOperator := by
    cases given : s.valueOf? operatorVariable with
    | none => rw [hc.operator_of_unset given, hd.operator_of_unset given]
    | some text =>
      have same := (hc.operator_of_set text given).symm.trans (hd.operator_of_set text given)
      exact Except.ok.inj same
  have results : c.authz.logResults = d.authz.logResults := by
    cases given : s.valueOf? resultsVariable with
    | none => rw [hc.results_of_unset given, hd.results_of_unset given]
    | some text =>
      have same := (hc.results_of_set text given).symm.trans (hd.results_of_set text given)
      exact Option.some.inj same
  have named {c : Config} (h : LastWord layers s c) : c.realms.map some =
      (c.realms.map Realm.name).map fun name =>
        (layers.flatMap Layer.realms).reverse.find? (·.name = name) := by
    rw [List.map_map]
    exact List.map_congr_left fun realm mem => (h.last realm mem).symm
  have realms : c.realms = d.realms := by
    have inj : Function.Injective (some : Realm → Option Realm) := fun _ _ => Option.some.inj
    refine List.map_injective_iff.2 inj ?_
    rw [named hc, named hd, hc.names, hd.names]
  have authz : c.authz = d.authz := congrArg₂ Authz.mk operator results
  have logging : c.logging = d.logging :=
    congrArg₂ Logging.mk (hc.level.trans hd.level.symm) (hc.ansi.trans hd.ansi.symm)
  calc c
    _ = ⟨c.authz, c.logging, c.realms⟩ := rfl
    _ = d := by rw [authz, logging, realms]

/-! ## What comes of a load -/

namespace Loader

variable {loader : Loader} {s : Surroundings}

/-- What comes of a load. Each case presupposes that none of those before it applies. -/
inductive Outcome (loader : Loader) (s : Surroundings) : Except ConfigError Config → Prop
  | spoiltFile {before after : List String} {path : String} {layers : List Layer} {e : ConfigError}
    (listed : loader.paths s = before ++ path :: after) (sooner : s.Writes before layers)
    (spoilt : s.Spoils path e) : Outcome loader s (.error e)
  | badOperator {layers : List Layer} {value : String} {fault : UnknownOperator}
    (files : s.Writes (loader.paths s) layers)
    (set : (loader.view s).valueOf? operatorVariable = some value)
    (bad : Operator.parse value = .error fault) :
    Outcome loader s (.error (.badVariable operatorVariable value (.operator fault)))
  | badResults {layers : List Layer} {value : String} (files : s.Writes (loader.paths s) layers)
    (operator : ∀ text, (loader.view s).valueOf? operatorVariable = some text →
      ∃ op, Operator.parse text = .ok op)
    (set : (loader.view s).valueOf? resultsVariable = some value)
    (bad : readFlag value = none) :
    Outcome loader s (.error (.badVariable resultsVariable value .notBoolean))
  | invalid {layers : List Layer} {config : Config} {e : ConfigError}
    (files : s.Writes (loader.paths s) layers) (word : LastWord layers (loader.view s) config)
    (bad : config.validate = .error e) : Outcome loader s (.error e)
  | valid {layers : List Layer} {config : Config} (files : s.Writes (loader.paths s) layers)
    (word : LastWord layers (loader.view s) config) (valid : config.validate = .ok ()) :
    Outcome loader s (.ok config)

variable {layers : List Layer} {config : Config}

theorem load_of_files (files : s.Writes (loader.paths s) layers) :
    loader.load s = (do
      let top ← (loader.view s).variableLayer
      let config := (layers.foldl overlay {}).overlay top
      config.validate
      return config) := by
  obtain ⟨found, read, rfl⟩ := Surroundings.writes_iff.1 files
  rw [load_eq, read]
  rfl

/-- The configuration that is validated is the one in which the last word stands. -/
theorem load_of_word (files : s.Writes (loader.paths s) layers)
    (word : LastWord layers (loader.view s) config) :
    loader.load s = config.validate.map fun _ => config := by
  have readable : (loader.view s).Readable :=
    ⟨fun text given => ⟨_, word.operator_of_set text given⟩,
      fun text given => ⟨_, word.results_of_set text given⟩⟩
  obtain ⟨top, set, laid⟩ := exists_lastWord readable layers
  rw [load_of_files files, set, word.unique laid]
  rfl

theorem load_of_outcome {outcome : Except ConfigError Config} (h : loader.Outcome s outcome) :
    loader.load s = outcome := by
  cases h with
  | spoiltFile listed sooner spoilt =>
    obtain ⟨found, read, -⟩ := Surroundings.writes_iff.1 sooner
    have passed := exists_mapM_eq_ok_iff.1 ⟨found, read⟩
    have first := FirstError.iff_exists_append.2
      ⟨_, _, _, listed, passed, Surroundings.layer?_eq_error_iff.2 spoilt⟩
    rw [load_eq, mapM_eq_error_iff.2 first]
    rfl
  | badOperator files set bad =>
    rw [load_of_files files, Surroundings.variableLayer_of_bad_operator set bad]
    rfl
  | badResults files operator set bad =>
    rw [load_of_files files, Surroundings.variableLayer_of_bad_results operator set bad]
    rfl
  | invalid files word bad =>
    rw [load_of_word files word, bad]
    rfl
  | valid files word valid =>
    rw [load_of_word files word, valid]
    rfl

/-- The cases leave nothing out. -/
theorem exists_outcome (loader : Loader) (s : Surroundings) :
    ∃ outcome, loader.Outcome s outcome := by
  cases read : (loader.paths s).mapM s.layer? with
  | error e =>
    obtain ⟨before, path, after, listed, passed, failed⟩ :=
      FirstError.iff_exists_append.1 (mapM_eq_error_iff.1 read)
    obtain ⟨found, sooner⟩ := exists_mapM_eq_ok_iff.2 passed
    exact ⟨_, .spoiltFile listed (Surroundings.writes_iff.2 ⟨found, sooner, rfl⟩)
      (Surroundings.layer?_eq_error_iff.1 failed)⟩
  | ok found =>
    have files := Surroundings.writes_iff.2 ⟨found, read, rfl⟩
    by_cases operator : ∀ text, (loader.view s).valueOf? operatorVariable = some text →
        ∃ op, Operator.parse text = .ok op
    · by_cases results : ∀ text, (loader.view s).valueOf? resultsVariable = some text →
          ∃ flag, readFlag text = some flag
      · obtain ⟨top, -, word⟩ := exists_lastWord ⟨operator, results⟩ found.reduceOption
        cases checked : Config.validate _ with
        | error e => exact ⟨_, .invalid files word checked⟩
        | ok _ => exact ⟨_, .valid files word checked⟩
      · simp only [not_forall, ← Option.isSome_iff_exists, Option.not_isSome_iff_eq_none] at results
        obtain ⟨text, set, bad⟩ := results
        exact ⟨_, .badResults files operator set bad⟩
    · simp only [not_forall] at operator
      obtain ⟨text, set, bad⟩ := operator
      cases parsed : Operator.parse text with
      | error fault => exact ⟨_, .badOperator files set parsed⟩
      | ok op => exact absurd ⟨op, parsed⟩ bad

theorem load_eq_iff {outcome : Except ConfigError Config} :
    loader.load s = outcome ↔ loader.Outcome s outcome := by
  refine ⟨fun loaded => ?_, load_of_outcome⟩
  obtain ⟨other, h⟩ := exists_outcome loader s
  rwa [← loaded, load_of_outcome h]

theorem validate_of_load (loaded : loader.load s = .ok config) : config.validate = .ok () := by
  cases load_eq_iff.1 loaded with
  | valid files word valid => exact valid

end Loader

/-- What comes of a load is the first of these that applies: the error of the first file that is
there and cannot be read as a layer; that of a variable whose value cannot be read, the operator
before the results; that of the configuration in which the last word of files and variables stands,
if it is invalid; this configuration. What is loaded has distinct names, none of them blank, and no
text that is not a permission, and a manager can be made of it on any site. -/
theorem loads_in_order_of_priority (loader : Loader) (s : Surroundings) :
    (∀ outcome, loader.load s = outcome ↔ loader.Outcome s outcome) ∧
    ∀ config, loader.load s = .ok config →
      (∀ realm ∈ config.realms, realm.Sound) ∧ (config.realms.map Realm.name).Nodup ∧
      ∀ (σ : Type) (site : Site σ), ∃ m t, (Manager.ofConfig config).run.run site = (.ok m, t) := by
  refine ⟨fun outcome => Loader.load_eq_iff, fun config loaded => ?_⟩
  have valid := Loader.validate_of_load loaded
  obtain ⟨sound, distinct⟩ := validate_eq_ok_iff.1 valid
  exact ⟨sound, distinct, fun σ site => Manager.exists_ofConfig_eq_ok_iff.2 valid⟩

/-- The file that is no layer comes before the variable that names no operator, and neither matters
to a loader that reads neither. -/
theorem loads_in_order_of_priority_of_site :
    let text := "[[realms]]\nname = \"a\"\n[realms.accounts.alice]\npermissions = [\"doc:read\"]\n"
    let s : Surroundings :=
      { home := "/"
        files := (SortedMap.empty.insert "site.toml" (.file text.toUTF8)).insert "more.toml"
          (.file "[[".toUTF8)
        environment := SortedMap.empty.insert operatorVariable "none".toUTF8 }
    let loader : Loader := { files := ["site.toml", "more.toml"] }
    let modest : Loader := { files := ["site.toml", "lost.toml"], skipVariables := true }
    loader.Outcome s (.error (.malformed "more.toml")) ∧
      ∃ config, modest.load s = .ok config ∧ config.realms.map Realm.name = ["a"] ∧
        (∀ realm ∈ config.realms, realm.Sound) ∧
        ∃ m t, (Manager.ofConfig config).run.run ({} : Site Unit) = (.ok m, t) := by
  intro text s loader modest
  have failed : loader.load s = .error (.malformed "more.toml") := by decide +kernel
  let config : Config :=
    { realms := [⟨"a", SortedMap.empty.insert "alice" (.ofLists [] ["doc:read"])⟩] }
  have loaded : modest.load s = .ok config := by decide +kernel
  obtain ⟨outcomes, -⟩ := loads_in_order_of_priority loader s
  obtain ⟨-, usable⟩ := loads_in_order_of_priority modest s
  obtain ⟨sound, -, made⟩ := usable config loaded
  exact ⟨(outcomes _).1 failed, config, loaded, rfl, sound, made Unit {}⟩

end Gatehouse.Config
