import Mathlib.Data.List.Induction
import Mathlib.Data.List.Nodup
import Mathlib.Data.List.ReduceOption
import Gatehouse.Config.Loader
import Gatehouse.Proofs.FirstAppearance

/-!
# The last word

Layers that are laid over each other say many things about one setting, and the last of them stands
(`Config.LastWord`): a setting has the value of the last layer that writes it, and a realm is the
last one that is written under its name, in the place where the name came up first. A variable has
the very last word on its setting and no say on any other.
-/

namespace Gatehouse.Config

variable {α : Type}

/-! ## Settings -/

/-- What the last layer that writes a setting says. -/
def lastWord? (key : Layer → Option α) (layers : List Layer) : Option α :=
  layers.reverse.findSome? key

theorem lastWord?_cons {key : Layer → Option α} {layer : Layer} {layers : List Layer} :
    lastWord? key (layer :: layers) = (lastWord? key layers).or (key layer) := by
  simp [lastWord?, List.findSome?_append]

/-- A setting that each layer overrides where it writes it has the value of the last such layer. -/
theorem foldl_overlay_of_overrides {setting : Config → α} {key : Layer → Option α}
    (overrides : ∀ config layer, setting (overlay config layer) = (key layer).getD (setting config))
    (config : Config) (layers : List Layer) :
    setting (layers.foldl overlay config) = (lastWord? key layers).getD (setting config) := by
  induction layers generalizing config with
  | nil => rfl
  | cons layer layers ih =>
    rw [List.foldl_cons, ih, overrides, lastWord?_cons]
    cases lastWord? key layers <;> simp

/-! ## Realms -/

theorem overlayRealms_append_singleton {realms entries : List Realm} {realm : Realm} :
    overlayRealms realms (entries ++ [realm]) =
      placeRealm realm (overlayRealms realms entries) := by
  simp [overlayRealms]

theorem realms_foldl_overlay (config : Config) (layers : List Layer) :
    (layers.foldl overlay config).realms =
      overlayRealms config.realms (layers.flatMap Layer.realms) := by
  induction layers generalizing config with
  | nil => rfl
  | cons layer layers ih =>
    rw [List.foldl_cons, ih]
    simp [overlay, overlayRealms]

/-- The realm that is placed drives out the one with its name, and no other. -/
theorem mem_placeRealm {realm other : Realm} {realms : List Realm}
    (distinct : (realms.map Realm.name).Nodup) :
    other ∈ placeRealm realm realms ↔
      other = realm ∨ other ∈ realms ∧ other.name ≠ realm.name := by
  induction realms with
  | nil => simp [placeRealm]
  | cons first realms ih =>
    obtain ⟨unlike, rest⟩ := List.nodup_cons.1 distinct
    have unlike (r : Realm) (mem : r ∈ realms) : r.name ≠ first.name := by
      intro same
      exact unlike (same ▸ List.mem_map_of_mem mem)
    have ih := ih rest
    rw [placeRealm]
    split
    next same => grind
    next => grind

/-- The names stand in the order in which they came up first. -/
theorem names_overlayRealms (entries : List Realm) :
    (overlayRealms [] entries).map Realm.name = (entries.map Realm.name).eraseDups := by
  induction entries using List.reverseRecOn with
  | nil => rfl
  | append_singleton entries realm ih =>
    have known : realm.name ∈ (overlayRealms [] entries).map Realm.name ↔
        realm.name ∈ entries.map Realm.name := by
      rw [ih, List.mem_eraseDups]
    rw [overlayRealms_append_singleton, List.map_append, List.map_singleton,
      eraseDups_append_singleton]
    split
    next old => rw [names_placeRealm (known.2 old), ih]
    next new =>
      rw [placeRealm_of_new (mt known.1 new), List.map_append, ih]
      rfl

theorem nodup_names_overlayRealms (entries : List Realm) :
    ((overlayRealms [] entries).map Realm.name).Nodup := by
  rw [names_overlayRealms]
  exact (inFirstOrder_eraseDups _).nodup

/-- Each realm is, as a whole, the last one that was written under its name. -/
theorem last_of_mem_overlayRealms {entries : List Realm} {realm : Realm}
    (mem : realm ∈ overlayRealms [] entries) :
    entries.reverse.find? (·.name = realm.name) = some realm := by
  induction entries using List.reverseRecOn with
  | nil => simp [overlayRealms] at mem
  | append_singleton entries last ih =>
    rw [overlayRealms_append_singleton, mem_placeRealm (nodup_names_overlayRealms entries)] at mem
    rcases mem with rfl | ⟨earlier, other⟩
    · simp
    · simpa [Ne.symm other] using ih earlier

/-! ## Variables -/

theorem eq_some_of_mapM {ε β : Type} {read : α → Except ε β} {value? : Option α} {found? : Option β}
    (h : value?.mapM read = .ok found?) {value : α} (given : value? = some value) :
    ∃ found, found? = some found ∧ read value = .ok found := by
  subst given
  rw [Option.mapM_some] at h
  cases outcome : read value with
  | error e =>
    rw [outcome] at h
    contradiction
  | ok found =>
    rw [outcome] at h
    cases h
    exact ⟨found, rfl, rfl⟩

theorem eq_none_of_mapM {ε β : Type} {read : α → Except ε β} {value? : Option α} {found? : Option β}
    (h : value?.mapM read = .ok found?) (missing : value? = none) : found? = none := by
  subst missing
  exact (Except.ok.inj h).symm

theorem exists_mapM_eq_ok {ε β : Type} (read : α → Except ε β) {value? : Option α}
    (readable : ∀ value, value? = some value → ∃ found, read value = .ok found) :
    ∃ found?, value?.mapM read = .ok found? := by
  cases value? with
  | none => exact ⟨none, rfl⟩
  | some value =>
    obtain ⟨found, given⟩ := readable value rfl
    exact ⟨some found, by rw [Option.mapM_some, given]; rfl⟩

theorem operatorOf_eq_ok_iff {text : String} {op : Operator} :
    operatorOf text = .ok op ↔ Operator.parse text = .ok op := by
  rw [operatorOf]
  cases Operator.parse text <;> simp [Except.mapError]

theorem flagOf_eq_ok_iff {text : String} {flag : Bool} :
    flagOf text = .ok flag ↔ readFlag text = some flag := by
  rw [flagOf]
  cases readFlag text <;> simp

/-- The variables can be read: those that are set name an operator and a truth value. -/
structure Surroundings.Readable (s : Surroundings) : Prop where
  operator : ∀ text, s.valueOf? operatorVariable = some text → ∃ op, Operator.parse text = .ok op
  results : ∀ text, s.valueOf? resultsVariable = some text → ∃ flag, readFlag text = some flag

theorem Surroundings.Readable.exists_variableLayer {s : Surroundings} (h : s.Readable) :
    ∃ op? flag?, (s.valueOf? operatorVariable).mapM operatorOf = .ok op? ∧
      (s.valueOf? resultsVariable).mapM flagOf = .ok flag? ∧
      s.variableLayer =
        .ok { authz := ⟨op?, flag?⟩, logging := { level? := s.valueOf? levelVariable } } := by
  obtain ⟨op?, operator⟩ := exists_mapM_eq_ok operatorOf
    (by simpa only [operatorOf_eq_ok_iff] using h.operator)
  obtain ⟨flag?, results⟩ := exists_mapM_eq_ok flagOf
    (by simpa only [flagOf_eq_ok_iff] using h.results)
  refine ⟨op?, flag?, operator, results, ?_⟩
  rw [Surroundings.variableLayer, operator, results]
  rfl

/-- The variables write a layer if they can be read, and otherwise no configuration comes about. -/
theorem Surroundings.readable_iff {s : Surroundings} :
    s.Readable ↔ ∃ top, s.variableLayer = .ok top := by
  constructor
  · intro h
    obtain ⟨op?, flag?, -, -, set⟩ := h.exists_variableLayer
    exact ⟨_, set⟩
  · rintro ⟨top, set⟩
    rw [variableLayer] at set
    cases operator : (s.valueOf? operatorVariable).mapM operatorOf with
    | error e =>
      rw [operator] at set
      contradiction
    | ok op? =>
      rw [operator] at set
      cases results : (s.valueOf? resultsVariable).mapM flagOf with
      | error e =>
        rw [results] at set
        contradiction
      | ok flag? =>
        constructor
        · intro text given
          obtain ⟨op, -, read⟩ := eq_some_of_mapM operator given
          exact ⟨op, operatorOf_eq_ok_iff.1 read⟩
        · intro text given
          obtain ⟨flag, -, read⟩ := eq_some_of_mapM results given
          exact ⟨flag, flagOf_eq_ok_iff.1 read⟩

/-! ## The last word -/

/-- Each setting of the configuration has the value of its variable, or else of the last layer that
writes it, or else its default; and the realms are the last ones of their names. -/
structure LastWord (layers : List Layer) (s : Surroundings) (config : Config) : Prop where
  operator_of_set : ∀ text, s.valueOf? operatorVariable = some text →
    Operator.parse text = .ok config.authz.defaultOperator
  operator_of_unset : s.valueOf? operatorVariable = none →
    config.authz.defaultOperator = (lastWord? (·.authz.defaultOperator?) layers).getD .all
  results_of_set : ∀ text, s.valueOf? resultsVariable = some text →
    readFlag text = some config.authz.logResults
  results_of_unset : s.valueOf? resultsVariable = none →
    config.authz.logResults = (lastWord? (·.authz.logResults?) layers).getD true
  level : config.logging.level =
    ((s.valueOf? levelVariable).or (lastWord? (·.logging.level?) layers)).getD "warn"
  ansi : config.logging.ansi = (lastWord? (·.logging.ansi?) layers).getD true
  distinct : (config.realms.map Realm.name).Nodup
  names : config.realms.map Realm.name = ((layers.flatMap Layer.realms).map Realm.name).eraseDups
  last : ∀ realm ∈ config.realms,
    (layers.flatMap Layer.realms).reverse.find? (·.name = realm.name) = some realm

theorem exists_lastWord {s : Surroundings} (h : s.Readable) (layers : List Layer) :
    ∃ top, s.variableLayer = .ok top ∧
      LastWord layers s ((layers.foldl overlay {}).overlay top) := by
  obtain ⟨op?, flag?, operator, results, set⟩ := h.exists_variableLayer
  refine ⟨_, set, ?_⟩
  have last {α : Type} (setting : Config → α) {key : Layer → Option α} (overrides) :
      setting (layers.foldl overlay {}) = (lastWord? key layers).getD (setting {}) :=
    foldl_overlay_of_overrides overrides {} layers
  have operators := last (·.authz.defaultOperator) fun _ _ => rfl
  have flags := last (·.authz.logResults) fun _ _ => rfl
  have levels := last (·.logging.level) fun _ _ => rfl
  have placed : (layers.foldl overlay {}).realms =
      overlayRealms [] (layers.flatMap Layer.realms) := realms_foldl_overlay {} layers
  constructor
  case operator_of_set =>
    intro text given
    obtain ⟨op, rfl, read⟩ := eq_some_of_mapM operator given
    exact operatorOf_eq_ok_iff.1 read
  case operator_of_unset =>
    intro missing
    obtain rfl := eq_none_of_mapM operator missing
    exact operators
  case results_of_set =>
    intro text given
    obtain ⟨flag, rfl, read⟩ := eq_some_of_mapM results given
    exact flagOf_eq_ok_iff.1 read
  case results_of_unset =>
    intro missing
    obtain rfl := eq_none_of_mapM results missing
    exact flags
  case level =>
    cases given : s.valueOf? levelVariable with
    | none => exact levels
    | some text => rfl
  case ansi => exact last (·.logging.ansi) fun _ _ => rfl
  case distinct => exact placed ▸ nodup_names_overlayRealms _
  case names => exact placed ▸ names_overlayRealms _
  case last => exact fun realm mem => last_of_mem_overlayRealms (placed ▸ mem)

/-! ## Loading -/

/-- The layers of the files that are there are laid over each other in order. -/
theorem foldlM_overlayFile (s : Surroundings) (paths : List String) (config : Config) :
    paths.foldlM s.overlayFile config =
      (paths.mapM s.layer?).map fun found => found.reduceOption.foldl overlay config := by
  induction paths generalizing config with
  | nil => rfl
  | cons path paths ih =>
    rw [List.foldlM_cons, List.mapM_cons]
    cases first : s.layer? path with
    | error e =>
      rw [Surroundings.overlayFile, first]
      rfl
    | ok layer? =>
      have step : s.overlayFile config path = .ok (layer?.elim config config.overlay) := by
        rw [Surroundings.overlayFile, first]
        rfl
      rw [step]
      refine (ih _).trans ?_
      cases paths.mapM s.layer? with
      | error e => rfl
      | ok more => cases layer? <;> simp [Except.map, bind, Except.bind, pure, Except.pure]

/-- The surroundings as a loader sees them, with no variables where it skips them. -/
def Loader.view (loader : Loader) (s : Surroundings) : Surroundings :=
  if loader.skipVariables then { s with environment := .empty } else s

/-- The files come first, then the variables, and the validation last. -/
theorem Loader.load_eq (loader : Loader) (s : Surroundings) :
    loader.load s = (do
      let found ← (loader.paths s).mapM s.layer?
      let top ← (loader.view s).variableLayer
      let config := (found.reduceOption.foldl overlay {}).overlay top
      config.validate
      return config) := by
  rw [load, gather, readFiles, foldlM_overlayFile, view]
  cases (loader.paths s).mapM s.layer? with
  | error e => rfl
  | ok found =>
    cases loader.skipVariables with
    | true => rfl
    | false =>
      simp only [Bool.false_eq_true, if_false]
      cases s.variableLayer <;> rfl

/-- The configuration before validation, in which the last word stands. -/
theorem exists_gather {s : Surroundings} (loader : Loader)
    (readable : loader.skipVariables = false → s.Readable) {found : List (Option Layer)}
    (read : (loader.paths s).mapM s.layer? = .ok found) :
    ∃ config, loader.gather s = .ok config ∧ LastWord found.reduceOption
      (if loader.skipVariables then { s with environment := .empty } else s) config := by
  have files : loader.readFiles s = .ok (found.reduceOption.foldl overlay {}) := by
    rw [Loader.readFiles, foldlM_overlayFile, read]
    rfl
  rw [Loader.gather, files]
  cases skipped : loader.skipVariables with
  | true =>
    have unset : Surroundings.Readable { s with environment := .empty } := ⟨nofun, nofun⟩
    obtain ⟨top, set, word⟩ := exists_lastWord unset found.reduceOption
    obtain rfl : {} = top := Except.ok.inj set
    exact ⟨_, rfl, word⟩
  | false =>
    obtain ⟨top, set, word⟩ := exists_lastWord (readable skipped) found.reduceOption
    refine ⟨_, ?_, word⟩
    change (do return Config.overlay _ (← s.variableLayer)) = _
    rw [set]
    rfl

/-- Layers that are laid over the default one after the other, and then the variables if they can be
read, leave each setting and each realm as the last of them has it; and a loader that finds these
layers in its files puts this very configuration before the validation, from whose errors alone a
load can then fail. -/
theorem last_word_stands (s : Surroundings) (layers : List Layer) :
    (s.Readable ↔ ∃ top, s.variableLayer = .ok top) ∧
    (∀ top, s.variableLayer = .ok top →
      LastWord layers s ((layers.foldl overlay {}).overlay top)) ∧
    ∀ (loader : Loader) (found : List (Option Layer)),
      (loader.paths s).mapM s.layer? = .ok found → found.reduceOption = layers →
      (loader.skipVariables = false → s.Readable) →
      ∃ config, loader.load s = config.validate.map (fun _ => config) ∧ LastWord layers
        (if loader.skipVariables then { s with environment := .empty } else s) config := by
  refine ⟨Surroundings.readable_iff, fun top set => ?_, ?_⟩
  · obtain ⟨layer, same, word⟩ := exists_lastWord (Surroundings.readable_iff.2 ⟨top, set⟩) layers
    obtain rfl : top = layer := Except.ok.inj (set.symm.trans same)
    exact word
  · rintro loader found read rfl readable
    obtain ⟨config, gathered, word⟩ := exists_gather loader readable read
    refine ⟨config, ?_, word⟩
    rw [Loader.load, gathered]
    rfl

/-- The second layer restates the default operator and empties a realm, and a variable speaks of
results. -/
theorem last_word_stands_of_restated_default :
    let clerks : SortedMap String Account := SortedMap.empty.insert "alice" (.ofLists ["clerk"] [])
    let layers : List Layer :=
      [{ authz := { defaultOperator? := some .any, logResults? := some true }
         realms := [⟨"office", clerks⟩, ⟨"archive", .empty⟩] },
       { authz := { defaultOperator? := some .all }, realms := [⟨"office", .empty⟩] }]
    let s : Surroundings :=
      { home := "/", environment := SortedMap.empty.insert resultsVariable " No".toUTF8 }
    s.Readable ∧ ∃ top, s.variableLayer = .ok top ∧
      let config := (layers.foldl overlay {}).overlay top
      config.authz = { defaultOperator := .all, logResults := false } ∧
        config.realms.map Realm.name = ["office", "archive"] ∧
        ∀ realm ∈ config.realms, realm.accounts = .empty := by
  intro clerks layers s
  have unset : s.valueOf? operatorVariable = none := by decide +kernel
  have set : s.valueOf? resultsVariable = some " No" := by decide +kernel
  have flag : readFlag " No" = some false := by decide +kernel
  have readable : s.Readable := by
    refine ⟨?_, ?_⟩
    · simp [unset]
    · simp [set, flag]
  obtain ⟨writes, last, -⟩ := last_word_stands s layers
  obtain ⟨top, written⟩ := writes.1 readable
  have word := last top written
  have operator := word.operator_of_unset unset
  have results := word.results_of_set _ set
  have names : ((layers.foldl overlay {}).overlay top).realms.map Realm.name =
      ["office", "archive"] := word.names.trans (by decide +kernel)
  refine ⟨readable, top, written, ?_, names, fun realm mem => ?_⟩
  · have off := Option.some.inj (results.symm.trans flag)
    exact congrArg₂ Authz.mk operator off
  · have named : realm.name ∈ ["office", "archive"] := names ▸ List.mem_map_of_mem mem
    have last := word.last realm mem
    rcases List.mem_cons.1 named with office | other
    · rw [office] at last
      exact (Option.some.inj last) ▸ rfl
    · rw [List.mem_singleton.1 other] at last
      exact (Option.some.inj last) ▸ rfl

end Gatehouse.Config
