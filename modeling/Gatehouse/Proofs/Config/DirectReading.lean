import Gatehouse.Proofs.Config.Layering

/-!
# Read at once, or as a layer

A text is a configuration if and only if it is a layer, and the layer laid over the default is the
configuration again, except that of the realms with one name only the last is left
(`Config.reads_as_layer`). `Layer.alone` is what a layer writes by itself: reading at once is
reading the layer and taking that (`Config.ofValue?_eq_alone`).
-/

namespace Gatehouse

open Document

namespace Document.Members

variable {α β : Type} {m : Members} {read : Value → Option α} {place : Nat} {name : String}

/-- A member that is absent where it is not written stands for its default. -/
theorem optional_getD (default : α) :
    (m.optional none (fun v => (read v).map some) place name).map (·.getD default) =
      m.optional default read place name := by
  unfold optional
  cases m.get? place name with
  | none => rfl
  | some v => cases h : read v <;> simp [h]

theorem optional_map (f : α → β) (default : α) :
    (m.optional default read place name).map f =
      m.optional (f default) (fun v => (read v).map f) place name := by
  unfold optional
  cases m.get? place name <;> rfl

end Document.Members

namespace Config

/-! ## The same settings -/

section Reading

variable {d : Dialect} {v : Value}

theorem Authz.ofValue?_eq_overlay :
    Authz.ofValue? d v = (Layer.Authz.ofValue? d v).map ({} : Authz).overlay := by
  unfold Authz.ofValue? Layer.Authz.ofValue?
  cases v.members? d 2 with
  | none => rfl
  | some m =>
    simp only [Option.bind_eq_bind, Option.bind_some]
    rw [← m.optional_getD Operator.all, ← m.optional_getD true]
    cases m.optional none (fun v => (Operator.ofValue? d v).map some) 0 "default_operator" with
    | none => rfl
    | some operator? =>
      cases m.optional none (fun v => v.bool?.map some) 1 "log_results" <;> rfl

theorem Logging.ofValue?_eq_overlay :
    Logging.ofValue? d v = (Layer.Logging.ofValue? d v).map ({} : Logging).overlay := by
  unfold Logging.ofValue? Layer.Logging.ofValue?
  cases v.members? d 2 with
  | none => rfl
  | some m =>
    simp only [Option.bind_eq_bind, Option.bind_some]
    rw [← m.optional_getD "warn", ← m.optional_getD true]
    cases m.optional none (fun v => v.text?.map some) 0 "level" with
    | none => rfl
    | some level? => cases m.optional none (fun v => v.bool?.map some) 1 "ansi" <;> rfl

/-- The configuration that a layer writes by itself, with its realms as they are listed. -/
def Layer.alone (layer : Layer) : Config where
  authz := ({} : Config.Authz).overlay layer.authz
  logging := ({} : Config.Logging).overlay layer.logging
  realms := layer.realms

theorem ofValue?_eq_alone : ofValue? d v = (Layer.ofValue? d v).map Layer.alone := by
  unfold ofValue? Layer.ofValue?
  cases v.members? d 3 with
  | none => rfl
  | some m =>
    have authz : m.optional {} (Authz.ofValue? d) 0 "authz" =
        (m.optional {} (Layer.Authz.ofValue? d) 0 "authz").map ({} : Authz).overlay := by
      rw [m.optional_map]
      exact congrArg (m.optional _ · _ _) (funext fun _ => Authz.ofValue?_eq_overlay)
    have logging : m.optional {} (Logging.ofValue? d) 1 "logging" =
        (m.optional {} (Layer.Logging.ofValue? d) 1 "logging").map ({} : Logging).overlay := by
      rw [m.optional_map]
      exact congrArg (m.optional _ · _ _) (funext fun _ => Logging.ofValue?_eq_overlay)
    simp only [Option.bind_eq_bind, Option.bind_some, authz, logging]
    cases m.optional {} (Layer.Authz.ofValue? d) 0 "authz" with
    | none => rfl
    | some first =>
      cases m.optional {} (Layer.Logging.ofValue? d) 1 "logging" with
      | none => rfl
      | some second =>
        cases m.optional [] (Value.listOf? (Realm.ofValue? d)) 2 "realms" <;> rfl

theorem ofToml?_eq_alone (text : String) :
    ofToml? text = (Layer.ofToml? text).map Layer.alone := by
  rw [ofToml?, Layer.ofToml?]
  cases Toml.parse? text with
  | none => rfl
  | some v => exact ofValue?_eq_alone

end Reading

/-! ## The same realms -/

/-- The last entry of each name, in the order in which the names came up first. -/
def lastOfEach (entries : List Realm) : List Realm :=
  (entries.map Realm.name).eraseDups.filterMap fun name => entries.reverse.find? (·.name = name)

theorem overlayRealms_nil (entries : List Realm) :
    overlayRealms [] entries = lastOfEach entries := by
  rw [lastOfEach, ← names_overlayRealms, List.filterMap_map]
  have each : ∀ realm ∈ overlayRealms [] entries,
      ((fun name => entries.reverse.find? (·.name = name)) ∘ Realm.name) realm = some realm :=
    fun realm mem => last_of_mem_overlayRealms mem
  rw [List.filterMap_congr each, List.filterMap_some]

theorem nodup_names_lastOfEach (entries : List Realm) :
    ((lastOfEach entries).map Realm.name).Nodup := by
  rw [← overlayRealms_nil]
  exact nodup_names_overlayRealms entries

/-- Realms of distinct names do not drive each other out. -/
theorem lastOfEach_eq_self_iff {realms : List Realm} :
    lastOfEach realms = realms ↔ (realms.map Realm.name).Nodup := by
  constructor
  · intro same
    rw [← same]
    exact nodup_names_lastOfEach realms
  · rw [← overlayRealms_nil]
    intro distinct
    induction realms using List.reverseRecOn with
    | nil => rfl
    | append_singleton realms realm ih =>
      rw [List.map_append, List.map_singleton, List.nodup_append] at distinct
      obtain ⟨before, -, apart⟩ := distinct
      have new : realm.name ∉ realms.map Realm.name := fun mem =>
        apart _ mem _ (List.mem_singleton_self _) rfl
      rw [overlayRealms_append_singleton, ih before, placeRealm_of_new new]

theorem overlay_eq_alone (layer : Layer) :
    overlay {} layer = { layer.alone with realms := lastOfEach layer.realms } := by
  rw [← overlayRealms_nil]
  rfl

theorem alone_toLayer (config : Config) : config.toLayer.alone = config := rfl

theorem overlay_toLayer (config : Config) :
    overlay {} config.toLayer = { config with realms := lastOfEach config.realms } := by
  rw [overlay_eq_alone, alone_toLayer]
  rfl

theorem with_lastOfEach_eq_self_iff {config : Config} :
    { config with realms := lastOfEach config.realms } = config ↔
      (config.realms.map Realm.name).Nodup := by
  rw [← lastOfEach_eq_self_iff]
  constructor
  · exact congrArg Config.realms
  · intro same
    rw [same]

/-- A text is a configuration if and only if it is a layer. The layer laid over the default has the
settings of the configuration and the last realm of each name, and so it is the configuration if no
name is repeated; and every configuration comes back from the layer that writes all of it on the
same terms. -/
theorem reads_as_layer :
    (∀ text, (ofToml? text = none ∧ Layer.ofToml? text = none) ∨
      ∃ config layer, ofToml? text = some config ∧ Layer.ofToml? text = some layer ∧
        overlay {} layer = { config with realms := lastOfEach config.realms } ∧
        (overlay {} layer = config ↔ (config.realms.map Realm.name).Nodup)) ∧
    ∀ config : Config,
      overlay {} config.toLayer = { config with realms := lastOfEach config.realms } ∧
      (overlay {} config.toLayer = config ↔ (config.realms.map Realm.name).Nodup) := by
  refine ⟨fun text => ?_, fun config => ?_⟩
  · have direct := ofToml?_eq_alone text
    cases read : Layer.ofToml? text with
    | none => exact .inl ⟨by rw [direct, read]; rfl, rfl⟩
    | some layer =>
      have laid : overlay {} layer = { layer.alone with realms := lastOfEach layer.realms } :=
        overlay_eq_alone layer
      refine .inr ⟨layer.alone, layer, by rw [direct, read]; rfl, rfl, laid, ?_⟩
      rw [laid]
      exact with_lastOfEach_eq_self_iff
  · rw [overlay_toLayer]
    exact ⟨rfl, with_lastOfEach_eq_self_iff⟩

end Config

end Gatehouse
