import Gatehouse.Config

/-!
# Layers

A layer is a configuration of which only some settings are written. Laid over a configuration, each
setting that is written wins, even where it repeats the default; a realm takes the place of the one
with its name, and a realm with a new name comes last.
-/

namespace Gatehouse.Config

namespace Layer

structure Authz where
  defaultOperator? : Option Operator := none
  logResults? : Option Bool := none
  deriving DecidableEq, Inhabited

structure Logging where
  level? : Option String := none
  ansi? : Option Bool := none
  deriving DecidableEq, Inhabited

end Layer

structure Layer where
  authz : Layer.Authz := {}
  logging : Layer.Logging := {}
  realms : List Realm := []
  deriving DecidableEq, Inhabited

/-- The layer that writes every setting of a configuration. -/
def toLayer (config : Config) : Layer where
  authz :=
    { defaultOperator? := some config.authz.defaultOperator
      logResults? := some config.authz.logResults }
  logging :=
    { level? := some config.logging.level
      ansi? := some config.logging.ansi }
  realms := config.realms

def Authz.overlay (settings : Authz) (layer : Layer.Authz) : Authz where
  defaultOperator := layer.defaultOperator?.getD settings.defaultOperator
  logResults := layer.logResults?.getD settings.logResults

def Logging.overlay (settings : Logging) (layer : Layer.Logging) : Logging where
  level := layer.level?.getD settings.level
  ansi := layer.ansi?.getD settings.ansi

/-- Puts a realm in the place of the first one with its name, or at the end. -/
def placeRealm (realm : Realm) : List Realm → List Realm
  | [] => [realm]
  | r :: realms => if r.name = realm.name then realm :: realms else r :: placeRealm realm realms

def overlayRealms (realms added : List Realm) : List Realm :=
  added.foldl (fun realms realm => placeRealm realm realms) realms

/-- Lays a layer over a configuration. -/
def overlay (config : Config) (layer : Layer) : Config where
  authz := config.authz.overlay layer.authz
  logging := config.logging.overlay layer.logging
  realms := overlayRealms config.realms layer.realms

theorem placeRealm_of_new {realm : Realm} {realms : List Realm}
    (new : realm.name ∉ realms.map Realm.name) : placeRealm realm realms = realms ++ [realm] := by
  induction realms with
  | nil => rfl
  | cons r realms ih =>
    obtain ⟨first, rest⟩ := not_or.1 (mt List.mem_cons.2 new)
    simp [placeRealm, Ne.symm first, ih rest]

/-- A realm that takes the place of another keeps the names and their order. -/
theorem names_placeRealm {realm : Realm} {realms : List Realm}
    (old : realm.name ∈ realms.map Realm.name) :
    (placeRealm realm realms).map Realm.name = realms.map Realm.name := by
  induction realms with
  | nil => simp at old
  | cons r realms ih =>
    simp only [placeRealm]
    split
    next same => simp [same]
    next other =>
      have : realm.name ∈ realms.map Realm.name := by
        rcases List.mem_cons.1 old with h | h
        · exact absurd h.symm other
        · exact h
      simp [ih this]

end Gatehouse.Config
