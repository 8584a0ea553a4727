import Gatehouse.Proofs.Manager.Configured
import Gatehouse.Proofs.Scenario.Seclusion

/-!
# Decisions of a configured manager

A manager is made from a valid configuration on a site where scripts have been at work, and is used
there. At any time its answers can be told from the configuration alone.
-/

namespace Gatehouse

/-- Where nothing is placed and nothing has a name, no name leads astray. -/
theorem Secluded.empty : Secluded [] ({} : Site σ) where
  held := nofun
  stores := nofun
  realms := nofun
  authorizers := nofun
  managers := nofun

namespace Manager

/-- Whatever scripts were run before and whatever is done with the manager or beside it, the
manager of a valid configuration decides on permissions and roles by what is written there. -/
theorem decides_as_written (config : Config) (nonempty : config.realms ≠ [])
    (valid : config.validate = .ok ()) (depth : Nat) (before : List Step) :
    ∃ m s, (ofConfig config).run.run ((Scenario.runScript depth before).run {}).2 = (.ok m, s) ∧
      ∀ calls : List (Call (List Step)),
        let ended := (m.after (Scenario.runScript depth) calls).run s
        ∀ identity,
          (∀ items, ∃ verdicts, ended.1.Decides (Scenario.runScript depth) ended.2
            config.authz.defaultOperator config.Permits identity items verdicts) ∧
          ∀ roles, ∃ verdicts, ended.1.Decides (Scenario.runScript depth) ended.2
            config.authz.defaultOperator config.Assigns identity roles verdicts := by
  have alone : Apart [] := nofun
  have start := Scenario.keeps_runScript alone depth before {} .empty
  obtain ⟨m, s, places, made, written, placed, apart, asks, operator⟩ :=
    exists_ofConfig valid start alone
  refine ⟨m, s, made, fun calls => ?_⟩
  have keeping := Scenario.keeps_runScript apart depth
  obtain ⟨still, secluded⟩ := Configured.after keeping apart ⟨written, asks, operator⟩ placed calls
  intro ended identity
  refine ⟨fun items => ?_, fun roles => ?_⟩
  · refine still.decides keeping apart valid nonempty secluded ?_ identity items
    intro identity p
    simp only [Config.Permits, Config.Lists, Written.grants, Account.implies_iff]
  · refine still.decides keeping apart valid nonempty secluded ?_ identity roles
    intro identity role
    simp only [Config.Assigns, Config.Lists, Written.grants, decide_eq_true_eq]

/-- An account has its role, and no other, and may do what it is permitted, after a refused check, an
eviction and a change of bus. Under `any` one role is enough to pass, although not everything is
granted. -/
theorem decides_as_written_of_editor :
    let alice : Identity := ⟨[⟨"primary", "alice"⟩]⟩
    let editor := Account.ofLists ["editor"] ["doc:read"]
    let config : Config :=
      { authz := { defaultOperator := .any }
        realms := [{ name := "primary", accounts := SortedMap.empty.insert "alice" editor }] }
    let read := Permission.ofTokens "doc" "read" "report"
    let run := Scenario.runScript 3
    let calls := [.roles .check alice ["viewer"], .notify .authenticated alice, .setBus 7]
    config.realms ≠ [] ∧ config.validate = .ok () ∧
      ∃ m s, (ofConfig config).run.run ((run []).run {}).2 = (.ok m, s) ∧
        let ended := (m.after run calls).run s
        ((ended.1.verdicts run alice ["editor", "viewer"]).run.run ended.2).1 =
          .ok [("editor", true), ("viewer", false)] ∧
        ((ended.1.grantsAll run alice ["editor", "viewer"]).run.run ended.2).1 = .ok false ∧
        ((ended.1.check run alice ["editor", "viewer"]).run.run ended.2).1 = .ok () ∧
        ((ended.1.check run alice ["viewer"]).run.run ended.2).1 =
          .error (.unauthorized ⟨alice, .role, ["viewer"], .any⟩) ∧
        ((ended.1.check run alice [read]).run.run ended.2).1 = .ok () := by
  intro alice editor config read run calls
  have valid : config.validate = .ok () := by decide +kernel
  obtain ⟨m, s, made, decides⟩ := decides_as_written config (by simp [config]) valid 3 []
  refine ⟨by simp [config], valid, m, s, made, ?_⟩
  intro ended
  have assigns (role : String) : decide (role ∈ editor.roles) ↔ config.Assigns alice role := by
    simp [config, alice, Config.Assigns, Config.Lists, Identity.primary?, SortedMap.find?_insert]
  have permits (p : Permission) : editor.implies p ↔ config.Permits alice p := by
    simp [config, alice, Config.Permits, Config.Lists, Identity.primary?, SortedMap.find?_insert,
      Account.implies_iff]
  obtain ⟨both, decided⟩ := (decides calls alice).2 ["editor", "viewer"]
  obtain ⟨one, refused⟩ := (decides calls alice).2 ["viewer"]
  obtain rfl : both = [("editor", true), ("viewer", false)] :=
    (decided.eq_map assigns).trans (by decide +kernel)
  obtain rfl : one = [("viewer", false)] :=
    (refused.eq_map assigns).trans (by decide +kernel)
  obtain ⟨all, told, asked⟩ := decided.grantsAll_eq
  have lacking : all = false := by simpa using told
  obtain ⟨permitted, passed⟩ := (decides calls alice).1 [read]
  obtain rfl : permitted = [(read, true)] := (passed.eq_map permits).trans (by decide +kernel)
  refine ⟨decided.verdicts_eq, lacking ▸ asked, ?_, ?_, ?_⟩
  · exact decided.passes ⟨("editor", true), by simp, rfl⟩
  · refine refused.denies ?_
    rintro ⟨verdict, mem, granted⟩
    rw [List.mem_singleton.1 mem] at granted
    contradiction
  · exact passed.passes ⟨(read, true), by simp, rfl⟩

end Manager

end Gatehouse
