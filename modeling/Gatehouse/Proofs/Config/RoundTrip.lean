import Gatehouse.Config.Toml
import Gatehouse.Proofs.Document.Reading
import Gatehouse.Proofs.Toml.Line
import Gatehouse.Proofs.Toml.Tree

/-!
# Configurations are read as they are written

A configuration that is written in TOML and read again is the same, whatever its texts are
(`Config.ofToml?_toToml`). The document says what the configuration is as a value
(`Config.parse?_toToml`), and reading a value is the inverse of making it (`ofValue?_toValue`).
-/

namespace Gatehouse

open Document Toml

/-! ## Values -/

namespace SortedMap

variable {κ ν : Type} [Ord κ] [Std.TransOrd κ] [Std.LawfulEqOrd κ] [DecidableEq κ]

omit [Std.TransOrd κ] [DecidableEq κ] in
theorem nodup_keys (m : SortedMap κ ν) : m.keys.Nodup := by
  refine List.pairwise_map.2 (m.ascending.imp ?_)
  intro a b lt same
  simp [same] at lt

theorem find?_foldl_insert {l : List (κ × ν)} (distinct : (l.map Prod.fst).Nodup)
    {m : SortedMap κ ν} {k : κ} :
    (l.foldl (fun m e => m.insert e.1 e.2) m).find? k =
      ((l.find? (·.1 = k)).map Prod.snd).or (m.find? k) := by
  induction l generalizing m with
  | nil => rfl
  | cons e l ih =>
    obtain ⟨fresh, distinct⟩ := List.nodup_cons.1 distinct
    rw [List.foldl_cons, ih distinct, find?_insert, List.find?_cons]
    by_cases same : e.1 = k
    · have absent : l.find? (·.1 = k) = none := by
        simp only [List.find?_eq_none, decide_eq_true_eq]
        rintro other mem rfl
        exact fresh (same ▸ List.mem_map_of_mem mem)
      simp [same, absent]
    · simp [same, Ne.symm same]

/-- A map is made again of its entries. -/
theorem ofList_toList (m : SortedMap κ ν) : ofList m.toList = m :=
  ext fun _ => (find?_foldl_insert m.nodup_keys).trans (Option.or_none)

end SortedMap

theorem SortedSet.ofList_toList {α : Type} [Ord α] [Std.TransOrd α] [Std.LawfulEqOrd α]
    (s : SortedSet α) : SortedSet.ofList s.toList = s :=
  SortedSet.ext fun _ => SortedSet.mem_ofList

namespace Document.Value

variable {α : Type} {d : Dialect}

theorem listOf?_list {read : Value → Option α} {write : α → Value}
    (inverse : ∀ a, read (write a) = some a) (l : List α) :
    listOf? read (.list (l.map write)) = some l := by
  refine listOf?_eq_some_iff.2 ⟨l.map write, rfl, ?_⟩
  exact List.forall₂_map_left_iff.2 (List.forall₂_same.2 fun a _ => inverse a)

theorem recordOf?_record {read : Value → Option α} {write : α → Value}
    (inverse : ∀ a, read (write a) = some a) (l : List (String × α)) :
    recordOf? read (.record (l.map fun entry => (entry.1, write entry.2))) = some l := by
  refine mapM_eq_some_iff.2 (List.forall₂_map_left_iff.2 (List.forall₂_same.2 fun entry _ => ?_))
  rw [inverse, Option.map_some]

theorem listOf?_texts (l : List String) : listOf? text? (.texts l) = some l :=
  listOf?_list (fun _ => rfl : ∀ s, text? (.text s) = some s) l

end Document.Value

/-! ## Configurations as values -/

variable (d : Dialect)

theorem Operator.ofValue?_toValue (op : Operator) : Operator.ofValue? d op.toValue = some op :=
  op.ofName?_name

theorem Account.ofValue?_toValue (a : Account) : Account.ofValue? d a.toValue = some a := by
  have roles := Value.listOf?_texts a.roles.toList
  have permissions := Value.listOf?_texts a.permissions
  simp [Account.ofValue?, Account.toValue, Value.members?, Members.optional, Members.get?, roles,
    permissions, Account.ofLists, SortedSet.ofList_toList]

namespace Config

theorem Authz.ofValue?_toValue (settings : Authz) :
    Authz.ofValue? d settings.toValue = some settings := by
  have operator := Operator.ofValue?_toValue d settings.defaultOperator
  simp [Authz.ofValue?, Authz.toValue, Value.members?, Members.optional, Members.get?, operator,
    Value.bool?]

theorem Logging.ofValue?_toValue (settings : Logging) :
    Logging.ofValue? d settings.toValue = some settings := by
  simp [Logging.ofValue?, Logging.toValue, Value.members?, Members.optional, Members.get?,
    Value.bool?, Value.text?]

theorem Realm.ofValue?_toValue (realm : Realm) : Realm.ofValue? d realm.toValue = some realm := by
  have accounts := Value.recordOf?_record (Account.ofValue?_toValue d) realm.accounts.toList
  simp [Realm.ofValue?, Realm.toValue, Value.members?, Members.optional, Members.required,
    Members.get?, Value.text?, accounts, SortedMap.ofList_toList]

/-- Reading a value is the inverse of making it, in whichever order its members stand. -/
theorem ofValue?_of_members {config : Config} {fields : Fields}
    (authz : fields.find? (·.1 = "authz") = some ("authz", config.authz.toValue))
    (logging : fields.find? (·.1 = "logging") = some ("logging", config.logging.toValue))
    (realms : fields.find? (·.1 = "realms") =
      some ("realms", .list (config.realms.map Realm.toValue))) :
    ofValue? d (.record fields) = some config := by
  have each := Value.listOf?_list (Realm.ofValue?_toValue d) config.realms
  simp [ofValue?, Value.members?, Members.optional, Members.get?, authz, logging, realms,
    Authz.ofValue?_toValue, Logging.ofValue?_toValue, each]

/-! ## Documents -/

/-- What is written of an account. -/
def accountFields (account : Account) : Fields :=
  [("roles", .texts account.roles.toList), ("permissions", .texts account.permissions)]

/-- The table of an account. -/
def accountEntry (entry : String × Account) : String × Node :=
  (entry.1, .table .headed (Entries.ofFields (accountFields entry.2)))

def accountStatements (path : List String) (entry : String × Account) : List Statement :=
  .table (path ++ [entry.1]) :: Statement.settings (accountFields entry.2)

/-- The row of a realm. -/
def Realm.toRow (realm : Realm) : Entries :=
  [("name", .value (.text realm.name)),
    ("accounts", .table (if realm.accounts.isEmpty then .headed else .implied)
      (realm.accounts.toList.map accountEntry))]

variable {path : List String} {sub base : Entries} {fill : Entries → Entries}

/-- Accounts with new identifiers are added in order. -/
theorem foldlM_accounts (h : Entries.Leads path fill) (sub : Entries) (place : List String)
    (accounts : List (String × Account))
    (distinct : (sub.map Prod.fst ++ accounts.map Prod.fst).Nodup) :
    ∃ last, (accounts.flatMap (accountStatements path)).foldlM Draft.obey ⟨fill sub, place⟩ =
      some ⟨fill (sub ++ accounts.map accountEntry), last⟩ := by
  induction accounts generalizing sub place with
  | nil => exact ⟨place, by simp⟩
  | cons entry accounts ih =>
    have lacks : sub.Lacks entry.1 := Entries.lacks_of_nodup distinct
    have first := Draft.foldlM_section h lacks (l := accountFields entry.2)
      (by simp [accountFields]) place
    obtain ⟨last, more⟩ := ih (sub ++ [accountEntry entry]) (path ++ [entry.1])
      (by simpa [accountEntry] using distinct)
    refine ⟨last, ?_⟩
    rw [List.flatMap_cons, accountStatements, Draft.foldlM_append_of_eq first]
    simpa [accountEntry] using more

theorem Realm.map_accountLines (realm : Realm) :
    realm.accountLines.map Line.toStatement =
      if realm.accounts.isEmpty then [.table ["realms", "accounts"]]
      else realm.accounts.toList.flatMap (accountStatements ["realms", "accounts"]) := by
  rw [accountLines]
  split
  · rfl
  · rw [List.map_flatMap]
    rfl

/-- What the accounts of a realm add to its row. -/
theorem foldlM_accountLines (h : Entries.Leads ["realms"] fill) (realm : Realm)
    (place : List String) (lacks : sub.Lacks "accounts") :
    ∃ last, (realm.accountLines.map Line.toStatement).foldlM Draft.obey ⟨fill sub, place⟩ =
      some ⟨fill (sub ++ [("accounts", .table (if realm.accounts.isEmpty then .headed else .implied)
        (realm.accounts.toList.map accountEntry))]), last⟩ := by
  rw [realm.map_accountLines]
  cases listed : realm.accounts.toList with
  | nil =>
    have empty : realm.accounts.isEmpty := by simp [SortedMap.isEmpty, listed]
    have opened := Draft.foldlM_section h lacks (l := []) (by simp) place
    exact ⟨["realms", "accounts"], by
      simpa [empty, Statement.settings, Entries.ofFields] using opened⟩
  | cons entry accounts =>
    have some : realm.accounts.isEmpty = false := by simp [SortedMap.isEmpty, listed]
    have distinct : ((entry :: accounts).map Prod.fst).Nodup := listed ▸ realm.accounts.nodup_keys
    obtain ⟨last, added⟩ := foldlM_accounts (h.below_table lacks .implied) [] place
      (entry :: accounts) (by simpa using distinct)
    refine ⟨last, ?_⟩
    rw [some]
    rw [List.flatMap_cons, accountStatements, List.cons_append, List.foldlM_cons] at added
    simp only [Bool.false_eq_true, if_false]
    rw [List.flatMap_cons, accountStatements, List.cons_append, List.foldlM_cons]
    -- the header of the first account implies the table in which all of them stand
    rw [show ["realms", "accounts"] = ["realms"] ++ ["accounts"] from rfl,
      Draft.obey_table_of_lacks h lacks]
    exact added

/-- The lines of a realm add its row. -/
theorem foldlM_realm (lacks : base.Lacks "realms") (rows : List Entries) (place : List String)
    (realm : Realm) :
    ∃ last, (realm.lines.map Line.toStatement).foldlM Draft.obey
        ⟨base ++ Entries.ofRows "realms" rows, place⟩ =
      some ⟨base ++ Entries.ofRows "realms" (rows ++ [realm.toRow]), last⟩ := by
  let fill (row : Entries) : Entries := base ++ [("realms", .tables (rows ++ [row]))]
  have leads : Entries.Leads ["realms"] fill := Entries.leads_nil.below_rows lacks rows
  have begun : Draft.obey ⟨base ++ Entries.ofRows "realms" rows, place⟩ (.row ["realms"]) =
      some ⟨fill [], ["realms"]⟩ := by
    simp [Draft.obey, Draft.openAt, Entries.changeAt, Entries.openRow_ofRows lacks, fill]
  have named := Draft.foldlM_settings leads [] (l := [("name", .text realm.name)]) (by simp)
  have lacks : (Entries.ofFields [("name", .text realm.name)]).Lacks "accounts" := by
    simp [Entries.Lacks, Entries.ofFields]
  obtain ⟨last, added⟩ := foldlM_accountLines leads realm ["realms"] lacks
  refine ⟨last, ?_⟩
  have written : realm.lines.map Line.toStatement = .row ["realms"] ::
      (Statement.settings [("name", .text realm.name)] ++
        realm.accountLines.map Line.toStatement) := by
    simp [Realm.lines, Line.toStatement, Setting.toValue, Statement.settings]
  have filled : base ++ Entries.ofRows "realms" (rows ++ [realm.toRow]) = fill realm.toRow := by
    simp [Entries.ofRows, fill]
  rw [written, filled, List.foldlM_cons, begun]
  exact (Draft.foldlM_append_of_eq named).trans added

theorem foldlM_realms (lacks : base.Lacks "realms") (rows : List Entries) (place : List String)
    (realms : List Realm) :
    ∃ last, ((realms.flatMap Realm.lines).map Line.toStatement).foldlM Draft.obey
        ⟨base ++ Entries.ofRows "realms" rows, place⟩ =
      some ⟨base ++ Entries.ofRows "realms" (rows ++ realms.map Realm.toRow), last⟩ := by
  induction realms generalizing rows place with
  | nil => exact ⟨place, by simp⟩
  | cons realm realms ih =>
    obtain ⟨before, first⟩ := foldlM_realm lacks rows place realm
    obtain ⟨last, more⟩ := ih (rows ++ [realm.toRow]) before
    refine ⟨last, ?_⟩
    rw [List.flatMap_cons, List.map_append, Draft.foldlM_append_of_eq first]
    simpa using more

def authzFields (settings : Authz) : Fields :=
  [("default_operator", .text settings.defaultOperator.name),
    ("log_results", .bool settings.logResults)]

def loggingFields (settings : Logging) : Fields :=
  [("level", .text settings.level), ("ansi", .bool settings.ansi)]

/-- The empty list of realms is written before every table. -/
def emptyRealms (realms : List Realm) : Entries :=
  if realms.isEmpty then [("realms", .value (.texts []))] else []

/-- What is written of the settings. -/
def settingsEntries (config : Config) : Entries :=
  emptyRealms config.realms ++
    [("authz", .table .headed (Entries.ofFields (authzFields config.authz)))] ++
    [("logging", .table .headed (Entries.ofFields (loggingFields config.logging)))]

theorem lacks_emptyRealms {key : String} (other : key ≠ "realms") (realms : List Realm) :
    (emptyRealms realms).Lacks key := by
  unfold emptyRealms
  split <;> simp [Entries.Lacks, Ne.symm other]

theorem foldlM_lines (config : Config) :
    ∃ last, (config.lines.map Line.toStatement).foldlM Draft.obey {} =
      some ⟨config.settingsEntries ++ Entries.ofRows "realms" (config.realms.map Realm.toRow),
        last⟩ := by
  let first : List Line := if config.realms.isEmpty then [.setting "realms" (.texts [])] else []
  let empty := emptyRealms config.realms
  have opened : (first.map Line.toStatement).foldlM Draft.obey {} = some ⟨empty, []⟩ := by
    unfold first empty emptyRealms
    split
    · exact Draft.foldlM_settings Entries.leads_nil [] (l := [("realms", .texts [])]) (by simp)
    · rfl
  have noAuthz : empty.Lacks "authz" := lacks_emptyRealms (by decide) config.realms
  have authz := Draft.foldlM_section Entries.leads_nil noAuthz (l := authzFields config.authz)
    (by simp [authzFields]) []
  have noLogging : Entries.Lacks
      (empty ++ [("authz", .table .headed (Entries.ofFields (authzFields config.authz)))])
      "logging" :=
    (lacks_emptyRealms (by decide) config.realms).append_singleton (by decide) _
  have logging := Draft.foldlM_section Entries.leads_nil noLogging
    (l := loggingFields config.logging) (by simp [loggingFields]) ["authz"]
  have written : config.lines.map Line.toStatement = first.map Line.toStatement ++
      ((.table ["authz"] :: Statement.settings (authzFields config.authz)) ++
        ((.table ["logging"] :: Statement.settings (loggingFields config.logging)) ++
          (config.realms.flatMap Realm.lines).map Line.toStatement)) := by
    simp [lines, first, authzFields, loggingFields, Statement.settings, Line.toStatement,
      Setting.toValue]
  have settled : (config.lines.map Line.toStatement).foldlM Draft.obey {} =
      ((config.realms.flatMap Realm.lines).map Line.toStatement).foldlM Draft.obey
        ⟨config.settingsEntries, ["logging"]⟩ := by
    simp only [List.nil_append, id] at authz logging
    rw [written, Draft.foldlM_append_of_eq opened, Draft.foldlM_append_of_eq authz,
      Draft.foldlM_append_of_eq logging]
    rfl
  rw [settled]
  cases listed : config.realms with
  | nil => exact ⟨["logging"], by simp [Entries.ofRows]⟩
  | cons realm realms =>
    have lacks : config.settingsEntries.Lacks "realms" := by
      simp [settingsEntries, emptyRealms, listed, Entries.Lacks]
    obtain ⟨last, added⟩ :=
      foldlM_realms lacks [] ["logging"] (realm :: realms)
    exact ⟨last, by simpa [Entries.ofRows] using added⟩

theorem Realm.proper_lines (realm : Realm) : ∀ line ∈ realm.lines, line.Proper := by
  have accounts : ∀ line ∈ realm.accountLines, line.Proper := by
    unfold accountLines
    split
    · simp [Line.Proper, depthLimit]
    · intro line mem
      obtain ⟨entry, -, there⟩ := List.mem_flatMap.1 mem
      simp only [List.mem_cons, List.not_mem_nil, or_false] at there
      rcases there with rfl | rfl | rfl <;> simp [Line.Proper, depthLimit]
  simpa [lines, Line.Proper, depthLimit] using accounts

theorem proper_lines (config : Config) : ∀ line ∈ config.lines, line.Proper := by
  have realms : ∀ line ∈ config.realms.flatMap Realm.lines, line.Proper := by
    intro line mem
    obtain ⟨realm, -, there⟩ := List.mem_flatMap.1 mem
    exact realm.proper_lines line there
  unfold lines
  split <;> simpa [Line.Proper, depthLimit] using realms

theorem toValue_accountEntry (entry : String × Account) :
    (accountEntry entry).2.toValue = entry.2.toValue := by
  rw [accountEntry, toValue_table, toValue_ofFields]
  rfl

theorem Realm.toValue_toRow (realm : Realm) : realm.toRow.toValue = realm.toValue := by
  have accounts : Entries.toValue (realm.accounts.toList.map accountEntry) =
      .record (realm.accounts.toList.map fun entry => (entry.1, entry.2.toValue)) := by
    rw [Entries.toValue_eq, List.map_map]
    refine congrArg _ (List.map_congr_left fun entry _ => ?_)
    exact Prod.ext rfl (toValue_accountEntry entry)
  rw [Entries.toValue_eq, toRow]
  simp only [List.map_cons, List.map_nil, toValue_value, toValue_table, accounts]
  rfl

/-- The document says what the configuration is. -/
theorem parse?_toToml (config : Config) :
    Toml.parse? config.toToml = some (.record (
      (if config.realms.isEmpty then [("realms", .list [])] else []) ++
        [("authz", config.authz.toValue), ("logging", config.logging.toValue)] ++
        if config.realms.isEmpty then []
        else [("realms", .list (config.realms.map Realm.toValue))])) := by
  obtain ⟨last, meaning⟩ := config.foldlM_lines
  rw [toToml, parse?_writeLines config.proper_lines, Statement.meaning?, meaning]
  have rows : config.realms.map (Entries.toValue ∘ Realm.toRow) = config.realms.map Realm.toValue :=
    List.map_congr_left fun realm _ => realm.toValue_toRow
  simp only [Option.bind_eq_bind, Option.bind_some, Entries.toValue_eq, settingsEntries,
    emptyRealms, Entries.ofRows, List.isEmpty_map]
  split
  · simp only [List.map_append, List.map_cons, List.map_nil, toValue_value, toValue_table,
      toValue_ofFields]
    rfl
  · simp only [List.map_append, List.map_cons, List.map_nil, toValue_table, toValue_ofFields,
      toValue_tables, List.map_map, rows]
    rfl

/-- A configuration that is written and read again is the same. -/
theorem ofToml?_toToml (config : Config) : Config.ofToml? config.toToml = some config := by
  rw [ofToml?, parse?_toToml]
  refine ofValue?_of_members _ ?_ ?_ ?_
  all_goals
    cases config.realms <;> simp

end Config

end Gatehouse
