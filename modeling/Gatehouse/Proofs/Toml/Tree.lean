import Gatehouse.Toml.Statement

/-!
# Changes at the end of a table

A document that is written in order only ever changes what came last: the last entry of a table and
the last row of a list of tables. So a change below a header is one of that entry or row alone
(`changeAt_table`, `changeAt_rows`), and a new key goes to the end.
-/

namespace Gatehouse.Toml

open Document

namespace Entries

variable {key other : String} {path : List String} {entries sub : Entries} {node : Node}
  {change : Change} {rows : List Entries} {row : Entries} {origin : Origin}

/-- The table has no such key. -/
def Lacks (entries : Entries) (key : String) : Prop := ∀ entry ∈ entries, entry.1 ≠ key

theorem Lacks.find? (h : Lacks entries key) : find? entries key = none := by
  have : List.find? (·.1 = key) entries = none := List.find?_eq_none.2 (by simpa [Lacks] using h)
  simp [Entries.find?, this]

/-- What comes first of keys that are all different has none of the others. -/
theorem lacks_of_nodup {keys : List String}
    (distinct : (entries.map Prod.fst ++ key :: keys).Nodup) : Lacks entries key := by
  intro entry mem same
  have listed : key ∈ entries.map Prod.fst := same ▸ List.mem_map_of_mem mem
  exact (List.nodup_append.1 distinct).2.2 key listed key List.mem_cons_self rfl

theorem Lacks.append_singleton (h : Lacks entries key) (apart : other ≠ key) (node : Node) :
    Lacks (entries ++ [(other, node)]) key := by
  simp [Lacks] at h ⊢
  grind

theorem find?_append_of_lacks (h : Lacks entries key) :
    find? (entries ++ [(key, node)]) key = some node := by
  have : List.find? (·.1 = key) entries = none := List.find?_eq_none.2 (by simpa [Lacks] using h)
  simp [find?, List.find?_append, this]

theorem put_of_lacks (h : Lacks entries key) : put key node entries = entries ++ [(key, node)] := by
  induction entries with
  | nil => rfl
  | cons entry entries ih =>
    obtain ⟨first, others⟩ := List.forall_mem_cons.1 h
    simp [put, first, ih others]

theorem put_append_of_lacks {old : Node} (h : Lacks entries key) :
    put key node (entries ++ [(key, old)]) = entries ++ [(key, node)] := by
  induction entries with
  | nil => simp [put]
  | cons entry entries ih =>
    obtain ⟨first, others⟩ := List.forall_mem_cons.1 h
    simp [put, first, ih others]

/-! ## Changes below a header -/

theorem changeAt_new (h : Lacks entries key) :
    changeAt (key :: path) change entries =
      (changeAt path change []).map fun sub => entries ++ [(key, .table .implied sub)] := by
  simp only [changeAt, h.find?, put_of_lacks h]
  cases changeAt path change [] <;> rfl

theorem changeAt_table (h : Lacks entries key) :
    changeAt (key :: path) change (entries ++ [(key, .table origin sub)]) =
      (changeAt path change sub).map fun sub => entries ++ [(key, .table origin sub)] := by
  simp only [changeAt, find?_append_of_lacks h, put_append_of_lacks h]
  cases changeAt path change sub <;> rfl

theorem changeLast_append :
    changeLast change (rows ++ [row]) = (change row).map fun row => rows ++ [row] := by
  simp only [changeLast, List.getLast?_append, List.getLast?_singleton, List.dropLast_concat]
  cases changed : change row <;> simp [changed]

theorem changeAt_rows (h : Lacks entries key) :
    changeAt (key :: path) change (entries ++ [(key, .tables (rows ++ [row]))]) =
      (changeAt path change row).map fun row => entries ++ [(key, .tables (rows ++ [row]))] := by
  simp only [changeAt, find?_append_of_lacks h, put_append_of_lacks h, changeLast_append]
  cases changeAt path change row <;> rfl

theorem openTable_of_lacks (h : Lacks entries key) :
    openTable key entries = some (entries ++ [(key, .table .headed [])]) := by
  simp [openTable, h.find?, put_of_lacks h]

theorem assign_of_lacks (h : Lacks entries key) (v : Value) :
    assign [key] v entries = some (entries ++ [(key, .value v)]) := by
  simp [assign, add, h.find?]

/-- The entry of a list of tables, which is there once it has a row. -/
def ofRows (key : String) (rows : List Entries) : Entries :=
  if rows.isEmpty then [] else [(key, .tables rows)]

theorem openRow_ofRows (h : Lacks entries key) :
    openRow key (entries ++ ofRows key rows) =
      some (entries ++ [(key, .tables (rows ++ [[]]))]) := by
  cases rows with
  | nil => simp [ofRows, openRow, h.find?, put_of_lacks h]
  | cons row rows => simp [ofRows, openRow, find?_append_of_lacks h, put_append_of_lacks h]

/-- A header without effect of its own: a table that is not there is implied by a header below it.
-/
theorem changeAt_implied (h : Lacks entries key) :
    changeAt (key :: path) change (entries ++ [(key, .table .implied [])]) =
      changeAt (key :: path) change entries := by
  rw [changeAt_table h, changeAt_new h]

/-- The place that a path leads to in a table, where `fill` puts its entries. -/
def Leads (path : List String) (fill : Entries → Entries) : Prop :=
  ∀ (more : List String) (change : Change) (sub : Entries),
    changeAt (path ++ more) change (fill sub) = (changeAt more change sub).map fill

theorem leads_nil : Leads [] id := fun more change sub => by simp

theorem Leads.below_table {fill : Entries → Entries} (h : Leads path fill)
    (lacks : Lacks entries key) (origin : Origin) :
    Leads (path ++ [key]) fun sub => fill (entries ++ [(key, .table origin sub)]) := by
  intro more change sub
  rw [List.append_assoc, h, List.singleton_append, changeAt_table lacks, Option.map_map]
  rfl

theorem Leads.below_rows {fill : Entries → Entries} (h : Leads path fill)
    (lacks : Lacks entries key) (rows : List Entries) :
    Leads (path ++ [key]) fun row => fill (entries ++ [(key, .tables (rows ++ [row]))]) := by
  intro more change sub
  rw [List.append_assoc, h, List.singleton_append, changeAt_rows lacks, Option.map_map]
  rfl

theorem Leads.changeAt {fill : Entries → Entries} (h : Leads path fill) (change : Change)
    (sub : Entries) : Entries.changeAt path change (fill sub) = (change sub).map fill := by
  have := h [] change sub
  rwa [List.append_nil] at this

end Entries

/-! ## Sections -/

/-- The entries of a table that holds values only. -/
def Entries.ofFields (l : Fields) : Entries := l.map fun field => (field.1, .value field.2)

/-- The settings that make these entries. -/
def Statement.settings (l : Fields) : List Statement :=
  l.map fun field => .assign [field.1] field.2

namespace Draft

variable {draft : Draft} {path : List String} {key : String} {sub : Entries}
  {fill : Entries → Entries}

theorem obey_table (dir : List String) (key : String) :
    draft.obey (.table (dir ++ [key])) =
      (Entries.changeAt dir (Entries.openTable key) draft.entries).map fun entries =>
        ⟨entries, dir ++ [key]⟩ := by
  simp only [obey, openAt, List.getLast?_append, List.getLast?_singleton, List.dropLast_concat]
  cases changed : Entries.changeAt dir (Entries.openTable key) draft.entries <;> simp [changed]

theorem foldlM_append_of_eq {last : Draft} {first rest : List Statement}
    (h : first.foldlM obey draft = some last) :
    (first ++ rest).foldlM obey draft = rest.foldlM obey last := by
  rw [List.foldlM_append, h]
  rfl

/-- Settings with new keys are added in order. -/
theorem foldlM_settings (h : Entries.Leads path fill) (sub : Entries) {l : Fields}
    (distinct : (sub.map Prod.fst ++ l.map Prod.fst).Nodup) :
    (Statement.settings l).foldlM obey ⟨fill sub, path⟩ =
      some ⟨fill (sub ++ Entries.ofFields l), path⟩ := by
  induction l generalizing sub with
  | nil => simp [Statement.settings, Entries.ofFields]
  | cons field l ih =>
    have lacks : sub.Lacks field.1 := Entries.lacks_of_nodup distinct
    have step : obey ⟨fill sub, path⟩ (.assign [field.1] field.2) =
        some ⟨fill (sub ++ [(field.1, .value field.2)]), path⟩ := by
      simp [obey, h.changeAt, Entries.assign_of_lacks lacks]
    have more := ih (sub ++ [(field.1, .value field.2)]) (by simpa using distinct)
    simp only [Statement.settings, Entries.ofFields, List.map_cons, List.foldlM_cons,
      step] at more ⊢
    simpa using more

/-- A header with its settings adds a table at the end. -/
theorem foldlM_section (h : Entries.Leads path fill) (lacks : sub.Lacks key) {l : Fields}
    (distinct : (l.map Prod.fst).Nodup) (place : List String) :
    (.table (path ++ [key]) :: Statement.settings l).foldlM obey ⟨fill sub, place⟩ =
      some ⟨fill (sub ++ [(key, .table .headed (Entries.ofFields l))]), path ++ [key]⟩ := by
  have opened : obey ⟨fill sub, place⟩ (.table (path ++ [key])) =
      some ⟨fill (sub ++ [(key, .table .headed [])]), path ++ [key]⟩ := by
    simp [obey_table, h.changeAt, Entries.openTable_of_lacks lacks]
  have filled := foldlM_settings (h.below_table lacks .headed) [] (by simpa using distinct)
  rw [List.foldlM_cons, opened]
  exact filled

/-- A header implies the table above it, where that is not there. -/
theorem obey_table_of_lacks (h : Entries.Leads path fill) (lacks : sub.Lacks key) (below : String)
    (place : List String) :
    obey ⟨fill sub, place⟩ (.table (path ++ [key] ++ [below])) =
      obey ⟨fill (sub ++ [(key, .table .implied [])]), place⟩
        (.table (path ++ [key] ++ [below])) := by
  rw [obey_table, obey_table, h, h, Entries.changeAt_implied lacks]

end Draft

/-! ## Values -/

theorem entriesToFields_eq (entries : Entries) :
    entriesToFields entries = entries.map fun entry => (entry.1, entry.2.toValue) := by
  induction entries with
  | nil => simp [entriesToFields]
  | cons entry entries ih => simp [entriesToFields, ih]

theorem Entries.toValue_eq (entries : Entries) :
    entries.toValue = .record (entries.map fun entry => (entry.1, entry.2.toValue)) := by
  rw [toValue, entriesToFields_eq]

theorem rowsToValues_eq (rows : List Entries) : rowsToValues rows = rows.map Entries.toValue := by
  induction rows with
  | nil => simp [rowsToValues]
  | cons row rows ih => simp [rowsToValues, Entries.toValue, ih]

theorem toValue_value (v : Value) : (Node.value v).toValue = v := by rw [Node.toValue]

theorem toValue_table (origin : Origin) (entries : Entries) :
    (Node.table origin entries).toValue = entries.toValue := by rw [Node.toValue, Entries.toValue]

theorem toValue_tables (rows : List Entries) :
    (Node.tables rows).toValue = .list (rows.map Entries.toValue) := by
  rw [Node.toValue, rowsToValues_eq]

theorem toValue_ofFields (l : Fields) : (Entries.ofFields l).toValue = .record l := by
  simp [Entries.toValue_eq, Entries.ofFields, toValue_value, Function.comp_def]

end Gatehouse.Toml
