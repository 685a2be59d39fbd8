import CatalogGateway.Proofs.Catalog.ReadBack

/-!
# Columns of a layout through alterations

The layout of a table refers to columns by their names.  No change of a request touches the
layout, and a step that takes away the name of a column looks at the layout of the table as it is
at that step.  So a layout whose columns are all there stays so, whatever else is altered.
-/

namespace CatalogGateway

open MetadataStore Alteration

namespace TableDefinition

variable {table : TableDefinition} {name : String}

/-- All columns that the layout refers to are columns of the table. -/
def Covers (table : TableDefinition) : Prop :=
  ∀ column ∈ table.layout.columns, column ∈ table.columnNames

instance : Decidable table.Covers :=
  inferInstanceAs (Decidable (∀ column ∈ table.layout.columns, column ∈ table.columnNames))

/-- A layout has three parts, each of which refers to columns on its own. -/
theorem covers_iff : table.Covers ↔
    (∀ transform ∈ table.layout.partitioning,
      ∀ column ∈ transform.columns, column ∈ table.columnNames) ∧
    (∀ order ∈ table.layout.sortOrders, order.column ∈ table.columnNames) ∧
    ∀ distribution, table.layout.distribution = some distribution →
      ∀ column ∈ distribution.columns, column ∈ table.columnNames := by
  simp only [Covers, Layout.mem_columns_iff]
  constructor
  · intro covers
    exact ⟨fun transform given column member => covers column (.inl ⟨transform, given, member⟩),
      fun order given => covers order.column (.inr (.inl ⟨order, given, rfl⟩)),
      fun distribution given column member =>
        covers column (.inr (.inr ⟨distribution, given, member⟩))⟩
  · rintro ⟨partitioning, sorting, spread⟩ column referred
    rcases referred with ⟨transform, given, member⟩ | ⟨order, given, rfl⟩ |
      ⟨distribution, given, member⟩
    · exact partitioning transform given column member
    · exact sorting order given
    · exact spread distribution given column member

theorem layout_changed (provider : Provider) (table : TableDefinition) (change : TableChange) :
    (table.changed provider change).layout = table.layout := by
  unfold changed
  split <;> rfl

theorem map_name_numbered (columns : List ColumnDefinition) :
    (ColumnDefinition.numbered columns).map ColumnDefinition.name =
      columns.map ColumnDefinition.name := by
  apply List.ext_getElem?
  intro ordinal
  simp [ColumnDefinition.numbered, Option.map_map, Function.comp_def]

theorem columnNames_mapColumn {change : ColumnDefinition → ColumnDefinition}
    (keeps : ∀ column, (change column).name = column.name) :
    (table.mapColumn name change).columnNames = table.columnNames := by
  rw [columnNames, mapColumn, List.map_map]
  refine List.map_congr_left fun column _ => ?_
  simp only [Function.comp_apply]
  split
  · exact keeps column
  · rfl

/-- A change keeps the name of a column unless its step takes the name away. -/
theorem mem_columnNames_changed {provider : Provider} {change : TableChange} {step : Step}
    (planned : Planned provider change step) (member : name ∈ table.columnNames)
    (stays : step.displaced? ≠ some name) :
    name ∈ (table.changed provider change).columnNames := by
  obtain ⟨column, present, rfl⟩ := List.mem_map.mp member
  cases planned with
  | renameTable _ | updateComment _ | setProperty _ _ | removeProperty _ => exact member
  | addColumn _ =>
      simp only [columnNames, changed, map_name_numbered]
      exact List.mem_map_of_mem (List.subset_insertIdx _ _ _ present)
  | deleteColumn dropped _ =>
      rw [columnNames, changed, map_name_numbered]
      have different : column.name ≠ dropped := fun same => stays (congrArg some same.symm)
      exact List.mem_map_of_mem (List.mem_filter.mpr ⟨present, by simpa using different⟩)
  | renameColumn renamed _ =>
      have different : column.name ≠ renamed := fun same => stays (congrArg some same.symm)
      refine List.mem_map.mpr ⟨column, List.mem_map.mpr ⟨column, present, ?_⟩, rfl⟩
      rw [if_neg different]
  | updateColumnType _ | updateColumnComment _ _ =>
      rw [changed, columnNames_mapColumn]
      · exact member
      · exact fun _ => rfl

end TableDefinition

namespace Store.Holds

variable {store after : Store} {id : Nat} {table : MemoryTable} {provider : Provider}
  {name : TableName} {renamed : SchemaTable} {shown : TableDefinition}

/-- A step that succeeds takes away no name that the layout refers to. -/
theorem notMem_columns_of_perform {step : Step} {column : String} (holds : store.Holds id table)
    (parsed : provider.parseTable table.metadata = .ok shown)
    (performed : Alteration.perform provider store name table.name step = (.ok renamed, after))
    (displaced : step.displaced? = some column) : column ∉ shown.layout.columns := by
  obtain ⟨outside, _⟩ := holds.passes_of_perform performed
  simp only [requireOutsideLayout, displaced] at outside
  obtain ⟨stored, described, outside⟩ := Outcome.bind_eq_ok_iff.mp outside
  obtain ⟨current, read, outside⟩ := Outcome.bind_eq_ok_iff.mp outside
  -- What the step reads is the table as it is seen.
  obtain ⟨_, rfl⟩ := holds.tableMetadata_eq_ok_iff.mp (Outcome.mapError_eq_ok_iff.mp described)
  obtain rfl := Except.ok.inj (parsed.symm.trans read)
  split at outside
  · cases outside
  · assumption

theorem covers_of_perform {change : TableChange} {step : Step} (holds : store.Holds id table)
    (planned : Planned provider change step)
    (performed : Alteration.perform provider store name table.name step = (.ok renamed, after))
    (parsed : provider.parseTable table.metadata = .ok shown) (covers : shown.Covers) :
    ∃ next, provider.parseTable (step.applyTo table).metadata = .ok next ∧
      next.layout = shown.layout ∧ next.Covers := by
  have sameLayout := shown.layout_changed provider change
  refine ⟨_, parse_applyTo_upTo planned parsed, sameLayout, fun column member => ?_⟩
  have inLayout : column ∈ shown.layout.columns := sameLayout ▸ member
  exact TableDefinition.mem_columnNames_changed planned (covers column inLayout)
    fun displaced => holds.notMem_columns_of_perform parsed performed displaced inLayout

/-- Steps that succeed leave a table with its layout and with all columns that this refers to. -/
theorem covers_of_run {changes : List TableChange} {steps : List Step}
    (holds : store.Holds id table) (planned : List.Forall₂ (Planned provider) changes steps)
    (ran : Alteration.run provider store name table.name steps = (.ok renamed, after))
    (parsed : provider.parseTable table.metadata = .ok shown) (covers : shown.Covers) :
    ∃ last, provider.parseTable (steps.foldl Step.applyTo table).metadata = .ok last ∧
      last.layout = shown.layout ∧ last.Covers := by
  -- The table is followed to the place where the next step looks it up.
  induction planned generalizing store table shown with
  | nil => exact ⟨shown, parsed, rfl, covers⟩
  | @cons change step _ rest first _ ih =>
      obtain ⟨middle, between, performed, ran⟩ := run_cons_eq_ok_iff.mp ran
      obtain ⟨stillHolds, rfl, _⟩ := holds.perform performed
      obtain ⟨next, nextParsed, nextLayout, nextCovers⟩ :=
        holds.covers_of_perform first performed parsed covers
      obtain ⟨last, lastParsed, lastLayout, lastCovers⟩ := ih stillHolds ran nextParsed nextCovers
      exact ⟨last, lastParsed, lastLayout.trans nextLayout, lastCovers⟩

end Store.Holds

namespace Bridge

variable {bridge : Bridge} {name : QualifiedName} {before reply : TableDefinition}
  {store after : Store} {picture : MemoryStore}

/-- The table that an alteration finds is the one that a load reads. -/
theorem loadTable_eq_ok_iff_of_holds {parts : TableName} {id : Nat} {table : MemoryTable}
    (named : bridge.tableName name = .ok parts) (holds : store.Holds id table)
    (tableNamed : table.name = parts.schemaTable) :
    bridge.loadTable (.ok store) name = .ok before ↔
      (store.keepsTexts = true → table.Legible) ∧
        bridge.adapter.parseTable table.metadata = .ok before := by
  rw [loadTable_of_named named, ← tableNamed, holds.readTable_eq_ok_iff]

theorem covers_of_alterTable {changes : List TableChange} (shows : store.Shows picture)
    (loaded : bridge.loadTable (.ok store) name = .ok before) (covers : before.Covers)
    (altered : bridge.alterTable (.ok store) name changes = .ok (reply, after)) :
    reply.layout = before.layout ∧ reply.Covers := by
  obtain ⟨parts, id, table, named, holds, tableNamed⟩ := exists_holds shows altered
  obtain ⟨_, parsed⟩ := (loadTable_eq_ok_iff_of_holds named holds tableNamed).mp loaded
  obtain ⟨steps, planned, ran, _, parsedAfter⟩ :=
    (alterTable_eq_ok_iff_of_holds parts named holds tableNamed).mp altered
  obtain ⟨last, lastParsed, kept⟩ := holds.covers_of_run (planned_of_plan planned) ran parsed covers
  obtain rfl := Except.ok.inj (parsedAfter.symm.trans lastParsed)
  exact kept

end Bridge

namespace Binding

variable {binding next : Binding} {disk nextDisk : Disk} {name : QualifiedName}
  {before reply : TableDefinition}

theorem serve_loadTable_eq_ok_iff :
    binding.serve disk (.loadTable name) = (.ok (.table before), binding, disk) ↔
      binding.connector.shutdowns = 0 ∧
        binding.bridge.loadTable (.ok (binding.connector.committed disk)) name = .ok before := by
  constructor
  · intro served
    obtain ⟨_, answered, _⟩ := serve_eq_ok served
    obtain ⟨table, loaded, same⟩ := Outcome.map_eq_ok_iff.mp answered
    cases same
    exact ⟨isOpen_of_serve served, loaded⟩
  · rintro ⟨isOpen, loaded⟩
    exact serve_of_asked isOpen (by rw [Bridge.serve, loaded]; rfl)

/-- On every reachable store, an alteration that succeeds leaves a table that can be read, and
whose layout refers to columns of the table only, with the same layout and still with all of its
columns. -/
theorem serve_alterTable_covers {changes : List TableChange}
    (reachable : (binding.connector.committed disk).Reachable)
    (loaded : binding.serve disk (.loadTable name) = (.ok (.table before), binding, disk))
    (covers : before.Covers)
    (served : binding.serve disk (.alterTable name changes) =
      (.ok (.table reply), next, nextDisk)) :
    reply.layout = before.layout ∧ reply.Covers := by
  obtain ⟨picture, shows⟩ := reachable.exists_shows
  obtain ⟨_, loadedThere⟩ := serve_loadTable_eq_ok_iff.mp loaded
  obtain ⟨_, _, _, altered, ⟨rfl⟩, _⟩ := serve_alterTable_eq_ok_iff.mp served
  exact Bridge.covers_of_alterTable shows loadedThere covers altered

/-- A stored hive table that is partitioned by one column, and bucketed and sorted by another. -/
def arrangedEngineTable : EngineTable where
  name := "t"
  columns := [{ name := "id", type := .bigInt }, { name := "day", type := .date },
    { name := "note", type := .varchar none }]
  properties := .ofList [("format", .string "ORC"), ("partitioned_by", .array ["day"]),
    ("bucketed_by", .array ["id"]), ("bucket_count", .integer 8),
    ("sorted_by", .array ["id DESC"])]

/-- The table as callers see it. -/
def arrangedTable : TableDefinition where
  name := "t"
  columns := [{ name := "id", type := .long, position := .index 0 },
    { name := "day", type := .date, position := .index 1 },
    { name := "note", type := .string, position := .index 2 }]
  layout := {
    partitioning := [.identity "day"]
    sortOrders := [⟨"id", .descending, .nullsLast⟩]
    distribution := some ⟨.hash, 8, ["id"]⟩ }

/-- A hive catalog over a store in memory with that table. -/
def withArrangedTable : Binding where
  bridge := withTable.bridge
  connector := {
    name := "c"
    backend := .memory {
      connector := "c"
      schemas := Dictionary.empty.insert "s" .empty
      tables := [(1, .ofEngine "s" arrangedEngineTable)]
      lastTableId := 1 } }

theorem reachable_withArrangedTable : (withArrangedTable.connector.committed {}).Reachable :=
  .call (.createTable "s" arrangedEngineTable) (.call (.createSchema "s" .empty) (.memory "c" none))

/-- The table is renamed, gets a column and loses one, around the columns of its layout. -/
theorem withArrangedTable_covers :
    ∃ reply next,
      withArrangedTable.serve {} (.loadTable (.ofTable "m" "c" "s" "t")) =
        (.ok (.table arrangedTable), withArrangedTable, {}) ∧
      arrangedTable.Covers ∧
      withArrangedTable.serve {} (.alterTable (.ofTable "m" "c" "s" "t")
          [.addColumn ["key"] .long none (.index 0) true, .renameTable "u",
            .renameColumn ["note"] "text", .deleteColumn ["text"] false]) =
        (.ok (.table reply), next, {}) ∧
      reply.layout = arrangedTable.layout ∧ reply.Covers := by
  have loaded : withArrangedTable.serve {} (.loadTable (.ofTable "m" "c" "s" "t")) =
      (.ok (.table arrangedTable), withArrangedTable, {}) := by
    rfl
  have covers : arrangedTable.Covers := by
    decide
  obtain ⟨reply, next, served⟩ : ∃ reply next,
      withArrangedTable.serve {} (.alterTable (.ofTable "m" "c" "s" "t")
          [.addColumn ["key"] .long none (.index 0) true, .renameTable "u",
            .renameColumn ["note"] "text", .deleteColumn ["text"] false]) =
        (.ok (.table reply), next, {}) := ⟨_, _, rfl⟩
  exact ⟨reply, next, loaded, covers, served,
    serve_alterTable_covers reachable_withArrangedTable loaded covers served⟩

end Binding

end CatalogGateway
