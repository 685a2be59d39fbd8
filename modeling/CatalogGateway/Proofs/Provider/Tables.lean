import CatalogGateway.Proofs.Properties.Stored
import CatalogGateway.Proofs.Provider.Layouts

/-!
# Tables as callers see them

What a provider reads back of a stored table: each column by itself and numbered by its place,
the layout from the properties under its own keys, and the other properties as callers see
them.
-/

namespace CatalogGateway

namespace ColumnDefinition

/-- Columns with the positions of their places. -/
def numbered (columns : List ColumnDefinition) : List ColumnDefinition :=
  columns.mapIdx fun ordinal column => { column with position := .index (.ofNat ordinal) }

end ColumnDefinition

namespace Provider

variable {provider : Provider}

section Columns

/-- Callers see a stored column as the given one, wherever it stands. -/
structure Reads (provider : Provider) (stored : EngineColumn) (column : ColumnDefinition) :
    Prop where
  name : column.name = stored.name
  type : provider.mapping.toGeneric stored.type = .ok column.type
  comment : column.comment = stored.comment
  nullable : column.nullable = stored.nullable

theorem reads_of_parseColumn {position : ColumnPosition} {stored : EngineColumn}
    {column : ColumnDefinition} (parsed : provider.parseColumn position stored = .ok column) :
    provider.Reads stored column := by
  obtain ⟨type, typed, same⟩ := Outcome.bind_eq_ok_iff.mp parsed
  cases same
  exact ⟨rfl, typed, rfl, rfl⟩

theorem Reads.parseColumn {stored : EngineColumn} {column : ColumnDefinition}
    (reads : provider.Reads stored column) (position : ColumnPosition) :
    provider.parseColumn position stored = .ok { column with position } := by
  rw [Provider.parseColumn, reads.type]
  show Except.ok _ = Except.ok _
  rw [← reads.name, ← reads.comment, ← reads.nullable]

theorem reads_of_parseColumns {start : Nat} {stored : List EngineColumn}
    {columns : List ColumnDefinition} (parsed : provider.parseColumns start stored = .ok columns) :
    List.Forall₂ provider.Reads stored columns := by
  induction stored generalizing start columns with
  | nil =>
      cases parsed
      exact .nil
  | cons column rest ih =>
      rw [parseColumns] at parsed
      obtain ⟨first, firstParsed, parsed⟩ := Outcome.bind_eq_ok_iff.mp parsed
      obtain ⟨others, restParsed, same⟩ := Outcome.bind_eq_ok_iff.mp parsed
      cases same
      exact .cons (reads_of_parseColumn firstParsed) (ih restParsed)

/-- Columns are read one by one and numbered from the given place on. -/
theorem parseColumns_of_reads {stored : List EngineColumn} {columns : List ColumnDefinition}
    (reads : List.Forall₂ provider.Reads stored columns) (start : Nat) :
    provider.parseColumns start stored = .ok (columns.mapIdx fun ordinal column =>
      { column with position := .index (.ofNat (start + ordinal)) }) := by
  induction reads generalizing start with
  | nil => rfl
  | @cons _ column _ rest first _ ih =>
      have shifted (ordinal : Nat) : start + 1 + ordinal = start + (ordinal + 1) := by omega
      rw [parseColumns, first.parseColumn, ih, List.mapIdx_cons]
      simp only [shifted]
      rfl

theorem forall₂_insertIdx {α β : Type} {relation : α → β → Prop} {first : List α}
    {second : List β} {value : α} {other : β} (related : List.Forall₂ relation first second)
    (new : relation value other) (index : Nat) :
    List.Forall₂ relation (first.insertIdx index value) (second.insertIdx index other) := by
  induction related generalizing index with
  | nil =>
      cases index with
      | zero => exact .cons new .nil
      | succ index => exact .nil
  | cons head tail ih =>
      cases index with
      | zero => exact .cons new (.cons head tail)
      | succ index => exact .cons head (ih index)

end Columns

section Layout

variable {policy : LayoutPolicy} {table shown : TableDefinition} {stored : EngineTable}

theorem coherent_tableConverter (provider : Provider) : provider.tableConverter.Coherent := by
  cases provider <;> exact ⟨by decide, by decide, by decide⟩

theorem not_isRenamed_of_layoutKey {key : String} (member : key ∈ provider.layoutKeys) :
    ¬ provider.tableConverter.IsRenamed key := by
  have others : ∀ entry ∈ provider.tableEntries, entry.genericKey ∉ provider.layoutKeys := by
    cases provider <;> decide
  rintro ⟨entry, known, rfl, _⟩
  exact others entry known member

theorem decodeLayout_congr {first second : EngineProperties}
    (same : ∀ key ∈ provider.layoutKeys, first.get? key = second.get? key) :
    provider.decodeLayout first = provider.decodeLayout second := by
  cases provider with
  | memory => rfl
  | hive =>
      have partitions := same "partitioned_by" (by decide)
      have columns := same "bucketed_by" (by decide)
      have count := same "bucket_count" (by decide)
      have keys := same "sorted_by" (by decide)
      simp only [decodeLayout, HiveLayout.decode, HiveLayout.decodeDistribution,
        HiveLayout.bucketCount?, readArray, partitions, columns, count, keys]
  | iceberg =>
      have partitions := same "partitioning" (by decide)
      have keys := same "sorted_by" (by decide)
      simp only [decodeLayout, IcebergLayout.decode, readArray, partitions, keys]

theorem buildTable_eq_ok_iff :
    provider.buildTable policy table = .ok stored ↔
      stored.name = table.name ∧ table.columns.mapM provider.buildColumn = .ok stored.columns ∧
        stored.comment = table.comment ∧ provider.Storable table.layout ∧
        (policy = .required → provider.keptLayout table.layout = table.layout) ∧
        ∃ properties, provider.tableConverter.toEngine table.properties = .ok properties ∧
          stored.properties =
            properties.insertMany (provider.storedLayout table.layout).entries := by
  obtain ⟨name, columns, comment, all⟩ := stored
  simp only [buildTable, Outcome.bind_eq_ok_iff, Outcome.mapError_eq_ok_iff, encodeLayout_eq_ok_iff,
    pure, Except.pure, Except.ok.injEq, EngineTable.mk.injEq]
  constructor
  · rintro ⟨_, built, properties, converted, _, ⟨storable, isKept, rfl⟩, rfl, rfl, rfl, rfl⟩
    exact ⟨rfl, built, rfl, storable, isKept, properties, converted, rfl⟩
  · rintro ⟨rfl, built, rfl, storable, isKept, properties, converted, rfl⟩
    exact ⟨columns, built, properties, converted, _, ⟨storable, isKept, rfl⟩, rfl, rfl, rfl, rfl⟩

/-- The properties of a table that was stored are native. -/
theorem native_buildTable (built : provider.buildTable policy table = .ok stored) :
    provider.tableConverter.Native stored.properties := by
  obtain ⟨_, _, _, _, _, properties, converted, all⟩ := buildTable_eq_ok_iff.mp built
  have native := PropertyConverter.native_toEngine (coherent_tableConverter provider) converted
  rw [all]
  exact PropertyConverter.native_insertMany native fun entry member =>
    not_isRenamed_of_layoutKey (key_mem_of_storedLayout member)

theorem parseTable_eq_ok_iff :
    provider.parseTable stored = .ok shown ↔
      shown.name = stored.name ∧ provider.parseColumns 0 stored.columns = .ok shown.columns ∧
        shown.comment = stored.comment ∧
        shown.properties = provider.tableConverter.toGeneric stored.properties ∧
        provider.decodeLayout stored.properties = .ok shown.layout := by
  obtain ⟨name, columns, comment, properties, layout⟩ := shown
  rw [parseTable, Outcome.bind_eq_ok_iff]
  simp only [Outcome.mapError_eq_ok_iff, Outcome.bind_eq_ok_iff, pure, Except.pure,
    Except.ok.injEq, TableDefinition.mk.injEq]
  constructor
  · rintro ⟨_, columnsParsed, _, decoded, rfl, rfl, rfl, rfl, rfl⟩
    exact ⟨rfl, columnsParsed, rfl, rfl, decoded⟩
  · rintro ⟨rfl, columnsParsed, rfl, rfl, decoded⟩
    exact ⟨columns, columnsParsed, layout, decoded, rfl, rfl, rfl, rfl, rfl⟩

end Layout

end Provider

end CatalogGateway
