import CatalogGateway.Proofs.Store.ColumnRows
import CatalogGateway.Proofs.Store.MemorySound

/-!
# Pictures of relational stores

The rows of a relational store depict a store in memory: the same schemas in any order, the
same tables in the same order, and for each table the columns that its rows stand for.  What
is asked of the relational store, and what is checked before a change, comes out as in the
picture.  Only reading the columns can fail where the picture has an answer, when a type
nests too deeply.
-/

namespace CatalogGateway

/-- Whether a type can be read back from a relational store. -/
def EngineType.Legible (type : EngineType) : Prop :=
  type.toJson.depth ≤ Metastore.maxLevels

instance (type : EngineType) : Decidable type.Legible :=
  inferInstanceAs (Decidable (_ ≤ _))

/-- The row of a schema. -/
def SchemaRow.ofEntry (entry : String × EngineProperties) : SchemaRow :=
  ⟨entry.1, entry.2.toJson⟩

/-- The row of a table under its number. -/
def TableRow.ofEntry (entry : Nat × MemoryTable) : TableRow :=
  ⟨entry.1, entry.2.name.schema, entry.2.name.table, entry.2.comment, entry.2.properties.toJson⟩

@[simp]
theorem TableRow.schemaTable_ofEntry (entry : Nat × MemoryTable) :
    (TableRow.ofEntry entry).schemaTable = entry.2.name :=
  rfl

/-- The columns of the table of a number. -/
def MemoryStore.columnsAt (store : MemoryStore) (id : Nat) : List EngineColumn :=
  ((store.tables.lookup id).map MemoryTable.columns).getD []

/-- The rows of a relational store are those of a store in memory. -/
structure Metastore.Depicts (store : Metastore) (picture : MemoryStore) : Prop where
  schemas : store.schemas.Perm (picture.schemas.entries.map SchemaRow.ofEntry)
  tables : store.tables = picture.tables.map TableRow.ofEntry
  columns : ∀ id, (store.columnsOf id).Perm (ColumnRow.rowsOf id (picture.columnsAt id))
  lastTableId : store.lastTableId = picture.lastTableId

namespace Metastore

section Reading

theorem readStored_properties (properties : EngineProperties) :
    readStored EngineProperties.ofJson? properties.toJson = .ok properties := by
  have shallow : properties.toJson.depth ≤ maxLevels :=
    Nat.le_trans properties.depth_toJson_le (by decide)
  rw [readStored, (Json.excess?_eq_none_iff _ maxLevels 1).mpr shallow]
  simp [EngineProperties.ofJson?_toJson]

theorem readStored_type_eq_ok_iff {type read : EngineType} :
    readStored EngineType.ofJson? type.toJson = .ok read ↔ type.Legible ∧ type = read := by
  rw [EngineType.Legible, ← Json.excess?_eq_none_iff _ maxLevels 1, readStored]
  cases type.toJson.excess? maxLevels 1 with
  | none => simp [EngineType.ofJson?_toJson]
  | some column => simp

theorem readColumn_ofColumn_eq_ok_iff {table ordinal : Nat} {column read : EngineColumn} :
    readColumn (.ofColumn table ordinal column) = .ok read ↔
      column.type.Legible ∧ column = read := by
  rw [readColumn, Outcome.bind_eq_ok_iff]
  simp only [ColumnRow.ofColumn, readStored_type_eq_ok_iff]
  constructor
  · rintro ⟨_, ⟨legible, rfl⟩, same⟩
    exact ⟨legible, Except.ok.inj same⟩
  · rintro ⟨legible, rfl⟩
    exact ⟨column.type, ⟨legible, rfl⟩, rfl⟩

/-- Columns are read back from their rows unless one of their types nests too deeply. -/
theorem mapM_readColumn_eq_ok_iff {table start : Nat} {columns read : List EngineColumn} :
    (ColumnRow.rowsFrom table start columns).mapM readColumn = .ok read ↔
      (∀ column ∈ columns, column.type.Legible) ∧ columns = read := by
  induction columns generalizing start read with
  | nil => simp [ColumnRow.rowsFrom, pure, Except.pure]
  | cons column rest ih =>
      rw [ColumnRow.rowsFrom, List.mapM_cons, Outcome.bind_eq_ok_iff]
      simp only [readColumn_ofColumn_eq_ok_iff, Outcome.bind_eq_ok_iff, ih, List.mem_cons,
        forall_eq_or_imp]
      constructor
      · rintro ⟨_, ⟨legible, rfl⟩, _, ⟨others, rfl⟩, same⟩
        exact ⟨⟨legible, others⟩, Except.ok.inj same⟩
      · rintro ⟨⟨legible, others⟩, rfl⟩
        exact ⟨column, ⟨legible, rfl⟩, rest, ⟨others, rfl⟩, rfl⟩

end Reading

namespace Depicts

variable {store : Metastore} {picture : MemoryStore}

theorem fresh (connector : String) : Depicts {} { connector } where
  schemas := List.Perm.refl _
  tables := rfl
  columns _ := List.Perm.refl _
  lastTableId := rfl

section Schemas

theorem names_perm (depicts : store.Depicts picture) :
    (store.schemas.map SchemaRow.name).Perm picture.schemas.keys := by
  have names := depicts.schemas.map SchemaRow.name
  rwa [List.map_map] at names

theorem containsSchema (depicts : store.Depicts picture) (schema : String) :
    store.containsSchema schema = picture.schemas.contains schema := by
  rw [Bool.eq_iff_iff, Dictionary.contains_iff, ← depicts.names_perm.mem_iff]
  simp [Metastore.containsSchema]

theorem requireSchema (depicts : store.Depicts picture) (schema : String) :
    store.requireSchema schema = picture.requireSchema schema := by
  rw [Metastore.requireSchema, MemoryStore.requireSchema, depicts.containsSchema]

theorem schemaNames (depicts : store.Depicts picture) :
    MetadataStore.schemaNames store = MetadataStore.schemaNames picture := by
  have sorted : (MetadataStore.schemaNames store).Pairwise fun first second => first ≤ second := by
    apply (List.pairwise_mergeSort ?_ ?_ _).imp of_decide_eq_true
    · intro first second third
      simpa using String.le_trans
    · intro first second
      simpa using String.le_total first second
  have ordered : picture.schemas.keys.Pairwise fun first second => first ≤ second := by
    rw [Dictionary.keys, List.pairwise_map]
    exact picture.schemas.ordered.imp fun below => String.not_lt.mp (String.lt_asymm below)
  exact List.Perm.eq_of_pairwise (fun _ _ _ _ => String.le_antisymm) sorted ordered
    ((List.mergeSort_perm _ _).trans depicts.names_perm)

theorem find?_schema (depicts : store.Depicts picture) (schema : String) :
    store.schemas.find? (·.name = schema) =
      (picture.schemas.get? schema).map fun properties =>
        SchemaRow.ofEntry (schema, properties) := by
  cases found : store.schemas.find? (·.name = schema) with
  | none =>
      have missing : picture.schemas.contains schema = false := by
        rw [← depicts.containsSchema, Metastore.containsSchema, List.any_eq_false]
        simpa using found
      rw [Dictionary.contains, Option.isSome_eq_false_iff, Option.isNone_iff_eq_none] at missing
      rw [missing, Option.map_none]
  | some row =>
      have named : row.name = schema := by simpa using List.find?_some found
      obtain ⟨⟨key, properties⟩, member, rfl⟩ := List.mem_map.mp
        (depicts.schemas.mem_iff.mp (List.mem_of_find?_eq_some found))
      obtain rfl : key = schema := named
      rw [Dictionary.get?_eq_some_iff.mpr member, Option.map_some]

theorem schemaProperties (depicts : store.Depicts picture) (schema : String) :
    MetadataStore.schemaProperties store schema =
      MetadataStore.schemaProperties picture schema := by
  have read : MetadataStore.schemaProperties store schema =
      store.schemaRow schema >>= fun row =>
        readStored EngineProperties.ofJson? row.properties := rfl
  rw [read, schemaRow, depicts.find?_schema]
  simp only [MetadataStore.schemaProperties]
  cases picture.schemas.get? schema with
  | none => rfl
  | some properties => exact readStored_properties properties

end Schemas

section Tables

theorem find?_ofEntry (id : Nat) (entries : List (Nat × MemoryTable)) :
    (entries.map TableRow.ofEntry).find? (fun row => decide (row.id = id)) =
      (entries.lookup id).map fun table => TableRow.ofEntry (id, table) := by
  induction entries with
  | nil => rfl
  | cons entry rest ih =>
      obtain ⟨present, table⟩ := entry
      rw [List.map_cons, List.find?_cons, ih, Dictionary.lookup_cons]
      by_cases same : id = present
      · simp [TableRow.ofEntry, same]
      · simp [TableRow.ofEntry, same, Ne.symm same]

theorem findTable? (depicts : store.Depicts picture) (name : SchemaTable) :
    store.findTable? name = picture.findTable? name := by
  rw [Metastore.findTable?, MemoryStore.findTable?, depicts.tables, List.find?_map,
    Option.map_map]
  rfl

theorem requireFree (depicts : store.Depicts picture) (id : Option Nat) (name : SchemaTable) :
    store.requireFree id name = picture.requireFree id name := by
  rw [Metastore.requireFree, depicts.findTable?]
  rfl

theorem tableHandle? (depicts : store.Depicts picture) (name : SchemaTable) :
    MetadataStore.tableHandle? store name = MetadataStore.tableHandle? picture name :=
  congrArg (Option.map _) (depicts.findTable? name)

theorem tablesOf (depicts : store.Depicts picture) (schema : String) :
    store.tablesOf schema = (picture.tablesOf schema).map TableRow.ofEntry := by
  rw [Metastore.tablesOf, MemoryStore.tablesOf, depicts.tables, List.filter_map]
  rfl

theorem tableNames (depicts : store.Depicts picture) (schema : Option String) :
    MetadataStore.tableNames store schema = MetadataStore.tableNames picture schema := by
  cases schema with
  | none =>
      show Except.ok (SchemaTable.sort (store.tables.map TableRow.schemaTable)) =
        Except.ok (SchemaTable.sort (picture.tables.map (·.2.name)))
      rw [depicts.tables, List.map_map]
      rfl
  | some schema =>
      show (store.requireSchema schema >>= fun _ =>
          .ok (SchemaTable.sort ((store.tablesOf schema).map TableRow.schemaTable))) =
        picture.requireSchema schema >>= fun _ =>
          .ok (SchemaTable.sort ((picture.tablesOf schema).map (·.2.name)))
      rw [depicts.requireSchema, depicts.tablesOf, List.map_map]
      rfl

/-- A handle leads to the row of the table that it leads to in the picture. -/
theorem resolve (depicts : store.Depicts picture) (handle : TableHandle) :
    Outcome.Agree (fun found table =>
        found = (TableRow.ofEntry (handle.id, table), table.properties))
      (store.resolve handle) (picture.table handle) := by
  rw [Metastore.resolve, depicts.tables, find?_ofEntry, MemoryStore.table]
  cases picture.tables.lookup handle.id with
  | none => rfl
  | some table =>
      have properties : readStored EngineProperties.ofJson?
          (TableRow.ofEntry (handle.id, table)).properties = .ok table.properties :=
        readStored_properties table.properties
      have named : handle.check TableRow.schemaTable
          (some (TableRow.ofEntry (handle.id, table))) =
            (handle.check MemoryTable.name (some table)).map fun _ =>
              TableRow.ofEntry (handle.id, table) := by
        show (if table.name = handle.name then _ else _) =
          (if table.name = handle.name then _ else _ : Except StoreFault MemoryTable).map _
        split <;> rfl
      simp only [Option.map_some, properties, named]
      simp only [TableHandle.check]
      split <;> rfl

theorem resolve_of_error {handle : TableHandle} {fault : StoreFault}
    (depicts : store.Depicts picture) (missing : picture.table handle = .error fault) :
    store.resolve handle = .error fault :=
  (depicts.resolve handle).of_error missing

theorem resolve_of_table {handle : TableHandle} {table : MemoryTable}
    (depicts : store.Depicts picture) (found : picture.table handle = .ok table) :
    store.resolve handle = .ok (TableRow.ofEntry (handle.id, table), table.properties) := by
  obtain ⟨_, resolved, rfl⟩ := (depicts.resolve handle).exists_of_ok found
  exact resolved

end Tables

section Columns

variable {handle : TableHandle} {table : MemoryTable}

theorem columnsAt_of_table (found : picture.table handle = .ok table) :
    picture.columnsAt handle.id = table.columns := by
  rw [MemoryStore.columnsAt, (MemoryStore.table_eq_ok_iff.mp found).1]
  rfl

theorem columnsOf_of_table (depicts : store.Depicts picture)
    (found : picture.table handle = .ok table) :
    (store.columnsOf handle.id).Perm (ColumnRow.rowsOf handle.id table.columns) :=
  columnsAt_of_table found ▸ depicts.columns handle.id

theorem display_of_table (found : picture.table handle = .ok table) :
    table.name.display = handle.name.display :=
  congrArg _ (MemoryStore.table_eq_ok_iff.mp found).2

theorem columnOrdinal?_isSome (depicts : store.Depicts picture)
    (found : picture.table handle = .ok table) (column : String) :
    (store.columnOrdinal? handle.id column).isSome = table.hasColumn column := by
  rw [columnOrdinal?, Option.isSome_map]
  exact ColumnRow.find?_isSome (depicts.columnsOf_of_table found)

theorem requireUnused (depicts : store.Depicts picture)
    (found : picture.table handle = .ok table) (column : String) :
    store.requireUnused handle column = table.requireUnused column := by
  rw [Metastore.requireUnused, depicts.columnOrdinal?_isSome found,
    MemoryTable.requireUnused, display_of_table found]

/-- The index that is found for a column is its place in the picture. -/
theorem requireColumn (depicts : store.Depicts picture)
    (found : picture.table handle = .ok table) (column : String) :
    Outcome.Agree (fun ordinal _ => ∃ before present after,
        table.columns = before ++ present :: after ∧ before.length = ordinal ∧
          present.name = column)
      (store.requireColumn handle column) (table.requireColumn column) := by
  have isFound := depicts.columnOrdinal?_isSome found column
  rw [Metastore.requireColumn, MemoryTable.requireColumn, ← isFound, columnOrdinal?]
  cases located : (store.columnsOf handle.id).find? (·.name = column) with
  | none =>
      rw [display_of_table found]
      rfl
  | some row => exact ColumnRow.split_of_find? (depicts.columnsOf_of_table found) located

theorem newOrdinal (depicts : store.Depicts picture)
    (found : picture.table handle = .ok table) (ordinal : Option Nat) :
    store.newOrdinal handle ordinal = table.newOrdinal ordinal := by
  have count := (depicts.columnsOf_of_table found).length_eq
  rw [ColumnRow.length_rowsFrom] at count
  simp only [Metastore.newOrdinal, MemoryTable.newOrdinal, count, display_of_table found]

/-- The columns of a table are read as they are in the picture, unless one of their types
nests too deeply. -/
theorem readColumns_eq_ok_iff (depicts : store.Depicts picture)
    (found : picture.table handle = .ok table) {read : List EngineColumn} :
    store.readColumns handle.id = .ok read ↔
      (∀ column ∈ table.columns, column.type.Legible) ∧ table.columns = read := by
  rw [readColumns, orderedColumns, ColumnRow.mergeSort_eq (depicts.columnsOf_of_table found)]
  exact mapM_readColumn_eq_ok_iff

end Columns

end Depicts

end Metastore

end CatalogGateway
