import CatalogGateway.Proofs.Store.Whereabouts
import CatalogGateway.Proofs.Table.Encoding
import Mathlib.Data.List.Induction

/-!
# Values in the rows of relational stores

A relational store keeps types and properties as their encodings.  Whatever is called on an
empty store, each of its rows holds the encoding of a type or of properties that some call
gave, and the encoding is read back as what it was made of.  What a call writes that succeeds
is found in the rows right after it.
-/

namespace CatalogGateway

/-- The entries of the properties that a call writes. -/
def StoreCall.writtenEntries : StoreCall → List (String × PropertyValue)
  | createSchema _ properties => properties.entries
  | createTable _ table => table.properties.entries
  | setTableProperties _ changes =>
    changes.entries.filterMap fun entry => entry.2.map fun value => (entry.1, value)
  | _ => []

/-- A change of properties leaves entries that were there before and entries that it sets. -/
theorem EngineProperties.mem_of_mem_change {stored : EngineProperties} {handle : TableHandle}
    {changes : PropertyChanges} {entry : String × PropertyValue}
    (member : entry ∈ (stored.change changes).entries) :
    entry ∈ stored.entries ∨
      entry ∈ (StoreCall.setTableProperties handle changes).writtenEntries := by
  rw [change] at member
  rw [StoreCall.writtenEntries]
  generalize changes.entries = list at member
  induction list generalizing stored with
  | nil => exact .inl member
  | cons first rest ih =>
      obtain ⟨key, value⟩ := first
      rcases ih member with changed | later
      · cases value with
        | none => exact .inl (List.mem_filter.mp changed).1
        | some value =>
            rcases Dictionary.mem_insertEntry changed with rfl | old
            · exact .inr List.mem_cons_self
            · exact .inl old
      · cases value with
        | none => exact .inr later
        | some value => exact .inr (List.mem_cons_of_mem _ later)

namespace Metastore

section Rows

/-- A stored value encodes one of some types. -/
def EncodesType (types : EngineType → Prop) (stored : Json) : Prop :=
  ∃ type, types type ∧ stored = type.toJson

/-- A stored value encodes properties all of whose entries are among some. -/
def EncodesProperties (entries : String × PropertyValue → Prop) (stored : Json) : Prop :=
  ∃ properties : EngineProperties,
    (∀ entry ∈ properties.entries, entries entry) ∧ stored = properties.toJson

/-- The rows of a store keep nothing but encodings of some types and of some entries. -/
structure Keeps (types : EngineType → Prop) (entries : String × PropertyValue → Prop)
    (store : Metastore) : Prop where
  columns : ∀ row ∈ store.columns, EncodesType types row.type
  tables : ∀ row ∈ store.tables, EncodesProperties entries row.properties
  schemas : ∀ row ∈ store.schemas, EncodesProperties entries row.properties

variable {types : EngineType → Prop} {entries : String × PropertyValue → Prop}
  {store : Metastore}

theorem EncodesProperties.of_readStored {stored : Json} {properties : EngineProperties}
    (encodes : EncodesProperties entries stored)
    (read : readStored EngineProperties.ofJson? stored = .ok properties) :
    ∀ entry ∈ properties.entries, entries entry := by
  obtain ⟨written, among, rfl⟩ := encodes
  rw [readStored_properties] at read
  cases read
  exact among

namespace Keeps

theorem mapColumns {table : Nat} {which : ColumnRow → Bool} {change : ColumnRow → ColumnRow}
    (keeps : store.Keeps types entries)
    (changed : ∀ row, EncodesType types row.type → EncodesType types (change row).type) :
    (store.mapColumns table which change).Keeps types entries where
  columns row member := by
    obtain ⟨present, inStore, rfl⟩ := List.mem_map.mp member
    split
    · exact changed present (keeps.columns present inStore)
    · exact keeps.columns present inStore
  tables := keeps.tables
  schemas := keeps.schemas

theorem mapTable {id : Nat} {change : TableRow → TableRow} (keeps : store.Keeps types entries)
    (changed : ∀ row, EncodesProperties entries row.properties →
      EncodesProperties entries (change row).properties) :
    (store.mapTable id change).Keeps types entries where
  columns := keeps.columns
  tables row member := by
    obtain ⟨present, inStore, rfl⟩ := List.mem_map.mp member
    split
    · exact changed present (keeps.tables present inStore)
    · exact keeps.tables present inStore
  schemas := keeps.schemas

theorem removeTables {which : TableRow → Bool} (keeps : store.Keeps types entries) :
    (store.removeTables which).Keeps types entries where
  columns row member := keeps.columns row (List.mem_filter.mp member).1
  tables row member := keeps.tables row (List.mem_filter.mp member).1
  schemas := keeps.schemas

theorem removeColumn {table ordinal : Nat} {column : String} (keeps : store.Keeps types entries) :
    (store.removeColumn table ordinal column).Keeps types entries := by
  apply mapColumns
  · exact {
      columns := fun row member => keeps.columns row (List.mem_filter.mp member).1
      tables := keeps.tables
      schemas := keeps.schemas }
  · exact fun _ encodes => encodes

theorem insertColumn {table ordinal : Nat} {column : EngineColumn}
    (keeps : store.Keeps types entries) (written : types column.type) :
    (store.insertColumn table ordinal column).Keeps types entries where
  columns row member := by
    rcases List.mem_append.mp member with present | added
    · exact keeps.columns row present
    · obtain rfl := List.mem_singleton.mp added
      exact ⟨column.type, written, rfl⟩
  tables := keeps.tables
  schemas := keeps.schemas

theorem insertColumns {handle : TableHandle} {ordinal : Nat} {columns : List EngineColumn}
    (keeps : store.Keeps types entries) (written : ∀ column ∈ columns, types column.type) :
    (store.insertColumns handle ordinal columns).2.Keeps types entries := by
  induction columns generalizing store ordinal with
  | nil => exact keeps
  | cons column rest ih =>
      rw [Metastore.insertColumns]
      split
      · exact keeps
      · exact ih (keeps.insertColumn (written column List.mem_cons_self)) fun later member =>
          written later (List.mem_cons_of_mem _ member)

theorem insertTable {schema : String} {table : EngineTable} (keeps : store.Keeps types entries)
    (written : ∀ entry ∈ table.properties.entries, entries entry) :
    (store.insertTable schema table).Keeps types entries where
  columns := keeps.columns
  tables row member := by
    rcases List.mem_append.mp member with present | added
    · exact keeps.tables row present
    · obtain rfl := List.mem_singleton.mp added
      exact ⟨table.properties, written, rfl⟩
  schemas := keeps.schemas

/-- The properties that a handle leads to are made of entries that the rows keep. -/
theorem of_resolve {handle : TableHandle} {found : TableRow × EngineProperties}
    (keeps : store.Keeps types entries) (resolved : store.resolve handle = .ok found) :
    ∀ entry ∈ found.2.entries, entries entry := by
  rw [resolve] at resolved
  split at resolved
  · contradiction
  · rename_i row present
    obtain ⟨properties, read, rest⟩ := Outcome.bind_eq_ok_iff.mp resolved
    obtain ⟨checked, _, same⟩ := Outcome.bind_eq_ok_iff.mp rest
    cases same
    exact (keeps.tables row (List.mem_of_find?_eq_some present)).of_readStored read

/-- Rows keep what they kept, and of a call no more than what it writes. -/
theorem run (keeps : store.Keeps types entries) (call : StoreCall)
    (writtenTypes : ∀ type ∈ call.writtenTypes, types type)
    (writtenEntries : ∀ entry ∈ call.writtenEntries, entries entry) :
    (call.run store).2.Keeps types entries := by
  cases call with
  | schemaNames | hasSchema | schemaProperties | tableNames | tableHandle | tableMetadata
  | columnHandles => exact keeps
  | createSchema schema properties =>
      refine MetadataStore.guarded_keeps keeps fun _ _ =>
        ⟨keeps.columns, keeps.tables, fun row member => ?_⟩
      rcases List.mem_append.mp member with present | added
      · exact keeps.schemas row present
      · obtain rfl := List.mem_singleton.mp added
        exact ⟨properties, writtenEntries, rfl⟩
  | dropSchema schema cascade =>
      refine MetadataStore.guarded_keeps keeps fun _ _ => ?_
      have emptied : (store.removeTables (·.schema = schema)).Keeps types entries :=
        keeps.removeTables
      exact ⟨emptied.columns, emptied.tables, fun row member =>
        emptied.schemas row (List.mem_filter.mp member).1⟩
  | createTable schema table =>
      have inserted : (store.insertTable schema table).Keeps types entries :=
        keeps.insertTable writtenEntries
      rw [StoreCall.run, Depicts.createTable_eq_match]
      split
      · exact keeps
      · exact inserted.insertColumns fun column member =>
          writtenTypes _ (List.mem_map_of_mem member)
  | dropTable handle => exact MetadataStore.guarded_keeps keeps fun _ _ => keeps.removeTables
  | renameTable handle name | setTableComment handle comment =>
      exact MetadataStore.guarded_keeps keeps fun _ _ => keeps.mapTable fun _ encodes => encodes
  | addColumn handle column ordinal =>
      refine MetadataStore.guarded_keeps keeps fun index _ => ?_
      have opened : (store.openGap handle.id index).Keeps types entries :=
        keeps.mapColumns fun _ encodes => encodes
      exact opened.insertColumn (writtenTypes column.type List.mem_cons_self)
  | dropColumn handle column =>
      exact MetadataStore.guarded_keeps keeps fun _ _ => keeps.removeColumn
  | renameColumn handle column name | setColumnComment handle column comment =>
      exact MetadataStore.guarded_keeps keeps fun _ _ => keeps.mapColumns fun _ encodes => encodes
  | setColumnType handle column type =>
      exact MetadataStore.guarded_keeps keeps fun _ _ => keeps.mapColumns fun _ _ =>
        ⟨type, writtenTypes type List.mem_cons_self, rfl⟩
  | setTableProperties handle changes =>
      refine MetadataStore.guarded_keeps keeps fun found resolved => keeps.mapTable fun _ _ => ?_
      refine ⟨found.2.change changes, fun entry member => ?_, rfl⟩
      rcases EngineProperties.mem_of_mem_change member with old | set
      · exact keeps.of_resolve resolved entry old
      · exact writtenEntries entry set

end Keeps

end Rows

/-- The store that calls lead to from an empty one, whether they succeed or fail. -/
def after (calls : List StoreCall) : Metastore :=
  calls.foldl (fun store call => (call.run store).2) {}

theorem after_snoc (calls : List StoreCall) (call : StoreCall) :
    after (calls ++ [call]) = (call.run (after calls)).2 := by
  simp [after]

/-- The rows keep nothing but what the calls wrote. -/
theorem keeps_after {types : EngineType → Prop} {entries : String × PropertyValue → Prop}
    {calls : List StoreCall}
    (writtenTypes : ∀ call ∈ calls, ∀ type ∈ call.writtenTypes, types type)
    (writtenEntries : ∀ call ∈ calls, ∀ entry ∈ call.writtenEntries, entries entry) :
    (after calls).Keeps types entries := by
  induction calls using List.reverseRecOn with
  | nil => exact ⟨nofun, nofun, nofun⟩
  | append_singleton calls call ih =>
      have last : call ∈ calls ++ [call] := List.mem_append_right calls List.mem_cons_self
      have before := ih (fun earlier member => writtenTypes earlier (List.mem_append_left _ member))
        fun earlier member => writtenEntries earlier (List.mem_append_left _ member)
      rw [after_snoc]
      exact before.run call (writtenTypes call last) (writtenEntries call last)

theorem reachable_after (calls : List StoreCall) :
    (Store.relational (after calls)).Reachable := by
  induction calls using List.reverseRecOn with
  | nil => exact .relational
  | append_singleton calls call ih =>
      have reached := ih.call call
      rw [StoreCall.run_relational] at reached
      rwa [after_snoc]

/-- The type that the row of a column gives back, however deep it nests. -/
def columnType? (store : Metastore) (table : Nat) (column : String) : Option EngineType :=
  ((store.columnsOf table).find? (·.name = column)).bind fun row =>
    EngineType.ofJson? row.type

/-- The properties of the table that a handle leads to. -/
def tableProperties (store : Metastore) (handle : TableHandle) :
    Except StoreFault EngineProperties :=
  (store.resolve handle).map Prod.snd

namespace Shows

variable {store : Metastore} {picture : MemoryStore} {handle : TableHandle} {table : MemoryTable}

theorem tableProperties (shows : store.Shows picture) (found : picture.table handle = .ok table) :
    store.tableProperties handle = .ok table.properties := by
  rw [Metastore.tableProperties, shows.depicts.resolve_of_table found]
  rfl

/-- The rows of a table give back the types of its columns. -/
theorem columnType? (shows : store.Shows picture) (found : picture.table handle = .ok table)
    {column : EngineColumn} (member : column ∈ table.columns) :
    store.columnType? handle.id column.name = some column.type := by
  have stands := shows.depicts.columnsOf_of_table found
  have distinct := shows.sound.columns (MemoryStore.table_eq_ok_iff.mp found).1
  have isFound : ((store.columnsOf handle.id).find? (·.name = column.name)).isSome := by
    rw [ColumnRow.find?_isSome stands, List.any_eq_true]
    exact ⟨column, member, decide_eq_true rfl⟩
  obtain ⟨row, first⟩ := Option.isSome_iff_exists.mp isFound
  have named : row.name = column.name := by simpa using List.find?_some first
  obtain ⟨before, present, after, splits, rfl⟩ :=
    ColumnRow.split_of_mem (stands.mem_iff.mp (List.mem_of_find?_eq_some first))
  -- No two columns of the table share a name, so the row that is found is the column's own.
  have inTable : present ∈ table.columns := by simp [splits]
  obtain rfl : present = column := List.inj_on_of_nodup_map distinct inTable member named
  rw [Metastore.columnType?, first]
  exact EngineType.ofJson?_toJson present.type

end Shows

end Metastore

theorem MemoryTable.exists_of_requireColumn {table : MemoryTable} {column : String}
    (required : table.requireColumn column = .ok ()) :
    ∃ present ∈ table.columns, present.name = column := by
  rw [requireColumn, Outcome.ite_error_eq_ok_iff, hasColumn_iff] at required
  exact List.mem_map.mp required.1

namespace MemoryStore

variable {store : MemoryStore} {handle : TableHandle} {table : MemoryTable}

theorem table_mapTable {change : MemoryTable → MemoryTable}
    (found : store.table handle = .ok table) (keeps : (change table).name = table.name) :
    (store.mapTable handle.id change).table handle = .ok (change table) := by
  obtain ⟨lookup, named⟩ := table_eq_ok_iff.mp found
  refine table_eq_ok_iff.mpr ⟨?_, keeps.trans named⟩
  rw [lookup_mapTable, if_pos rfl, lookup]
  rfl

theorem Sound.table_addTable (sound : store.Sound) :
    (store.addTable table).table ⟨store.lastTableId + 1, table.name⟩ = .ok table := by
  refine table_eq_ok_iff.mpr ⟨?_, rfl⟩
  rw [sound.lookup_addTable, if_pos rfl]

end MemoryStore

/-- What a call that succeeds has written is given back by the rows that it leaves. -/
def StoreCall.GivenBack (before after : Metastore) (reply : StoreReply) : StoreCall → Prop
  | createSchema schema properties =>
    MetadataStore.schemaProperties after schema = .ok properties
  | createTable _ table =>
    ∃ handle, reply = .created handle ∧ after.tableProperties handle = .ok table.properties ∧
      ∀ column ∈ table.columns, after.columnType? handle.id column.name = some column.type
  | addColumn handle column _ => after.columnType? handle.id column.name = some column.type
  | setColumnType handle column type => after.columnType? handle.id column = some type
  | setTableProperties handle changes =>
    ∃ properties, before.tableProperties handle = .ok properties ∧
      after.tableProperties handle = .ok (properties.change changes)
  | _ => True

theorem Metastore.Shows.givenBack {store after : Metastore} {picture : MemoryStore}
    {call : StoreCall} {reply : StoreReply} (shows : store.Shows picture)
    (runs : call.run store = (.ok reply, after)) : call.GivenBack store after reply := by
  obtain ⟨other, answers, shown⟩ := shows.run_ok runs
  cases call with
  | createSchema schema properties =>
      obtain ⟨_, _, rfl⟩ := StoreCall.acknowledge_guarded_eq_ok answers
      refine (shown.depicts.schemaProperties schema).trans ?_
      simp [MetadataStore.schemaProperties]
  | createTable schema table =>
      obtain ⟨answer, left⟩ := Prod.mk.inj answers
      obtain ⟨handle, created, rfl⟩ := Outcome.map_eq_ok_iff.mp answer
      obtain ⟨_, rfl⟩ := MemoryStore.createTable_eq_ok (Prod.ext created left)
      obtain ⟨_, _, rfl⟩ := Outcome.map_eq_ok_iff.mp created
      have found : (picture.addTable (.ofEngine schema table)).table
          ⟨picture.lastTableId + 1, ⟨schema, table.name⟩⟩ = .ok (.ofEngine schema table) :=
        shows.sound.table_addTable
      exact ⟨_, rfl, shown.tableProperties found, fun _ member => shown.columnType? found member⟩
  | addColumn handle column ordinal =>
      obtain ⟨index, checked, rfl⟩ := StoreCall.acknowledge_guarded_eq_ok answers
      obtain ⟨table, found, rest⟩ := Outcome.bind_eq_ok_iff.mp checked
      obtain ⟨_, _, placed⟩ := Outcome.bind_eq_ok_iff.mp rest
      have within : index ≤ table.columns.length := (MemoryTable.newOrdinal_eq_ok_iff.mp placed).2
      exact shown.columnType? (MemoryStore.table_mapTable found rfl)
        ((List.mem_insertIdx within).mpr (.inl rfl))
  | setColumnType handle column type =>
      obtain ⟨_, checked, rfl⟩ := StoreCall.acknowledge_guarded_eq_ok answers
      obtain ⟨table, found, required⟩ := Outcome.bind_eq_ok_iff.mp checked
      obtain ⟨present, inTable, rfl⟩ := MemoryTable.exists_of_requireColumn required
      have changed : { present with type } ∈
          (table.mapColumn present.name fun present => { present with type }).columns :=
        List.mem_map.mpr ⟨present, inTable, if_pos rfl⟩
      exact shown.columnType? (MemoryStore.table_mapTable found rfl) changed
  | setTableProperties handle changes =>
      obtain ⟨table, found, rfl⟩ := StoreCall.acknowledge_guarded_eq_ok answers
      exact ⟨table.properties, shows.tableProperties found,
        shown.tableProperties (MemoryStore.table_mapTable found rfl)⟩
  | _ => trivial

namespace Metastore

/-- What calls on an empty store leave in its rows is what they wrote, and is read back. -/
structure ReadsWritten (calls : List StoreCall) : Prop where
  /-- A column is read back with the type that was written, unless the type nests too deeply
  for the reading of texts. -/
  columns : ∀ row ∈ (after calls).columns, ∃ type,
    (∃ call ∈ calls, type ∈ call.writtenTypes) ∧
      EngineType.ofJson? row.type = some type ∧
        ∀ column, readColumn row = .ok column ↔
          type.Legible ∧ ⟨row.name, type, row.nullable, row.comment⟩ = column
  tables : ∀ row ∈ (after calls).tables, ∃ properties : EngineProperties,
    (∀ entry ∈ properties.entries, ∃ call ∈ calls, entry ∈ call.writtenEntries) ∧
      readStored EngineProperties.ofJson? row.properties = .ok properties
  schemas : ∀ row ∈ (after calls).schemas, ∃ properties : EngineProperties,
    (∀ entry ∈ properties.entries, ∃ call ∈ calls, entry ∈ call.writtenEntries) ∧
      readStored EngineProperties.ofJson? row.properties = .ok properties
  latest : ∀ (call : StoreCall) (reply : StoreReply),
    (call.run (after calls)).1 = .ok reply →
      call.GivenBack (after calls) (after (calls ++ [call])) reply

theorem readColumn_eq_ok_iff {row : ColumnRow} {type : EngineType} {column : EngineColumn}
    (encodes : row.type = type.toJson) :
    readColumn row = .ok column ↔
      type.Legible ∧ ⟨row.name, type, row.nullable, row.comment⟩ = column := by
  have encoded : row = .ofColumn row.table row.ordinal
      ⟨row.name, type, row.nullable, row.comment⟩ := by
    rw [ColumnRow.ofColumn, ← encodes]
  rw [encoded]
  exact readColumn_ofColumn_eq_ok_iff

theorem EncodesProperties.exists_readStored {entries : String × PropertyValue → Prop}
    {stored : Json} (encodes : EncodesProperties entries stored) :
    ∃ properties : EngineProperties, (∀ entry ∈ properties.entries, entries entry) ∧
      readStored EngineProperties.ofJson? stored = .ok properties := by
  obtain ⟨properties, among, rfl⟩ := encodes
  exact ⟨properties, among, readStored_properties properties⟩

theorem readsWritten (calls : List StoreCall) : ReadsWritten calls := by
  have keeps : (after calls).Keeps (fun type => ∃ call ∈ calls, type ∈ call.writtenTypes)
      fun entry => ∃ call ∈ calls, entry ∈ call.writtenEntries :=
    keeps_after (fun call member type written => ⟨call, member, written⟩)
      fun call member entry written => ⟨call, member, written⟩
  obtain ⟨picture, shows⟩ := (reachable_after calls).exists_shows
  exact {
    columns := by
      intro row member
      obtain ⟨type, written, encodes⟩ := keeps.columns row member
      exact ⟨type, written, encodes ▸ EngineType.ofJson?_toJson type,
        fun _ => readColumn_eq_ok_iff encodes⟩
    tables := fun row member => (keeps.tables row member).exists_readStored
    schemas := fun row member => (keeps.schemas row member).exists_readStored
    latest := by
      intro call reply answer
      rw [after_snoc]
      exact shows.givenBack (Prod.ext answer rfl) }

end Metastore

/-- Types, properties, tables, layouts and changes are read back from their encodings, so that
different ones are encoded differently, and a relational store reads what was written. -/
theorem encodings_lossless :
    Json.Lossless DataType.toJson DataType.ofJson? ∧
      Json.Lossless EngineType.toJson EngineType.ofJson? ∧
      Json.Lossless PropertyValue.toJson PropertyValue.ofJson? ∧
      Json.Lossless EngineTable.toJson EngineTable.ofJson? ∧
      Json.Lossless Transform.toJson Transform.ofJson? ∧
      Json.Lossless SortOrder.toJson SortOrder.ofJson? ∧
      Json.Lossless Distribution.toJson Distribution.ofJson? ∧
      Json.Lossless TableDefinition.toJson TableDefinition.ofJson? ∧
      Json.Lossless TableChange.toJson TableChange.ofJson? ∧
      ∀ calls, Metastore.ReadsWritten calls :=
  ⟨.of_readsBack DataType.ofJson?_toJson, .of_readsBack EngineType.ofJson?_toJson,
    .of_readsBack PropertyValue.ofJson?_toJson, .of_readsBack EngineTable.ofJson?_toJson,
    .of_readsBack Transform.ofJson?_toJson, .of_readsBack SortOrder.ofJson?_toJson,
    .of_readsBack Distribution.ofJson?_toJson, .of_readsBack TableDefinition.ofJson?_toJson,
    .of_readsBack TableChange.ofJson?_toJson, Metastore.readsWritten⟩

/-- A type that is set stands in the place of the one that the table was created with. -/
example :
    (Metastore.after [
      .createSchema "sales" .empty,
      .createTable "sales" ⟨"orders", [⟨"price", .varchar none, false, none⟩], none, .empty⟩,
      .setColumnType ⟨1, ⟨"sales", "orders"⟩⟩ "price" (.array (.decimal 10 2))]).columnType? 1
        "price" = some (.array (.decimal 10 2)) := by
  rfl

end CatalogGateway
