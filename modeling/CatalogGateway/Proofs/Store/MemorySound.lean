import CatalogGateway.Proofs.Dictionary.Lookup
import CatalogGateway.Proofs.Store.Outcome
import Mathlib.Data.List.Nodup

/-!
# Sound stores in memory

Tables are numbered in the order of their creation, no two have the same name, each lies in
a schema that there is, and no two columns of a table have the same name.  A new store is
sound, and whatever is called on a sound store leaves a sound one.
-/

namespace CatalogGateway

namespace MemoryTable

variable {table : MemoryTable} {column : String}

/-- The table of a schema that an engine table is stored as. -/
def ofEngine (schema : String) (table : EngineTable) : MemoryTable :=
  ⟨⟨schema, table.name⟩, table.columns, table.comment, table.properties⟩

/-- No two columns have the same name. -/
def DistinctColumns (table : MemoryTable) : Prop :=
  (table.columns.map EngineColumn.name).Nodup

theorem requireUnused_eq_ok_iff :
    table.requireUnused column = .ok () ↔ table.hasColumn column = false := by
  rw [requireUnused]
  split <;> simp_all

theorem newOrdinal_eq_ok_iff {ordinal : Option Nat} {index : Nat} :
    table.newOrdinal ordinal = .ok index ↔
      ordinal.getD table.columns.length = index ∧ index ≤ table.columns.length := by
  rw [newOrdinal, Outcome.ite_error_eq_ok_iff, and_comm]
  exact and_congr_right fun same => by rw [same]

/-- The columns of a new table are accepted when their names are different. -/
theorem requireDistinct_eq_ok_iff {display : String} {seen : List String}
    {columns : List EngineColumn} :
    requireDistinct display seen columns = .ok () ↔
      (columns.map EngineColumn.name).Nodup ∧ ∀ column ∈ columns, column.name ∉ seen := by
  induction columns generalizing seen with
  | nil => simp [requireDistinct]
  | cons column rest ih =>
      rw [requireDistinct]
      by_cases repeated : column.name ∈ seen
      · simp [repeated]
      · rw [if_neg repeated, ih]
        simp only [List.map_cons, List.nodup_cons, List.mem_cons, List.mem_map, not_or,
          forall_eq_or_imp, not_exists, not_and]
        constructor
        · rintro ⟨distinct, fresh⟩
          exact ⟨⟨fun other member => (fresh other member).1, distinct⟩, repeated,
            fun other member => (fresh other member).2⟩
        · rintro ⟨⟨different, distinct⟩, _, fresh⟩
          exact ⟨distinct, fun other member => ⟨different other member, fresh other member⟩⟩

theorem hasColumn_iff : table.hasColumn column ↔ column ∈ table.columns.map EngineColumn.name := by
  simp [hasColumn]

theorem distinct_mapColumn {change : EngineColumn → EngineColumn}
    (keeps : ∀ present, (change present).name = present.name) (distinct : table.DistinctColumns) :
    (table.mapColumn column change).DistinctColumns := by
  have names : (table.mapColumn column change).columns.map EngineColumn.name =
      table.columns.map EngineColumn.name := by
    simp only [mapColumn, List.map_map]
    apply List.map_congr_left
    intro present _
    simp only [Function.comp_apply]
    split <;> simp [keeps]
  rwa [DistinctColumns, names]

/-- Columns keep different names when one is added whose name is new. -/
theorem distinct_insertIdx {columns : List EngineColumn} {index : Nat} {column : EngineColumn}
    (distinct : (columns.map EngineColumn.name).Nodup)
    (unused : column.name ∉ columns.map EngineColumn.name) :
    ((columns.insertIdx index column).map EngineColumn.name).Nodup := by
  by_cases within : index ≤ columns.length
  · have names := (List.perm_insertIdx column columns within).map EngineColumn.name
    rw [names.nodup_iff, List.map_cons, List.nodup_cons]
    exact ⟨unused, distinct⟩
  · rwa [List.insertIdx_of_length_lt (by omega)]

theorem distinct_rename {columns : List EngineColumn} {column name : String}
    (distinct : (columns.map EngineColumn.name).Nodup)
    (unused : column = name ∨ name ∉ columns.map EngineColumn.name) :
    ((columns.map fun present =>
      if present.name = column then { present with name } else present).map
        EngineColumn.name).Nodup := by
  have names : (columns.map fun present =>
      if present.name = column then { present with name } else present).map EngineColumn.name =
        (columns.map EngineColumn.name).map fun present =>
          if present = column then name else present := by
    rw [List.map_map, List.map_map]
    apply List.map_congr_left
    intro present _
    simp only [Function.comp_apply]
    split <;> rfl
  rw [names]
  apply List.Nodup.map_on _ distinct
  intro first inFirst second inSecond same
  rcases unused with rfl | fresh
  · split at same <;> split at same <;> simp_all
  · have firstFresh : first ≠ name := fun equal => fresh (equal ▸ inFirst)
    have secondFresh : second ≠ name := fun equal => fresh (equal ▸ inSecond)
    split at same <;> split at same <;> simp_all

end MemoryTable

namespace MemoryStore

/-- The store with a new table under the next number. -/
def addTable (store : MemoryStore) (table : MemoryTable) : MemoryStore :=
  { store with
    tables := store.tables ++ [(store.lastTableId + 1, table)]
    lastTableId := store.lastTableId + 1 }

/-- What holds of a store in every state that its operations lead to. -/
structure Sound (store : MemoryStore) : Prop where
  ascending : (store.tables.map Prod.fst).Pairwise (· < ·)
  /-- No number is given out that a table still has. -/
  given : ∀ {id : Nat} {table : MemoryTable}, store.tables.lookup id = some table →
    id ≤ store.lastTableId
  names : ∀ {id other : Nat} {table otherTable : MemoryTable},
    store.tables.lookup id = some table → store.tables.lookup other = some otherTable →
      table.name = otherTable.name → id = other
  schemas : ∀ {id : Nat} {table : MemoryTable}, store.tables.lookup id = some table →
    store.schemas.contains table.name.schema = true
  columns : ∀ {id : Nat} {table : MemoryTable}, store.tables.lookup id = some table →
    table.DistinctColumns
  room : ∀ limit, store.maxTables = some limit → store.tables.length ≤ limit

variable {store : MemoryStore}

section Lookup

namespace Sound

theorem ids_nodup (sound : store.Sound) : (store.tables.map Prod.fst).Nodup :=
  sound.ascending.imp Nat.ne_of_lt

theorem mem_iff (sound : store.Sound) {id : Nat} {table : MemoryTable} :
    (id, table) ∈ store.tables ↔ store.tables.lookup id = some table :=
  (Dictionary.lookup_eq_some_iff sound.ids_nodup).symm

/-- The number found for a name is the number of the table that has it. -/
theorem findTable?_eq_some_iff (sound : store.Sound) {name : SchemaTable} {id : Nat} :
    store.findTable? name = some id ↔
      ∃ table, store.tables.lookup id = some table ∧ table.name = name := by
  rw [findTable?, Option.map_eq_some_iff]
  constructor
  · rintro ⟨⟨_, table⟩, found, rfl⟩
    exact ⟨table, sound.mem_iff.mp (List.mem_of_find?_eq_some found),
      by simpa using List.find?_some found⟩
  · rintro ⟨table, found, named⟩
    have member := sound.mem_iff.mpr found
    have isFound : (store.tables.find? (·.2.name = name)).isSome := by
      rw [List.find?_isSome]
      exact ⟨(id, table), member, decide_eq_true named⟩
    obtain ⟨⟨other, otherTable⟩, first⟩ := Option.isSome_iff_exists.mp isFound
    have otherNamed : otherTable.name = name := by simpa using List.find?_some first
    refine ⟨(other, otherTable), first, ?_⟩
    exact sound.names (sound.mem_iff.mp (List.mem_of_find?_eq_some first)) found
      (otherNamed.trans named.symm)

theorem findTable?_eq_none_iff (sound : store.Sound) {name : SchemaTable} :
    store.findTable? name = none ↔
      ∀ id table, store.tables.lookup id = some table → table.name ≠ name := by
  rw [Option.eq_none_iff_forall_ne_some]
  simp only [ne_eq, sound.findTable?_eq_some_iff, not_exists, not_and]

theorem tableHandle?_eq_some_iff (sound : store.Sound) {name : SchemaTable}
    {handle : TableHandle} :
    MetadataStore.tableHandle? store name = some handle ↔
      handle.name = name ∧ ∃ table, store.tables.lookup handle.id = some table ∧
        table.name = name := by
  have made : MetadataStore.tableHandle? store name =
      (store.findTable? name).map fun id => ⟨id, name⟩ := rfl
  rw [made, Option.map_eq_some_iff]
  constructor
  · rintro ⟨id, found, rfl⟩
    exact ⟨rfl, sound.findTable?_eq_some_iff.mp found⟩
  · rintro ⟨rfl, found⟩
    exact ⟨handle.id, sound.findTable?_eq_some_iff.mpr found, rfl⟩

end Sound

theorem lookup_mapTable (id other : Nat) (change : MemoryTable → MemoryTable) :
    (store.mapTable id change).tables.lookup other =
      if other = id then (store.tables.lookup other).map change
      else store.tables.lookup other :=
  Dictionary.lookup_map_at id other change store.tables

theorem Sound.lookup_next (sound : store.Sound) :
    store.tables.lookup (store.lastTableId + 1) = none := by
  rw [Option.eq_none_iff_forall_ne_some]
  intro table found
  exact Nat.not_succ_le_self _ (sound.given found)

theorem Sound.lookup_filter (sound : store.Sound) (keep : Nat × MemoryTable → Bool) {id : Nat}
    {table : MemoryTable} :
    (store.tables.filter keep).lookup id = some table ↔
      store.tables.lookup id = some table ∧ keep (id, table) = true := by
  have nodup : ((store.tables.filter keep).map Prod.fst).Nodup :=
    sound.ids_nodup.sublist (List.filter_sublist.map _)
  rw [Dictionary.lookup_eq_some_iff nodup, List.mem_filter, sound.mem_iff]

theorem Sound.lookup_addTable (sound : store.Sound) {id : Nat} {table : MemoryTable} :
    (store.addTable table).tables.lookup id =
      if id = store.lastTableId + 1 then some table else store.tables.lookup id := by
  rw [addTable, List.lookup_append, Dictionary.lookup_cons, List.lookup_nil]
  split
  · rename_i same
    rw [same, sound.lookup_next, Option.none_or]
  · rw [Option.or_none]

end Lookup

section Checks

theorem requireSchema_eq_ok_iff {schema : String} :
    store.requireSchema schema = .ok () ↔ store.schemas.contains schema = true := by
  simp [requireSchema]

theorem table_eq_ok_iff {handle : TableHandle} {table : MemoryTable} :
    store.table handle = .ok table ↔
      store.tables.lookup handle.id = some table ∧ table.name = handle.name := by
  rw [MemoryStore.table, TableHandle.check.eq_def]
  cases store.tables.lookup handle.id with
  | none => simp
  | some found =>
      simp only [Outcome.ite_error_eq_ok_iff, Option.some.injEq]
      constructor
      · rintro ⟨named, rfl⟩
        exact ⟨rfl, named⟩
      · rintro ⟨rfl, named⟩
        exact ⟨named, rfl⟩

theorem requireRoom_eq_ok_iff :
    store.requireRoom = .ok () ↔
      ∀ limit, store.maxTables = some limit → store.tables.length < limit := by
  rw [requireRoom]
  cases store.maxTables with
  | none => simp
  | some limit => simp

theorem requireFree_eq_ok_iff {id : Option Nat} {name : SchemaTable} :
    store.requireFree id name = .ok () ↔
      ∀ present, store.findTable? name = some present → id = some present := by
  rw [requireFree]
  cases store.findTable? name with
  | none => simp
  | some present => simp

theorem requireFree_none_eq_ok_iff {name : SchemaTable} :
    store.requireFree none name = .ok () ↔ store.findTable? name = none := by
  rw [requireFree_eq_ok_iff, Option.eq_none_iff_forall_ne_some]
  simp

theorem createTable_eq_ok {schema : String} {table : EngineTable} {handle : TableHandle}
    {after : MemoryStore}
    (created : MetadataStore.createTable store schema table = (.ok handle, after)) :
    store.findTable? ⟨schema, table.name⟩ = none ∧
      after = store.addTable (.ofEngine schema table) := by
  obtain ⟨answer, left⟩ := Prod.mk.inj created
  obtain ⟨done, guarded, _⟩ := Outcome.map_eq_ok_iff.mp answer
  obtain ⟨_, checked, changed⟩ := MetadataStore.guarded_eq_ok_iff.mp (Prod.ext guarded left)
  obtain ⟨_, _, checked⟩ := Outcome.bind_eq_ok_iff.mp checked
  obtain ⟨_, free, _⟩ := Outcome.bind_eq_ok_iff.mp checked
  exact ⟨requireFree_none_eq_ok_iff.mp free, changed.symm⟩

/-- Creating a table where there is room checks its name, then the names of its columns. -/
theorem createTable_eq_match (room : store.requireRoom = .ok ()) (schema : String)
    (table : EngineTable) :
    MetadataStore.createTable store schema table =
      match (store.requireSchema schema >>= fun _ =>
        store.requireFree none ⟨schema, table.name⟩) with
      | .error fault => (.error fault, store)
      | .ok _ =>
        match MemoryTable.requireDistinct (SchemaTable.display ⟨schema, table.name⟩) []
          table.columns with
        | .error fault => (.error fault, store)
        | .ok _ => (.ok ⟨store.lastTableId + 1, ⟨schema, table.name⟩⟩,
            store.addTable (.ofEngine schema table)) := by
  have guards : MetadataStore.createTable store schema table =
      let created := MetadataStore.guarded store
        (store.requireSchema schema >>= fun _ =>
          store.requireFree none ⟨schema, table.name⟩ >>= fun _ =>
            store.requireRoom >>= fun _ =>
              MemoryTable.requireDistinct (SchemaTable.display ⟨schema, table.name⟩) []
                table.columns)
        fun _ => store.addTable (.ofEngine schema table)
      (created.1.map fun _ => ⟨store.lastTableId + 1, ⟨schema, table.name⟩⟩, created.2) := rfl
  rw [guards, room]
  cases store.requireSchema schema with
  | error fault => rfl
  | ok _ =>
      cases store.requireFree none ⟨schema, table.name⟩ with
      | error fault => rfl
      | ok _ =>
          cases MemoryTable.requireDistinct (SchemaTable.display ⟨schema, table.name⟩) []
            table.columns with
          | error fault => rfl
          | ok _ => rfl

end Checks

/-- What an accepted mutation can do to a store. -/
inductive Step (store : MemoryStore) : MemoryStore → Prop where
  | createSchema {schema : String} {properties : EngineProperties}
      (fresh : store.schemas.contains schema = false) :
      Step store { store with schemas := store.schemas.insert schema properties }
  | dropSchema {schema : String} :
      Step store { store with
        schemas := store.schemas.erase schema
        tables := store.tables.filter fun entry => decide (entry.2.name.schema ≠ schema) }
  | createTable {table : MemoryTable}
      (present : store.schemas.contains table.name.schema = true)
      (free : store.findTable? table.name = none)
      (room : ∀ limit, store.maxTables = some limit → store.tables.length < limit)
      (distinct : table.DistinctColumns) :
      Step store (store.addTable table)
  | dropTable {id : Nat} :
      Step store { store with
        tables := store.tables.filter fun entry => decide (entry.1 ≠ id) }
  | renameTable {id : Nat} {table : MemoryTable} {name : SchemaTable}
      (found : store.tables.lookup id = some table)
      (present : store.schemas.contains name.schema = true)
      (free : ∀ other, store.findTable? name = some other → id = other) :
      Step store (store.mapTable id fun table => { table with name })
  | changeTable {id : Nat} {table : MemoryTable} {change : MemoryTable → MemoryTable}
      (found : store.tables.lookup id = some table)
      (name : ∀ table, (change table).name = table.name)
      (distinct : table.DistinctColumns → (change table).DistinctColumns) :
      Step store (store.mapTable id change)

section Runs

/-- An outcome whose store is the old one or a step from it. -/
def Stays (store after : MemoryStore) : Prop :=
  after = store ∨ Step store after

theorem stays_guarded {α : Type} {checked : Except StoreFault α} {change : α → MemoryStore}
    (step : ∀ found, checked = .ok found → Step store (change found)) :
    Stays store (MetadataStore.guarded store checked change).2 := by
  cases checked with
  | error fault => exact Or.inl rfl
  | ok found => exact Or.inr (step found rfl)

/-- A change of a table that keeps its name is a step when its columns keep different
names. -/
theorem stays_mapTable {α : Type} {handle : TableHandle} {next : MemoryTable → Except StoreFault α}
    {change : α → MemoryTable → MemoryTable}
    (name : ∀ found table, (change found table).name = table.name)
    (distinct : ∀ table found, next table = .ok found → table.DistinctColumns →
      (change found table).DistinctColumns) :
    Stays store (MetadataStore.guarded store (store.table handle >>= next)
      fun found => store.mapTable handle.id (change found)).2 := by
  apply stays_guarded
  intro found checked
  obtain ⟨table, present, checked⟩ := Outcome.bind_eq_ok_iff.mp checked
  exact .changeTable (table_eq_ok_iff.mp present).1 (name found) (distinct table found checked)

theorem stays_setTable {handle : TableHandle} {change : MemoryTable → MemoryTable}
    (name : ∀ table, (change table).name = table.name)
    (columns : ∀ table, (change table).columns = table.columns) :
    Stays store (MetadataStore.guarded store (store.table handle)
      fun _ => store.mapTable handle.id change).2 := by
  apply stays_guarded
  intro table present
  refine .changeTable (table_eq_ok_iff.mp present).1 name fun distinct => ?_
  rwa [MemoryTable.DistinctColumns, columns]

/-- Whatever is called leaves the store as it is or makes a step. -/
theorem run_stays (call : StoreCall) : Stays store (call.run store).2 := by
  cases call with
  | schemaNames | hasSchema | schemaProperties | tableNames | tableHandle | tableMetadata
  | columnHandles => exact Or.inl rfl
  | createSchema schema properties =>
      apply stays_guarded
      intro _ checked
      refine .createSchema ?_
      split at checked
      · contradiction
      · rename_i fresh
        exact Bool.eq_false_iff.mpr fresh
  | dropSchema schema cascade => exact stays_guarded fun _ _ => .dropSchema
  | createTable schema table =>
      refine stays_guarded fun _ checked => ?_
      obtain ⟨_, present, checked⟩ := Outcome.bind_eq_ok_iff.mp checked
      obtain ⟨_, free, checked⟩ := Outcome.bind_eq_ok_iff.mp checked
      obtain ⟨_, room, distinct⟩ := Outcome.bind_eq_ok_iff.mp checked
      have names : (MemoryTable.ofEngine schema table).DistinctColumns :=
        (MemoryTable.requireDistinct_eq_ok_iff.mp distinct).1
      exact .createTable (requireSchema_eq_ok_iff.mp present) (requireFree_none_eq_ok_iff.mp free)
        (requireRoom_eq_ok_iff.mp room) names
  | dropTable handle => exact stays_guarded fun _ _ => .dropTable
  | renameTable handle name =>
      apply stays_guarded
      intro _ checked
      obtain ⟨table, found, checked⟩ := Outcome.bind_eq_ok_iff.mp checked
      obtain ⟨_, present, free⟩ := Outcome.bind_eq_ok_iff.mp checked
      refine .renameTable (table_eq_ok_iff.mp found).1 (requireSchema_eq_ok_iff.mp present) ?_
      intro other other_has
      exact Option.some.inj (requireFree_eq_ok_iff.mp free other other_has)
  | addColumn handle column ordinal =>
      refine stays_mapTable (fun _ _ => rfl) fun table index checked distinct => ?_
      obtain ⟨_, unused, _⟩ := Outcome.bind_eq_ok_iff.mp checked
      apply MemoryTable.distinct_insertIdx distinct
      rw [← MemoryTable.hasColumn_iff, MemoryTable.requireUnused_eq_ok_iff.mp unused]
      exact Bool.false_ne_true
  | dropColumn handle column =>
      refine stays_mapTable (fun _ _ => rfl) fun table _ _ distinct => ?_
      exact distinct.sublist (List.filter_sublist.map _)
  | renameColumn handle column name =>
      refine stays_mapTable (fun _ _ => rfl) fun table _ checked distinct => ?_
      obtain ⟨_, _, unused⟩ := Outcome.bind_eq_ok_iff.mp checked
      apply MemoryTable.distinct_rename distinct
      split at unused
      · exact Or.inl ‹_›
      · refine Or.inr ?_
        rw [← MemoryTable.hasColumn_iff, MemoryTable.requireUnused_eq_ok_iff.mp unused]
        exact Bool.false_ne_true
  | setColumnType handle column type =>
      refine stays_mapTable (fun _ _ => rfl) fun table _ _ distinct => ?_
      exact MemoryTable.distinct_mapColumn (fun _ => rfl) distinct
  | setColumnComment handle column comment =>
      refine stays_mapTable (fun _ _ => rfl) fun table _ _ distinct => ?_
      exact MemoryTable.distinct_mapColumn (fun _ => rfl) distinct
  | setTableComment handle comment => exact stays_setTable (fun _ => rfl) fun _ => rfl
  | setTableProperties handle changes => exact stays_setTable (fun _ => rfl) fun _ => rfl

end Runs

section Preservation

namespace Sound

theorem fresh (connector : String) (maxTables : Option Nat) :
    Sound { connector, maxTables } where
  ascending := List.Pairwise.nil
  given := by simp
  names := by simp
  schemas := by simp
  columns := by simp
  room := by simp

theorem createSchema (sound : store.Sound) {schema : String} {properties : EngineProperties} :
    Sound { store with schemas := store.schemas.insert schema properties } where
  ascending := sound.ascending
  given := sound.given
  names := sound.names
  schemas found := by
    simp only [Dictionary.contains_insert, sound.schemas found, Bool.or_true]
  columns := sound.columns
  room := sound.room

theorem createTable (sound : store.Sound) {table : MemoryTable}
    (present : store.schemas.contains table.name.schema = true)
    (free : store.findTable? table.name = none)
    (room : ∀ limit, store.maxTables = some limit → store.tables.length < limit)
    (distinct : table.DistinctColumns) :
    (store.addTable table).Sound := by
  have unused := sound.findTable?_eq_none_iff.mp free
  constructor
  case ascending =>
    rw [addTable, List.map_append, List.pairwise_append]
    refine ⟨sound.ascending, List.pairwise_singleton _ _, ?_⟩
    intro id member last inLast
    obtain ⟨⟨_, held⟩, inTables, rfl⟩ := List.mem_map.mp member
    obtain rfl := List.mem_singleton.mp inLast
    exact Nat.lt_succ_of_le (sound.given (sound.mem_iff.mp inTables))
  case given =>
    intro id held found
    rw [sound.lookup_addTable] at found
    split at found
    · exact Nat.le_of_eq ‹_›
    · exact Nat.le_succ_of_le (sound.given found)
  case names =>
    intro id other held otherHeld found otherFound same
    rw [sound.lookup_addTable] at found otherFound
    split at found <;> split at otherFound
    · simp_all
    · cases found
      exact absurd same.symm (unused _ _ otherFound)
    · cases otherFound
      exact absurd same (unused _ _ found)
    · exact sound.names found otherFound same
  case schemas =>
    intro id held found
    rw [sound.lookup_addTable] at found
    split at found
    · cases found
      exact present
    · exact sound.schemas found
  case columns =>
    intro id held found
    rw [sound.lookup_addTable] at found
    split at found
    · cases found
      exact distinct
    · exact sound.columns found
  case room =>
    intro limit bound
    rw [addTable, List.length_append]
    exact room limit bound

/-- Without some of its tables a store is sound, if the schemas of the others are there. -/
theorem filter (sound : store.Sound) {keep : Nat × MemoryTable → Bool}
    {schemas : Dictionary EngineProperties}
    (present : ∀ {id : Nat} {table : MemoryTable}, store.tables.lookup id = some table →
      keep (id, table) = true → schemas.contains table.name.schema = true) :
    Sound { store with schemas, tables := store.tables.filter keep } := by
  have kept {id : Nat} {table : MemoryTable}
      (found : (store.tables.filter keep).lookup id = some table) :
      store.tables.lookup id = some table ∧ keep (id, table) = true :=
    (sound.lookup_filter keep).mp found
  constructor
  case ascending => exact sound.ascending.sublist (List.filter_sublist.map _)
  case given => exact fun found => sound.given (kept found).1
  case names => exact fun found other same => sound.names (kept found).1 (kept other).1 same
  case schemas => exact fun found => present (kept found).1 (kept found).2
  case columns => exact fun found => sound.columns (kept found).1
  case room =>
    exact fun limit bound =>
      Nat.le_trans (List.length_filter_le _ _) (sound.room limit bound)

theorem mapTable (sound : store.Sound) {id : Nat} {table : MemoryTable}
    {change : MemoryTable → MemoryTable} (found : store.tables.lookup id = some table)
    (present : store.schemas.contains (change table).name.schema = true)
    (free : ∀ {other : Nat} {otherTable : MemoryTable},
      store.tables.lookup other = some otherTable →
        otherTable.name = (change table).name → id = other)
    (distinct : (change table).DistinctColumns) : (store.mapTable id change).Sound := by
  have ids : (store.mapTable id change).tables.map Prod.fst = store.tables.map Prod.fst := by
    rw [MemoryStore.mapTable, List.map_map]
    apply List.map_congr_left
    intro entry _
    simp only [Function.comp_apply]
    split <;> rfl
  -- A table of the changed store is the changed one, or another that is as it was.
  have cases {other : Nat} {held : MemoryTable}
      (holds : (store.mapTable id change).tables.lookup other = some held) :
      (other = id ∧ held = change table) ∨
        (other ≠ id ∧ store.tables.lookup other = some held) := by
    rw [lookup_mapTable] at holds
    split at holds
    · rename_i same
      rw [same, found] at holds
      exact Or.inl ⟨same, (Option.some.inj holds).symm⟩
    · exact Or.inr ⟨‹_›, holds⟩
  constructor
  case ascending =>
    rw [ids]
    exact sound.ascending
  case given =>
    intro other held holds
    rcases cases holds with ⟨rfl, rfl⟩ | ⟨_, holds⟩
    · exact sound.given found
    · exact sound.given holds
  case names =>
    intro first second held otherHeld holds otherHolds same
    rcases cases holds with ⟨rfl, rfl⟩ | ⟨_, kept⟩
    · rcases cases otherHolds with ⟨rfl, rfl⟩ | ⟨_, otherKept⟩
      · rfl
      · exact free otherKept same.symm
    · rcases cases otherHolds with ⟨rfl, rfl⟩ | ⟨_, otherKept⟩
      · exact (free kept same).symm
      · exact sound.names kept otherKept same
  case schemas =>
    intro other held holds
    rcases cases holds with ⟨rfl, rfl⟩ | ⟨_, holds⟩
    · exact present
    · exact sound.schemas holds
  case columns =>
    intro other held holds
    rcases cases holds with ⟨rfl, rfl⟩ | ⟨_, holds⟩
    · exact distinct
    · exact sound.columns holds
  case room =>
    intro limit bound
    rw [MemoryStore.mapTable, List.length_map]
    exact sound.room limit bound

/-- A step from a sound store leads to a sound store. -/
theorem step {after : MemoryStore} (sound : store.Sound) (step : Step store after) :
    after.Sound := by
  cases step with
  | createSchema => exact sound.createSchema
  | dropSchema =>
      apply sound.filter
      intro id table found outside
      rw [Dictionary.contains_erase, sound.schemas found, Bool.and_true]
      exact outside
  | createTable present free room distinct => exact sound.createTable present free room distinct
  | dropTable => exact sound.filter fun found _ => sound.schemas found
  | renameTable found present free =>
      have distinct := sound.columns found
      refine sound.mapTable found present ?_ distinct
      intro other otherTable holds same
      exact free other (sound.findTable?_eq_some_iff.mpr ⟨otherTable, holds, same⟩)
  | @changeTable id table change found name distinct =>
      refine sound.mapTable found ?_ ?_ (distinct (sound.columns found))
      · rw [name]
        exact sound.schemas found
      · intro other otherTable holds same
        exact sound.names found holds (same.trans (name table)).symm

/-- Whatever is called on a sound store leaves a sound one. -/
theorem run (sound : store.Sound) (call : StoreCall) : (call.run store).2.Sound := by
  rcases run_stays call with unchanged | step
  · rw [unchanged]
    exact sound
  · exact sound.step step

end Sound

end Preservation

end MemoryStore

end CatalogGateway
