import CatalogGateway.Store.Operations

/-!
# Stores in memory

A store that holds its schemas and tables as they are.  It may limit the number of
its tables.
-/

namespace CatalogGateway

/-- A table as the store holds it. -/
structure MemoryTable where
  name : SchemaTable
  columns : List EngineColumn
  comment : Option String
  properties : EngineProperties
deriving DecidableEq, Inhabited

/-- A store in memory. -/
structure MemoryStore where
  /-- The name of the connector, which faults show. -/
  connector : String
  /-- The largest number of tables, if there is one. -/
  maxTables : Option Nat := none
  schemas : Dictionary EngineProperties := .empty
  /-- The tables under their numbers, oldest first. -/
  tables : List (Nat × MemoryTable) := []
  lastTableId : Nat := 0
deriving DecidableEq, Inhabited

namespace MemoryTable

/-- What the store shows of a table. -/
def metadata (table : MemoryTable) : EngineTable :=
  ⟨table.name.table, table.columns, table.comment, table.properties⟩

def hasColumn (table : MemoryTable) (column : String) : Bool :=
  table.columns.any (·.name = column)

/-- Refuse the name of a column that there is no more or not yet. -/
def requireColumn (table : MemoryTable) (column : String) : Except StoreFault Unit :=
  if table.hasColumn column then .ok ()
  else .error (.columnNotFound table.name.display column)

/-- Refuse the name of a column that there is. -/
def requireUnused (table : MemoryTable) (column : String) : Except StoreFault Unit :=
  if table.hasColumn column then .error (.columnExists table.name.display column)
  else .ok ()

/-- The index of a new column, which must not lie beyond the end. -/
def newOrdinal (table : MemoryTable) (ordinal : Option Nat) : Except StoreFault Nat :=
  let index := ordinal.getD table.columns.length
  if index ≤ table.columns.length then .ok index
  else .error (.ordinalOutOfRange table.name.display index table.columns.length)

/-- Refuse a column whose name is among those seen or belongs to a column before
it. -/
def requireDistinct (table : String) (seen : List String) :
    List EngineColumn → Except StoreFault Unit
  | [] => .ok ()
  | column :: rest =>
    if column.name ∈ seen then .error (.columnExists table column.name)
    else requireDistinct table (column.name :: seen) rest

def mapColumn (table : MemoryTable) (column : String) (change : EngineColumn → EngineColumn) :
    MemoryTable :=
  { table with
    columns := table.columns.map fun present =>
      if present.name = column then change present else present }

end MemoryTable

namespace MemoryStore

/-- Refuse the name of a schema that there is not. -/
def requireSchema (store : MemoryStore) (schema : String) : Except StoreFault Unit :=
  if store.schemas.contains schema then .ok () else .error (.schemaNotFound schema)

def findTable? (store : MemoryStore) (name : SchemaTable) : Option Nat :=
  (store.tables.find? (·.2.name = name)).map Prod.fst

def table (store : MemoryStore) (handle : TableHandle) : Except StoreFault MemoryTable :=
  handle.check MemoryTable.name (store.tables.lookup handle.id)

def mapTable (store : MemoryStore) (id : Nat) (change : MemoryTable → MemoryTable) :
    MemoryStore :=
  { store with
    tables := store.tables.map fun entry =>
      if entry.1 = id then (entry.1, change entry.2) else entry }

def tablesOf (store : MemoryStore) (schema : String) : List (Nat × MemoryTable) :=
  store.tables.filter (·.2.name.schema = schema)

/-- The store without the contents that the end of its connector discards. -/
def cleared (store : MemoryStore) : MemoryStore :=
  { connector := store.connector, maxTables := store.maxTables }

/-- Refuse a table that would be one too many. -/
def requireRoom (store : MemoryStore) : Except StoreFault Unit :=
  match store.maxTables with
  | none => .ok ()
  | some limit =>
    if limit ≤ store.tables.length then .error (.tableLimitExceeded store.connector limit)
    else .ok ()

def requireFree (store : MemoryStore) (id : Option Nat) (name : SchemaTable) :
    Except StoreFault Unit :=
  match store.findTable? name with
  | none => .ok ()
  | some present =>
    if id = some present then .ok () else .error (.tableExists name.display)

instance : MetadataStore MemoryStore where
  schemaNames store := store.schemas.keys
  hasSchema store schema := store.schemas.contains schema
  schemaProperties store schema :=
    match store.schemas.get? schema with
    | some properties => .ok properties
    | none => .error (.schemaNotFound schema)
  tableNames store schema :=
    match schema with
    | none => .ok (SchemaTable.sort (store.tables.map (·.2.name)))
    | some schema => do
      store.requireSchema schema
      return SchemaTable.sort ((store.tablesOf schema).map (·.2.name))
  tableHandle? store name := (store.findTable? name).map fun id => ⟨id, name⟩
  tableMetadata store handle := (store.table handle).map MemoryTable.metadata
  columnHandles store handle := (store.table handle).map fun table =>
    table.columns.mapIdx fun ordinal column => ⟨column.name, ordinal⟩
  createSchema store schema properties :=
    MetadataStore.guarded store
      (if store.schemas.contains schema then .error (.schemaExists schema) else .ok ())
      fun _ => { store with schemas := store.schemas.insert schema properties }
  dropSchema store schema cascade :=
    MetadataStore.guarded store
      (do
        store.requireSchema schema
        if !cascade && !(store.tablesOf schema).isEmpty then .error (.schemaNotEmpty schema)
        else .ok ())
      fun _ => {
        store with
        schemas := store.schemas.erase schema
        tables := store.tables.filter (·.2.name.schema ≠ schema) }
  createTable store schema table :=
    let name : SchemaTable := ⟨schema, table.name⟩
    let id := store.lastTableId + 1
    let created := MetadataStore.guarded store
      (do
        store.requireSchema schema
        store.requireFree none name
        store.requireRoom
        MemoryTable.requireDistinct name.display [] table.columns)
      fun _ => {
        store with
        tables := store.tables ++ [(id, ⟨name, table.columns, table.comment, table.properties⟩)]
        lastTableId := id }
    (created.1.map fun _ => ⟨id, name⟩, created.2)
  dropTable store handle :=
    MetadataStore.guarded store (store.table handle) fun _ =>
      { store with tables := store.tables.filter (·.1 ≠ handle.id) }
  renameTable store handle name :=
    MetadataStore.guarded store
      (do
        let _ ← store.table handle
        store.requireSchema name.schema
        store.requireFree (some handle.id) name)
      fun _ => store.mapTable handle.id fun table => { table with name }
  addColumn store handle column ordinal :=
    MetadataStore.guarded store
      (do
        let table ← store.table handle
        table.requireUnused column.name
        table.newOrdinal ordinal)
      fun index => store.mapTable handle.id fun table =>
        { table with columns := table.columns.insertIdx index column }
  dropColumn store handle column :=
    MetadataStore.guarded store
      (do
        let table ← store.table handle
        table.requireColumn column)
      fun _ => store.mapTable handle.id fun table =>
        { table with columns := table.columns.filter (·.name ≠ column) }
  renameColumn store handle column name :=
    MetadataStore.guarded store
      (do
        let table ← store.table handle
        table.requireColumn column
        if column = name then .ok () else table.requireUnused name)
      fun _ => store.mapTable handle.id fun table =>
        table.mapColumn column fun present => { present with name }
  setColumnType store handle column type :=
    MetadataStore.guarded store
      (do
        let table ← store.table handle
        table.requireColumn column)
      fun _ => store.mapTable handle.id fun table =>
        table.mapColumn column fun present => { present with type }
  setColumnComment store handle column comment :=
    MetadataStore.guarded store
      (do
        let table ← store.table handle
        table.requireColumn column)
      fun _ => store.mapTable handle.id fun table =>
        table.mapColumn column fun present => { present with comment }
  setTableComment store handle comment :=
    MetadataStore.guarded store (store.table handle) fun _ =>
      store.mapTable handle.id fun table => { table with comment }
  setTableProperties store handle changes :=
    MetadataStore.guarded store (store.table handle) fun _ =>
      store.mapTable handle.id fun table =>
        { table with properties := EngineProperties.change table.properties changes }

end MemoryStore

end CatalogGateway
