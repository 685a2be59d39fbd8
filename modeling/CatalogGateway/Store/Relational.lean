import CatalogGateway.Store.Operations

/-!
# Relational stores

A store that keeps schemas, tables and columns as rows, with properties and types as
JSON.  A column row carries the index of its column, and a listing sorts the rows.
Reading JSON refuses values that nest too deeply.
-/

namespace CatalogGateway

/-- The row of a schema. -/
structure SchemaRow where
  name : String
  properties : Json
deriving Inhabited, Repr

/-- The row of a table. -/
structure TableRow where
  id : Nat
  schema : String
  name : String
  comment : Option String
  properties : Json
deriving Inhabited, Repr

/-- The row of a column. -/
structure ColumnRow where
  table : Nat
  /-- The index of the column in its table. -/
  ordinal : Nat
  name : String
  type : Json
  nullable : Bool
  comment : Option String
deriving Inhabited, Repr

/-- A relational store. -/
structure Metastore where
  schemas : List SchemaRow := []
  tables : List TableRow := []
  columns : List ColumnRow := []
  lastTableId : Nat := 0
deriving Inhabited, Repr

namespace TableRow

def schemaTable (row : TableRow) : SchemaTable :=
  ⟨row.schema, row.name⟩

end TableRow

namespace ColumnRow

def ofColumn (table ordinal : Nat) (column : EngineColumn) : ColumnRow where
  table := table
  ordinal := ordinal
  name := column.name
  type := column.type.toJson
  nullable := column.nullable
  comment := column.comment

end ColumnRow

namespace Metastore

/-- The number of levels that a stored value may nest. -/
def maxLevels : Nat := 127

def readStored {α : Type} (decode : Json → Option α) (value : Json) : Except StoreFault α :=
  match value.excess? maxLevels 1 with
  | some column =>
    .error (.storage s!"recursion limit exceeded at line 1 column {column}")
  | none =>
    match decode value with
    | some decoded => .ok decoded
    | none => .error (.storage "stored value has another form")

def containsSchema (store : Metastore) (schema : String) : Bool :=
  store.schemas.any (·.name = schema)

/-- Refuse the name of a schema that there is not. -/
def requireSchema (store : Metastore) (schema : String) : Except StoreFault Unit :=
  if store.containsSchema schema then .ok () else .error (.schemaNotFound schema)

def schemaRow (store : Metastore) (schema : String) : Except StoreFault SchemaRow :=
  match store.schemas.find? (·.name = schema) with
  | some row => .ok row
  | none => .error (.schemaNotFound schema)

def tablesOf (store : Metastore) (schema : String) : List TableRow :=
  store.tables.filter (·.schema = schema)

def findTable? (store : Metastore) (name : SchemaTable) : Option Nat :=
  (store.tables.find? (·.schemaTable = name)).map TableRow.id

def resolve (store : Metastore) (handle : TableHandle) :
    Except StoreFault (TableRow × EngineProperties) :=
  match store.tables.find? (·.id = handle.id) with
  | none => .error (.tableNotFound handle.name.display)
  | some row => do
    let properties ← readStored EngineProperties.ofJson? row.properties
    let row ← handle.check TableRow.schemaTable (some row)
    return (row, properties)

def columnsOf (store : Metastore) (table : Nat) : List ColumnRow :=
  store.columns.filter (·.table = table)

def orderedColumns (store : Metastore) (table : Nat) : List ColumnRow :=
  (store.columnsOf table).mergeSort fun first second => decide (first.ordinal ≤ second.ordinal)

def readColumn (row : ColumnRow) : Except StoreFault EngineColumn := do
  let type ← readStored EngineType.ofJson? row.type
  return ⟨row.name, type, row.nullable, row.comment⟩

def readColumns (store : Metastore) (table : Nat) : Except StoreFault (List EngineColumn) :=
  (store.orderedColumns table).mapM readColumn

def columnOrdinal? (store : Metastore) (table : Nat) (column : String) : Option Nat :=
  ((store.columnsOf table).find? (·.name = column)).map ColumnRow.ordinal

/-- The index of a column that must be there. -/
def requireColumn (store : Metastore) (handle : TableHandle) (column : String) :
    Except StoreFault Nat :=
  match store.columnOrdinal? handle.id column with
  | some ordinal => .ok ordinal
  | none => .error (.columnNotFound handle.name.display column)

/-- Refuse the name of a column that there is. -/
def requireUnused (store : Metastore) (handle : TableHandle) (column : String) :
    Except StoreFault Unit :=
  if (store.columnOrdinal? handle.id column).isSome then
    .error (.columnExists handle.name.display column)
  else .ok ()

/-- The index of a new column, which must not lie beyond the end. -/
def newOrdinal (store : Metastore) (handle : TableHandle) (ordinal : Option Nat) :
    Except StoreFault Nat :=
  let count := (store.columnsOf handle.id).length
  let index := ordinal.getD count
  if index ≤ count then .ok index
  else .error (.ordinalOutOfRange handle.name.display index count)

def requireFree (store : Metastore) (id : Option Nat) (name : SchemaTable) :
    Except StoreFault Unit :=
  match store.findTable? name with
  | none => .ok ()
  | some present =>
    if id = some present then .ok () else .error (.tableExists name.display)

def mapTable (store : Metastore) (id : Nat) (change : TableRow → TableRow) : Metastore :=
  { store with
    tables := store.tables.map fun row => if row.id = id then change row else row }

def mapColumns (store : Metastore) (table : Nat) (which : ColumnRow → Bool)
    (change : ColumnRow → ColumnRow) : Metastore :=
  { store with
    columns := store.columns.map fun row =>
      if row.table = table && which row then change row else row }

/-- The store without some tables, and without their columns. -/
def removeTables (store : Metastore) (which : TableRow → Bool) : Metastore :=
  let removed := (store.tables.filter which).map TableRow.id
  { store with
    tables := store.tables.filter fun row => !which row
    columns := store.columns.filter fun row => !removed.contains row.table }

def insertColumn (store : Metastore) (table ordinal : Nat) (column : EngineColumn) :
    Metastore :=
  { store with columns := store.columns ++ [.ofColumn table ordinal column] }

/-- Add the columns of a new table one by one.  A column whose name is taken ends it,
and the columns before it stay. -/
def insertColumns (store : Metastore) (handle : TableHandle) (ordinal : Nat) :
    List EngineColumn → Except StoreFault Unit × Metastore
  | [] => (.ok (), store)
  | column :: rest =>
    match store.requireUnused handle column.name with
    | .error fault => (.error fault, store)
    | .ok _ => (store.insertColumn handle.id ordinal column).insertColumns handle (ordinal + 1) rest

def insertTable (store : Metastore) (schema : String) (table : EngineTable) : Metastore :=
  let id := store.lastTableId + 1
  { store with
    tables := store.tables ++ [⟨id, schema, table.name, table.comment, table.properties.toJson⟩]
    lastTableId := id }

/-- Move the columns from an index on one place further. -/
def openGap (store : Metastore) (table ordinal : Nat) : Metastore :=
  store.mapColumns table (fun row => decide (ordinal ≤ row.ordinal))
    fun row => { row with ordinal := row.ordinal + 1 }

/-- Remove a column, and move those behind it one place back. -/
def removeColumn (store : Metastore) (table ordinal : Nat) (column : String) : Metastore :=
  let removed : Metastore := {
    store with
    columns := store.columns.filter fun row => !(row.table = table && row.name = column) }
  removed.mapColumns table (fun row => decide (ordinal < row.ordinal))
    fun row => { row with ordinal := row.ordinal - 1 }

def updateColumn (store : Metastore) (handle : TableHandle) (column : String)
    (change : ColumnRow → ColumnRow) : Except StoreFault Unit × Metastore :=
  MetadataStore.guarded store
    (do
      let _ ← store.resolve handle
      store.requireColumn handle column)
    fun _ => store.mapColumns handle.id (·.name = column) change

instance : MetadataStore Metastore where
  schemaNames store :=
    (store.schemas.map SchemaRow.name).mergeSort fun first second => decide (first ≤ second)
  hasSchema store schema := store.containsSchema schema
  schemaProperties store schema := do
    readStored EngineProperties.ofJson? (← store.schemaRow schema).properties
  tableNames store schema :=
    match schema with
    | none => .ok (SchemaTable.sort (store.tables.map TableRow.schemaTable))
    | some schema => do
      store.requireSchema schema
      return SchemaTable.sort ((store.tablesOf schema).map TableRow.schemaTable)
  tableHandle? store name := (store.findTable? name).map fun id => ⟨id, name⟩
  tableMetadata store handle := do
    let (row, properties) ← store.resolve handle
    return ⟨row.name, ← store.readColumns handle.id, row.comment, properties⟩
  columnHandles store handle := do
    let _ ← store.resolve handle
    return (← store.readColumns handle.id).mapIdx fun ordinal column => ⟨column.name, ordinal⟩
  createSchema store schema properties :=
    MetadataStore.guarded store
      (if store.containsSchema schema then .error (.schemaExists schema) else .ok ())
      fun _ => { store with schemas := store.schemas ++ [⟨schema, properties.toJson⟩] }
  dropSchema store schema cascade :=
    MetadataStore.guarded store
      (do
        store.requireSchema schema
        if !cascade && !(store.tablesOf schema).isEmpty then .error (.schemaNotEmpty schema)
        else .ok ())
      fun _ =>
        let emptied := store.removeTables (·.schema = schema)
        { emptied with schemas := emptied.schemas.filter (·.name ≠ schema) }
  createTable store schema table :=
    let name : SchemaTable := ⟨schema, table.name⟩
    let handle : TableHandle := ⟨store.lastTableId + 1, name⟩
    match (do store.requireSchema schema; store.requireFree none name) with
    | .error fault => (.error fault, store)
    | .ok _ =>
      let filled := (store.insertTable schema table).insertColumns handle 0 table.columns
      (filled.1.map fun _ => handle, filled.2)
  dropTable store handle :=
    MetadataStore.guarded store (store.resolve handle) fun _ =>
      store.removeTables (·.id = handle.id)
  renameTable store handle name :=
    MetadataStore.guarded store
      (do
        let _ ← store.resolve handle
        store.requireSchema name.schema
        store.requireFree (some handle.id) name)
      fun _ => store.mapTable handle.id fun row =>
        { row with schema := name.schema, name := name.table }
  addColumn store handle column ordinal :=
    MetadataStore.guarded store
      (do
        let _ ← store.resolve handle
        store.requireUnused handle column.name
        store.newOrdinal handle ordinal)
      fun index => (store.openGap handle.id index).insertColumn handle.id index column
  dropColumn store handle column :=
    MetadataStore.guarded store
      (do
        let _ ← store.resolve handle
        store.requireColumn handle column)
      fun ordinal => store.removeColumn handle.id ordinal column
  renameColumn store handle column name :=
    MetadataStore.guarded store
      (do
        let _ ← store.resolve handle
        let _ ← store.requireColumn handle column
        if column = name then .ok () else store.requireUnused handle name)
      fun _ => store.mapColumns handle.id (·.name = column) fun row => { row with name }
  setColumnType store handle column type :=
    store.updateColumn handle column fun row => { row with type := type.toJson }
  setColumnComment store handle column comment :=
    store.updateColumn handle column fun row => { row with comment }
  setTableComment store handle comment :=
    MetadataStore.guarded store (store.resolve handle) fun _ =>
      store.mapTable handle.id fun row => { row with comment }
  setTableProperties store handle changes :=
    MetadataStore.guarded store (store.resolve handle) fun (_, properties) =>
      store.mapTable handle.id fun row =>
        { row with properties := (properties.change changes).toJson }

end Metastore

end CatalogGateway
