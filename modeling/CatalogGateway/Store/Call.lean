import CatalogGateway.Store.Memory
import CatalogGateway.Store.Sealed

/-!
# Calls of a store

The operations of a metadata store as data, so that a run of any of them can be
written down, and the kinds of stores as one type.
-/

namespace CatalogGateway

/-- A store of any kind. -/
inductive Store where
  | memory (store : MemoryStore)
  | relational (store : Metastore)
  /-- A relational store that can only be read. -/
  | sealed (store : SealedStore)
deriving Inhabited

namespace Store

def read {α : Type} (store : Store) (question : {σ : Type} → [MetadataStore σ] → σ → α) : α :=
  match store with
  | memory store => question store
  | relational store => question store
  | sealed store => question store

def update {α : Type} (store : Store)
    (change : {σ : Type} → [MetadataStore σ] → σ → Except StoreFault α × σ) :
    Except StoreFault α × Store :=
  match store with
  | memory store => ((change store).1, memory (change store).2)
  | relational store => ((change store).1, relational (change store).2)
  | sealed store => ((change store).1, sealed (change store).2)

instance : MetadataStore Store where
  schemaNames store := store.read MetadataStore.schemaNames
  hasSchema store schema := store.read (MetadataStore.hasSchema · schema)
  schemaProperties store schema := store.read (MetadataStore.schemaProperties · schema)
  tableNames store schema := store.read (MetadataStore.tableNames · schema)
  tableHandle? store name := store.read (MetadataStore.tableHandle? · name)
  tableMetadata store handle := store.read (MetadataStore.tableMetadata · handle)
  columnHandles store handle := store.read (MetadataStore.columnHandles · handle)
  createSchema store schema properties :=
    store.update (MetadataStore.createSchema · schema properties)
  dropSchema store schema cascade := store.update (MetadataStore.dropSchema · schema cascade)
  createTable store schema table := store.update (MetadataStore.createTable · schema table)
  dropTable store handle := store.update (MetadataStore.dropTable · handle)
  renameTable store handle name := store.update (MetadataStore.renameTable · handle name)
  addColumn store handle column ordinal :=
    store.update (MetadataStore.addColumn · handle column ordinal)
  dropColumn store handle column := store.update (MetadataStore.dropColumn · handle column)
  renameColumn store handle column name :=
    store.update (MetadataStore.renameColumn · handle column name)
  setColumnType store handle column type :=
    store.update (MetadataStore.setColumnType · handle column type)
  setColumnComment store handle column comment :=
    store.update (MetadataStore.setColumnComment · handle column comment)
  setTableComment store handle comment :=
    store.update (MetadataStore.setTableComment · handle comment)
  setTableProperties store handle changes :=
    store.update (MetadataStore.setTableProperties · handle changes)

end Store

/-- One operation of a store with its arguments. -/
inductive StoreCall where
  | schemaNames
  | hasSchema (schema : String)
  | schemaProperties (schema : String)
  | tableNames (schema : Option String)
  | tableHandle (name : SchemaTable)
  | tableMetadata (handle : TableHandle)
  | columnHandles (handle : TableHandle)
  | createSchema (schema : String) (properties : EngineProperties)
  | dropSchema (schema : String) (cascade : Bool)
  | createTable (schema : String) (table : EngineTable)
  | dropTable (handle : TableHandle)
  | renameTable (handle : TableHandle) (name : SchemaTable)
  | addColumn (handle : TableHandle) (column : EngineColumn) (ordinal : Option Nat)
  | dropColumn (handle : TableHandle) (column : String)
  | renameColumn (handle : TableHandle) (column name : String)
  | setColumnType (handle : TableHandle) (column : String) (type : EngineType)
  | setColumnComment (handle : TableHandle) (column : String) (comment : Option String)
  | setTableComment (handle : TableHandle) (comment : Option String)
  | setTableProperties (handle : TableHandle) (changes : PropertyChanges)
deriving DecidableEq, Inhabited

/-- What an operation of a store answers. -/
inductive StoreReply where
  | done
  | flag (value : Bool)
  | schemas (names : List String)
  | properties (properties : EngineProperties)
  | tables (names : List SchemaTable)
  | found (handle : Option TableHandle)
  | created (handle : TableHandle)
  | metadata (table : EngineTable)
  | columns (handles : List ColumnHandle)
deriving DecidableEq, Inhabited

/-- The handle that an answer gives. -/
def StoreReply.handle? : StoreReply → Option TableHandle
  | .found handle => handle
  | .created handle => some handle
  | _ => none

namespace StoreCall

def answer {σ α : Type} (store : σ) (encode : α → StoreReply) (outcome : Except StoreFault α) :
    Except StoreFault StoreReply × σ :=
  (outcome.map encode, store)

/-- The answer to a mutation without a result. -/
def acknowledge {σ : Type} (outcome : Except StoreFault Unit × σ) :
    Except StoreFault StoreReply × σ :=
  (outcome.1.map fun _ => .done, outcome.2)

/-- Carry out an operation. -/
def run {σ : Type} [MetadataStore σ] (store : σ) :
    StoreCall → Except StoreFault StoreReply × σ
  | schemaNames => answer store .schemas (.ok (MetadataStore.schemaNames store))
  | hasSchema schema => answer store .flag (.ok (MetadataStore.hasSchema store schema))
  | schemaProperties schema =>
    answer store .properties (MetadataStore.schemaProperties store schema)
  | tableNames schema => answer store .tables (MetadataStore.tableNames store schema)
  | tableHandle name => answer store .found (.ok (MetadataStore.tableHandle? store name))
  | tableMetadata handle => answer store .metadata (MetadataStore.tableMetadata store handle)
  | columnHandles handle => answer store .columns (MetadataStore.columnHandles store handle)
  | createSchema schema properties =>
    acknowledge (MetadataStore.createSchema store schema properties)
  | dropSchema schema cascade => acknowledge (MetadataStore.dropSchema store schema cascade)
  | createTable schema table =>
    let outcome := MetadataStore.createTable store schema table
    (outcome.1.map .created, outcome.2)
  | dropTable handle => acknowledge (MetadataStore.dropTable store handle)
  | renameTable handle name => acknowledge (MetadataStore.renameTable store handle name)
  | addColumn handle column ordinal =>
    acknowledge (MetadataStore.addColumn store handle column ordinal)
  | dropColumn handle column => acknowledge (MetadataStore.dropColumn store handle column)
  | renameColumn handle column name =>
    acknowledge (MetadataStore.renameColumn store handle column name)
  | setColumnType handle column type =>
    acknowledge (MetadataStore.setColumnType store handle column type)
  | setColumnComment handle column comment =>
    acknowledge (MetadataStore.setColumnComment store handle column comment)
  | setTableComment handle comment =>
    acknowledge (MetadataStore.setTableComment store handle comment)
  | setTableProperties handle changes =>
    acknowledge (MetadataStore.setTableProperties store handle changes)

end StoreCall

end CatalogGateway
