import CatalogGateway.Alteration.Execution
import CatalogGateway.Catalog.Bridge

/-!
# Routed operations

The operations on the schemas and tables of a bridged catalog.  Each checks its
arguments, opens a transaction and works on the copy that this gives.  Mutations hand
the copy back for the commit; when one fails there is no copy, so what it did is
forgotten.
-/

namespace CatalogGateway

/-- An operation on a bridged catalog with its arguments. -/
inductive CatalogRequest where
  | listSchemas (catalog : QualifiedName)
  | createSchema (name : QualifiedName) (comment : Option String) (properties : Properties)
  | loadSchema (name : QualifiedName)
  | schemaExists (name : QualifiedName)
  | dropSchema (name : QualifiedName) (cascade : Bool)
  | listTables (schema : QualifiedName)
  | loadTable (name : QualifiedName)
  | tableExists (name : QualifiedName)
  | createTable (name : QualifiedName) (table : TableDefinition) (policy : Option LayoutPolicy)
  | alterTable (name : QualifiedName) (changes : List TableChange)
  | dropTable (name : QualifiedName)
  | purgeTable (name : QualifiedName)
deriving DecidableEq, Inhabited

/-- What an operation on a bridged catalog answers. -/
inductive CatalogReply where
  | names (names : List QualifiedName)
  | schema (schema : SchemaDefinition)
  | table (table : TableDefinition)
  | flag (value : Bool)
deriving DecidableEq, Inhabited

namespace Bridge

variable {σ : Type} [MetadataStore σ]

/-- The copy that a transaction works on, if one can be opened. -/
abbrev Opened (σ : Type) := Except StoreFault σ

def enter (opened : Opened σ) : Except Fault σ :=
  opened.mapError .store

/-- Go on with the copy that a mutation leaves, unless the mutation fails. -/
def after {α : Type} (outcome : Except StoreFault α × σ) : Except Fault (α × σ) :=
  (outcome.1.mapError .store).map fun value => (value, outcome.2)

/-- Refuse the name of a schema that there is not. -/
def requireSchema (store : σ) (schema shown : String) : Except Fault Unit :=
  if MetadataStore.hasSchema store schema then .ok ()
  else .error (.notFound .schema shown)

def children (parent : QualifiedName) (names : List String) :
    Except Fault (List QualifiedName) :=
  (names.mapM parent.child).mapError .catalog

def readTable (bridge : Bridge) (store : σ) (shown : String) (name : SchemaTable) :
    Except Fault TableDefinition :=
  match MetadataStore.tableHandle? store name with
  | none => .error (.notFound .table shown)
  | some handle => do
    bridge.adapter.parseTable (← (MetadataStore.tableMetadata store handle).mapError .store)

def listSchemas (bridge : Bridge) (opened : Opened σ) (catalog : QualifiedName) :
    Except Fault (List QualifiedName) := do
  bridge.checkName catalog .catalog
  let store ← enter opened
  children catalog (MetadataStore.schemaNames store)

def createSchema (bridge : Bridge) (opened : Opened σ) (name : QualifiedName)
    (comment : Option String) (properties : Properties) :
    Except Fault (SchemaDefinition × σ) := do
  let parts ← bridge.schemaName name
  let stored ← (bridge.adapter.buildSchema ⟨parts.schema, comment, properties⟩).mapError .catalog
  let store ← enter opened
  if MetadataStore.hasSchema store parts.schema then
    .error (.catalog (.alreadyExists .schema name.display))
  else do
    let (_, store) ← after (MetadataStore.createSchema store parts.schema stored)
    return (bridge.adapter.parseSchema parts.schema stored, store)

def loadSchema (bridge : Bridge) (opened : Opened σ) (name : QualifiedName) :
    Except Fault SchemaDefinition := do
  let parts ← bridge.schemaName name
  let store ← enter opened
  requireSchema store parts.schema name.display
  let stored ← (MetadataStore.schemaProperties store parts.schema).mapError .store
  return bridge.adapter.parseSchema parts.schema stored

def schemaExists (bridge : Bridge) (opened : Opened σ) (name : QualifiedName) :
    Except Fault Bool := do
  let parts ← bridge.schemaName name
  let store ← enter opened
  return MetadataStore.hasSchema store parts.schema

def dropSchema (bridge : Bridge) (opened : Opened σ) (name : QualifiedName) (cascade : Bool) :
    Except Fault (Bool × σ) := do
  let parts ← bridge.schemaName name
  let store ← enter opened
  if MetadataStore.hasSchema store parts.schema then do
    let (_, store) ← after (MetadataStore.dropSchema store parts.schema cascade)
    return (true, store)
  else return (false, store)

def listTables (bridge : Bridge) (opened : Opened σ) (schema : QualifiedName) :
    Except Fault (List QualifiedName) := do
  let parts ← bridge.schemaName schema
  let store ← enter opened
  requireSchema store parts.schema schema.display
  let tables ← (MetadataStore.tableNames store (some parts.schema)).mapError .store
  children schema (tables.map SchemaTable.table)

def loadTable (bridge : Bridge) (opened : Opened σ) (name : QualifiedName) :
    Except Fault TableDefinition := do
  let parts ← bridge.tableName name
  let store ← enter opened
  bridge.readTable store name.display parts.schemaTable

def tableExists (bridge : Bridge) (opened : Opened σ) (name : QualifiedName) :
    Except Fault Bool := do
  let parts ← bridge.tableName name
  let store ← enter opened
  return (MetadataStore.tableHandle? store parts.schemaTable).isSome

def createTable (bridge : Bridge) (opened : Opened σ) (name : QualifiedName)
    (table : TableDefinition) (policy : LayoutPolicy) :
    Except Fault (TableDefinition × σ) := do
  let parts ← bridge.tableName name
  let stored ← bridge.adapter.buildTable policy { table with name := parts.table }
  let store ← enter opened
  requireSchema store parts.schema parts.schemaName.display
  if (MetadataStore.tableHandle? store parts.schemaTable).isSome then
    .error (.catalog (.alreadyExists .table name.display))
  else do
    let (_, store) ← after (MetadataStore.createTable store parts.schema stored)
    return (← bridge.readTable store name.display parts.schemaTable, store)

/-- Alter a table and read it back under the name that it ends up with. -/
def alterTable (bridge : Bridge) (opened : Opened σ) (name : QualifiedName)
    (changes : List TableChange) : Except Fault (TableDefinition × σ) := do
  let parts ← bridge.tableName name
  let store ← enter opened
  let outcome := Alteration.apply bridge.adapter store parts changes
  let renamed ← outcome.1
  let shown := (QualifiedName.ofTable parts.metalake parts.catalog renamed.schema
    renamed.table).display
  return (← bridge.readTable outcome.2 shown renamed, outcome.2)

def dropTable (bridge : Bridge) (opened : Opened σ) (name : QualifiedName) :
    Except Fault (Bool × σ) := do
  let parts ← bridge.tableName name
  let store ← enter opened
  match MetadataStore.tableHandle? store parts.schemaTable with
  | none => return (false, store)
  | some handle => do
    let (_, store) ← after (MetadataStore.dropTable store handle)
    return (true, store)

def purgeTable (bridge : Bridge) (name : QualifiedName) : Except Fault Bool := do
  bridge.checkName name .table
  .error (.catalog (.unsupportedOperation "purge table" name.display
    s!"provider `{bridge.catalog.provider}` keeps no table data to purge"))

/-- Answer a question, which leaves nothing to commit. -/
def asked {α : Type} (encode : α → CatalogReply) (outcome : Except Fault α) :
    Except Fault (CatalogReply × Option σ) :=
  outcome.map fun value => (encode value, none)

/-- Answer a mutation with the copy to commit. -/
def changed {α : Type} (encode : α → CatalogReply) (outcome : Except Fault (α × σ)) :
    Except Fault (CatalogReply × Option σ) :=
  outcome.map fun (value, store) => (encode value, some store)

/-- Carry out an operation. -/
def serve (bridge : Bridge) (opened : Opened σ) :
    CatalogRequest → Except Fault (CatalogReply × Option σ)
  | .listSchemas catalog => asked .names (bridge.listSchemas opened catalog)
  | .createSchema name comment properties =>
    changed .schema (bridge.createSchema opened name comment properties)
  | .loadSchema name => asked .schema (bridge.loadSchema opened name)
  | .schemaExists name => asked .flag (bridge.schemaExists opened name)
  | .dropSchema name cascade => changed .flag (bridge.dropSchema opened name cascade)
  | .listTables schema => asked .names (bridge.listTables opened schema)
  | .loadTable name => asked .table (bridge.loadTable opened name)
  | .tableExists name => asked .flag (bridge.tableExists opened name)
  | .createTable name table policy =>
    changed .table (bridge.createTable opened name table (policy.getD bridge.policy))
  | .alterTable name changes => changed .table (bridge.alterTable opened name changes)
  | .dropTable name => changed .flag (bridge.dropTable opened name)
  | .purgeTable name => asked .flag (bridge.purgeTable name)

end Bridge

namespace Binding

/-- Carry out an operation on the store of the connector, and commit what it
changes. -/
def serve (binding : Binding) (disk : Disk) (request : CatalogRequest) :
    Except Fault CatalogReply × Binding × Disk :=
  match binding.bridge.serve (binding.connector.begin disk) request with
  | .error fault => (.error fault, binding, disk)
  | .ok (reply, none) => (.ok reply, binding, disk)
  | .ok (reply, some working) =>
    let (connector, disk) := binding.connector.commit disk working
    (.ok reply, { binding with connector }, disk)

end Binding

end CatalogGateway
