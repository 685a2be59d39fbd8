import CatalogGateway.Engine.Table
import CatalogGateway.Provider.HiveLayout
import CatalogGateway.Provider.IcebergLayout

/-!
# Storing and reading definitions

A provider turns definitions of schemas, tables and columns into what an engine
stores, and reads them back.  Neither direction touches a store.
-/

namespace CatalogGateway

namespace Provider

/-- The stored form of a table's layout. -/
def encodeLayout (provider : Provider) (policy : LayoutPolicy) (table : TableDefinition) :
    Except CatalogFault EngineProperties :=
  match provider with
  | memory => do
    if table.layout.isPresent then
      memory.leaveOut policy table.name "layout"
        "partitioning, sort order and distribution are not stored"
    return .empty
  | hive => HiveLayout.encode policy table.name table.layout
  | iceberg => IcebergLayout.encode policy table.name table.layout

def decodeLayout (provider : Provider) (properties : EngineProperties) :
    Except CatalogFault Layout :=
  match provider with
  | memory => .ok {}
  | hive => HiveLayout.decode properties
  | iceberg => IcebergLayout.decode properties

/-- The stored properties of a schema, its comment among them. -/
def buildSchema (provider : Provider) (schema : SchemaDefinition) :
    Except CatalogFault EngineProperties := do
  let stored ← provider.schemaConverter.toEngine schema.properties
  return match schema.comment with
    | none => stored
    | some comment => stored.insert schemaCommentKey (.string comment)

def parseSchema (provider : Provider) (name : String) (stored : EngineProperties) :
    SchemaDefinition where
  name := name
  comment := (stored.get? schemaCommentKey).map PropertyValue.display
  properties := provider.schemaConverter.toGeneric (stored.erase schemaCommentKey)

/-- The stored form of a column. -/
def buildColumn (provider : Provider) (column : ColumnDefinition) :
    Except TypeFault EngineColumn := do
  let type ← provider.mapping.toEngine column.type
  return ⟨column.name, type, column.nullable, column.comment⟩

def parseColumn (provider : Provider) (position : ColumnPosition) (column : EngineColumn) :
    Except TypeFault ColumnDefinition := do
  let type ← provider.mapping.toGeneric column.type
  return ⟨column.name, type, column.comment, column.nullable, position⟩

/-- Read columns, which are placed at the indices from the given one on. -/
def parseColumns (provider : Provider) (ordinal : Nat) :
    List EngineColumn → Except TypeFault (List ColumnDefinition)
  | [] => .ok []
  | column :: rest => do
    let first ← provider.parseColumn (.index (.ofNat ordinal)) column
    return first :: (← provider.parseColumns (ordinal + 1) rest)

/-- The stored form of a table.  A failure of a column is reported before one of a
property, and that before one of the layout. -/
def buildTable (provider : Provider) (policy : LayoutPolicy) (table : TableDefinition) :
    Except Fault EngineTable := do
  let columns ← (table.columns.mapM provider.buildColumn).mapError .type
  let properties ← (provider.tableConverter.toEngine table.properties).mapError .catalog
  let layout ← (provider.encodeLayout policy table).mapError .catalog
  return ⟨table.name, columns, table.comment, properties.insertMany layout.entries⟩

/-- Read a stored table.  A failure of a column is reported before one of the
layout. -/
def parseTable (provider : Provider) (table : EngineTable) : Except Fault TableDefinition := do
  let columns ← (provider.parseColumns 0 table.columns).mapError .type
  let layout ← (provider.decodeLayout table.properties).mapError .catalog
  return {
    name := table.name, columns, comment := table.comment,
    properties := provider.tableConverter.toGeneric table.properties, layout }

end Provider

end CatalogGateway
