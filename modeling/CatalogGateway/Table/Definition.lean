import CatalogGateway.Engine.Property
import CatalogGateway.Table.Layout
import CatalogGateway.Types.Encoding

/-!
# Definitions of schemas and tables

Schemas, tables and columns as callers describe them, in generic types.
-/

namespace CatalogGateway

/-- Where a column stands in its table. -/
inductive ColumnPosition where
  /-- After all others. -/
  | append
  /-- At an index, counted from zero. -/
  | index (ordinal : UInt64)
deriving DecidableEq, Inhabited, Repr

/-- A column of a table. -/
structure ColumnDefinition where
  name : String
  type : DataType
  comment : Option String := none
  nullable : Bool := true
  position : ColumnPosition := .append
deriving DecidableEq, Inhabited, Repr

/-- A schema. -/
structure SchemaDefinition where
  name : String
  comment : Option String := none
  properties : Properties := .empty
deriving DecidableEq, Inhabited

/-- A table. -/
structure TableDefinition where
  name : String
  columns : List ColumnDefinition := []
  comment : Option String := none
  properties : Properties := .empty
  layout : Layout := {}
deriving DecidableEq, Inhabited

namespace ColumnPosition

/-- The position of an ordinal; a negative one means the end. -/
def ofOrdinal (ordinal : Int64) : ColumnPosition :=
  if ordinal < 0 then .append else .index ordinal.toUInt64

def ordinal? : ColumnPosition → Option UInt64
  | append => none
  | index ordinal => some ordinal

def toJson : ColumnPosition → Json
  | append => .string "Append"
  | index ordinal => .variant "At" (.natural ordinal.toNat)

def ofJson? : Json → Option ColumnPosition
  | .object [("At", data)] => data.uint64?.map .index
  | value => Json.choice? [("Append", append)] value

end ColumnPosition

namespace ColumnDefinition

def toJson (column : ColumnDefinition) : Json :=
  .object [("name", .string column.name), ("ty", column.type.toJson),
    ("comment", .optionalString column.comment), ("nullable", .bool column.nullable),
    ("position", column.position.toJson)]

def ofJson? (value : Json) : Option ColumnDefinition := do
  let [name, type, comment, nullable, position] ←
    value.fields? ["name", "ty", "comment", "nullable", "position"] | none
  return {
    name := ← name.string?, type := ← DataType.ofJson? type,
    comment := ← comment.optionalString?, nullable := ← nullable.bool?,
    position := ← ColumnPosition.ofJson? position }

end ColumnDefinition

namespace SchemaDefinition

def toJson (schema : SchemaDefinition) : Json :=
  .object [("name", .string schema.name), ("comment", .optionalString schema.comment),
    ("properties", schema.properties.toJson)]

def ofJson? (value : Json) : Option SchemaDefinition := do
  let [name, comment, properties] ← value.fields? ["name", "comment", "properties"] | none
  return {
    name := ← name.string?, comment := ← comment.optionalString?,
    properties := ← Properties.ofJson? properties }

end SchemaDefinition

namespace TableDefinition

def column? (table : TableDefinition) (name : String) : Option ColumnDefinition :=
  table.columns.find? (·.name = name)

def columnNames (table : TableDefinition) : List String :=
  table.columns.map ColumnDefinition.name

def toJson (table : TableDefinition) : Json :=
  .object [("name", .string table.name),
    ("columns", .list ColumnDefinition.toJson table.columns),
    ("comment", .optionalString table.comment), ("properties", table.properties.toJson),
    ("partitioning", .list Transform.toJson table.layout.partitioning),
    ("sort_orders", .list SortOrder.toJson table.layout.sortOrders),
    ("distribution", .optional Distribution.toJson table.layout.distribution)]

def ofJson? (value : Json) : Option TableDefinition := do
  let [name, columns, comment, properties, partitioning, sortOrders, distribution] ←
    value.fields? ["name", "columns", "comment", "properties", "partitioning", "sort_orders",
      "distribution"] | none
  return {
    name := ← name.string?, columns := ← columns.list? ColumnDefinition.ofJson?,
    comment := ← comment.optionalString?, properties := ← Properties.ofJson? properties,
    layout := {
      partitioning := ← partitioning.list? Transform.ofJson?,
      sortOrders := ← sortOrders.list? SortOrder.ofJson?,
      distribution := ← distribution.optional? Distribution.ofJson? } }

end TableDefinition

end CatalogGateway
