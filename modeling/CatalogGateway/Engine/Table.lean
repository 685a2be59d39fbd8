import CatalogGateway.Engine.Property
import CatalogGateway.Types.Encoding

/-!
# Engine tables

Tables and columns as an engine stores them.
-/

namespace CatalogGateway

/-- A stored column. -/
structure EngineColumn where
  name : String
  type : EngineType
  nullable : Bool := true
  comment : Option String := none
deriving DecidableEq, Inhabited, Repr

/-- A stored table. -/
structure EngineTable where
  name : String
  columns : List EngineColumn := []
  comment : Option String := none
  properties : EngineProperties := .empty
deriving DecidableEq, Inhabited

namespace EngineColumn

def toJson (column : EngineColumn) : Json :=
  .object [("name", .string column.name), ("ty", column.type.toJson),
    ("nullable", .bool column.nullable), ("comment", .optionalString column.comment)]

def ofJson? (value : Json) : Option EngineColumn := do
  let [name, type, nullable, comment] ←
    value.fields? ["name", "ty", "nullable", "comment"] | none
  return {
    name := ← name.string?, type := ← EngineType.ofJson? type, nullable := ← nullable.bool?,
    comment := ← comment.optionalString? }

end EngineColumn

namespace EngineTable

def column? (table : EngineTable) (name : String) : Option EngineColumn :=
  table.columns.find? (·.name = name)

def toJson (table : EngineTable) : Json :=
  .object [("table", .string table.name), ("columns", .list EngineColumn.toJson table.columns),
    ("comment", .optionalString table.comment), ("properties", table.properties.toJson)]

def ofJson? (value : Json) : Option EngineTable := do
  let [name, columns, comment, properties] ←
    value.fields? ["table", "columns", "comment", "properties"] | none
  return {
    name := ← name.string?, columns := ← columns.list? EngineColumn.ofJson?,
    comment := ← comment.optionalString?, properties := ← EngineProperties.ofJson? properties }

end EngineTable

end CatalogGateway
