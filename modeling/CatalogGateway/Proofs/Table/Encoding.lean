import CatalogGateway.Proofs.Engine.Encoding
import CatalogGateway.Table.Change

/-!
# Encodings of tables and changes

Generic types, layouts, tables and changes of tables are read back from their encodings, and so
are the tables of an engine.  A type that nests is read by the recursion that wrote it; every
other encoding is a record or a variant, which is read back field by field.
-/

namespace CatalogGateway

mutual

/-- A generic type is read back from its encoding. -/
theorem DataType.ofJson?_toJson : ∀ type : DataType, DataType.ofJson? type.toJson = some type
  | .list element elementNullable => by
      simp [DataType.toJson, Json.variant, DataType.ofJson?, DataType.memberOfJson?,
        DataType.ofJson?_toJson element]
  | .map key value valueNullable => by
      simp [DataType.toJson, Json.variant, DataType.ofJson?, DataType.memberOfJson?,
        DataType.ofJson?_toJson key, DataType.ofJson?_toJson value]
  | .struct fields => by
      simp [DataType.toJson, Json.variant, DataType.ofJson?,
        DataFields.fieldsOfJson?_toJsons fields]
  | .decimal _ _ | .timestamp _ | .varchar _ | .fixedChar _ | .fixed _ => by
      simp [DataType.toJson, Json.variant, DataType.ofJson?, DataType.scalarOfJson?]
  | .boolean | .byte | .short | .integer | .long | .float | .double | .date | .time
  | .intervalYear | .intervalDay | .string | .binary | .uuid | .null => by rfl

theorem DataFields.fieldsOfJson?_toJsons :
    ∀ fields : DataFields, DataType.fieldsOfJson? fields.toJsons = some fields
  | .nil => rfl
  | .cons name type nullable comment rest => by
      simp [DataFields.toJsons, DataType.fieldsOfJson?, DataType.memberOfJson?,
        DataType.ofJson?_toJson type, DataFields.fieldsOfJson?_toJsons rest]

end

section Layouts

theorem Transform.ofJson?_toJson (transform : Transform) :
    Transform.ofJson? transform.toJson = some transform := by
  cases transform <;> simp [Transform.toJson, Json.variant, Transform.ofJson?]

theorem SortDirection.ofJson?_toJson (direction : SortDirection) :
    SortDirection.ofJson? direction.toJson = some direction := by
  cases direction <;> rfl

theorem NullOrdering.ofJson?_toJson (nulls : NullOrdering) :
    NullOrdering.ofJson? nulls.toJson = some nulls := by
  cases nulls <;> rfl

theorem SortOrder.ofJson?_toJson (order : SortOrder) :
    SortOrder.ofJson? order.toJson = some order := by
  simp [SortOrder.toJson, SortOrder.ofJson?, SortDirection.ofJson?_toJson,
    NullOrdering.ofJson?_toJson]

theorem Strategy.ofJson?_toJson (strategy : Strategy) :
    Strategy.ofJson? strategy.toJson = some strategy := by
  cases strategy <;> rfl

theorem Distribution.ofJson?_toJson (distribution : Distribution) :
    Distribution.ofJson? distribution.toJson = some distribution := by
  simp [Distribution.toJson, Distribution.ofJson?, Strategy.ofJson?_toJson]

end Layouts

section Tables

theorem Properties.ofJson?_toJson (properties : Properties) :
    Properties.ofJson? properties.toJson = some properties :=
  Json.dictionary?_dictionary Json.string?_string properties

theorem ColumnPosition.ofJson?_toJson (position : ColumnPosition) :
    ColumnPosition.ofJson? position.toJson = some position := by
  cases position with
  | append => rfl
  | index ordinal => simp [ColumnPosition.toJson, Json.variant, ColumnPosition.ofJson?]

theorem ColumnDefinition.ofJson?_toJson (column : ColumnDefinition) :
    ColumnDefinition.ofJson? column.toJson = some column := by
  simp [ColumnDefinition.toJson, ColumnDefinition.ofJson?, DataType.ofJson?_toJson,
    ColumnPosition.ofJson?_toJson]

theorem TableDefinition.ofJson?_toJson (table : TableDefinition) :
    TableDefinition.ofJson? table.toJson = some table := by
  simp [TableDefinition.toJson, TableDefinition.ofJson?, Properties.ofJson?_toJson, Json.list?_list
    ColumnDefinition.ofJson?_toJson, Json.list?_list Transform.ofJson?_toJson, Json.list?_list
    SortOrder.ofJson?_toJson, Json.optional?_optional Distribution.ofJson?_toJson nofun]

theorem EngineColumn.ofJson?_toJson (column : EngineColumn) :
    EngineColumn.ofJson? column.toJson = some column := by
  simp [EngineColumn.toJson, EngineColumn.ofJson?, EngineType.ofJson?_toJson]

theorem EngineTable.ofJson?_toJson (table : EngineTable) :
    EngineTable.ofJson? table.toJson = some table := by
  simp [EngineTable.toJson, EngineTable.ofJson?, Json.list?_list EngineColumn.ofJson?_toJson,
    EngineProperties.ofJson?_toJson]

end Tables

/-- A change of a table is read back from its encoding. -/
theorem TableChange.ofJson?_toJson (change : TableChange) :
    TableChange.ofJson? change.toJson = some change := by
  cases change <;>
    simp [TableChange.toJson, Json.variant, TableChange.ofJson?, DataType.ofJson?_toJson,
      ColumnPosition.ofJson?_toJson]

end CatalogGateway
