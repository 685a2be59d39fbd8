import CatalogGateway.Table.ChangeKind
import CatalogGateway.Table.Definition

/-!
# Table changes

A request to alter a table is a list of changes, which take effect in their order.
A change of a column names it by a path of field names.
-/

namespace CatalogGateway

/-- One change of a table. -/
inductive TableChange where
  | renameTable (newName : String)
  | addColumn (path : List String) (type : DataType) (comment : Option String)
      (position : ColumnPosition) (nullable : Bool)
  | deleteColumn (path : List String) (ifExists : Bool)
  | renameColumn (path : List String) (newName : String)
  | updateColumnType (path : List String) (newType : DataType)
  | updateComment (newComment : Option String)
  | updateColumnComment (path : List String) (newComment : Option String)
  | setProperty (key value : String)
  | removeProperty (key : String)
deriving DecidableEq, Inhabited, Repr

namespace TableChange

def kind : TableChange → ChangeKind
  | renameTable _ => .renameTable
  | addColumn _ _ _ _ _ => .addColumn
  | deleteColumn _ _ => .deleteColumn
  | renameColumn _ _ => .renameColumn
  | updateColumnType _ _ => .updateColumnType
  | updateComment _ => .updateComment
  | updateColumnComment _ _ => .updateColumnComment
  | setProperty _ _ => .setProperty
  | removeProperty _ => .removeProperty

def path? : TableChange → Option (List String)
  | addColumn path _ _ _ _ | deleteColumn path _ | renameColumn path _
  | updateColumnType path _ | updateColumnComment path _ => some path
  | renameTable _ | updateComment _ | setProperty _ _ | removeProperty _ => none

/-- Add a nullable column without comment. -/
def add (name : String) (type : DataType) (position : ColumnPosition) : TableChange :=
  .addColumn [name] type none position true

/-- Delete a column that must be there. -/
def delete (name : String) : TableChange :=
  .deleteColumn [name] false

def toJson : TableChange → Json
  | renameTable newName => .variant "RenameTable" (.object [("new_name", .string newName)])
  | addColumn path type comment position nullable =>
    .variant "AddColumn"
      (.object [("field_name", .strings path), ("ty", type.toJson),
        ("comment", .optionalString comment), ("position", position.toJson),
        ("nullable", .bool nullable)])
  | deleteColumn path ifExists =>
    .variant "DeleteColumn"
      (.object [("field_name", .strings path), ("if_exists", .bool ifExists)])
  | renameColumn path newName =>
    .variant "RenameColumn"
      (.object [("field_name", .strings path), ("new_name", .string newName)])
  | updateColumnType path newType =>
    .variant "UpdateColumnType"
      (.object [("field_name", .strings path), ("new_type", newType.toJson)])
  | updateComment newComment =>
    .variant "UpdateComment" (.object [("new_comment", .optionalString newComment)])
  | updateColumnComment path newComment =>
    .variant "UpdateColumnComment"
      (.object [("field_name", .strings path), ("new_comment", .optionalString newComment)])
  | setProperty key value =>
    .variant "SetProperty" (.object [("property", .string key), ("value", .string value)])
  | removeProperty key => .variant "RemoveProperty" (.object [("property", .string key)])

def ofJson? : Json → Option TableChange
  | .object [("RenameTable", data)] => do
    let [newName] ← data.namedFields? ["new_name"] | none
    return .renameTable (← newName.string?)
  | .object [("AddColumn", data)] => do
    let [path, type, comment, position, nullable] ←
      data.namedFields? ["field_name", "ty", "comment", "position", "nullable"] | none
    return .addColumn (← path.strings?) (← DataType.ofJson? type) (← comment.optionalString?)
      (← ColumnPosition.ofJson? position) (← nullable.bool?)
  | .object [("DeleteColumn", data)] => do
    let [path, ifExists] ← data.namedFields? ["field_name", "if_exists"] | none
    return .deleteColumn (← path.strings?) (← ifExists.bool?)
  | .object [("RenameColumn", data)] => do
    let [path, newName] ← data.namedFields? ["field_name", "new_name"] | none
    return .renameColumn (← path.strings?) (← newName.string?)
  | .object [("UpdateColumnType", data)] => do
    let [path, newType] ← data.namedFields? ["field_name", "new_type"] | none
    return .updateColumnType (← path.strings?) (← DataType.ofJson? newType)
  | .object [("UpdateComment", data)] => do
    let [newComment] ← data.namedFields? ["new_comment"] | none
    return .updateComment (← newComment.optionalString?)
  | .object [("UpdateColumnComment", data)] => do
    let [path, newComment] ← data.namedFields? ["field_name", "new_comment"] | none
    return .updateColumnComment (← path.strings?) (← newComment.optionalString?)
  | .object [("SetProperty", data)] => do
    let [key, value] ← data.namedFields? ["property", "value"] | none
    return .setProperty (← key.string?) (← value.string?)
  | .object [("RemoveProperty", data)] => do
    let [key] ← data.namedFields? ["property"] | none
    return .removeProperty (← key.string?)
  | _ => none

end TableChange

end CatalogGateway
