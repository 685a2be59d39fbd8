/-!
# Kinds of table changes

The nine changes that a request to alter a table may list.
-/

namespace CatalogGateway

/-- The kind of one change of a table. -/
inductive ChangeKind where
  | renameTable
  | addColumn
  | deleteColumn
  | renameColumn
  | updateColumnType
  | updateComment
  | updateColumnComment
  | setProperty
  | removeProperty
deriving DecidableEq, Inhabited, Repr

namespace ChangeKind

/-- The kind as it is shown and encoded. -/
def display : ChangeKind → String
  | renameTable => "RenameTable"
  | addColumn => "AddColumn"
  | deleteColumn => "DeleteColumn"
  | renameColumn => "RenameColumn"
  | updateColumnType => "UpdateColumnType"
  | updateComment => "UpdateComment"
  | updateColumnComment => "UpdateColumnComment"
  | setProperty => "SetProperty"
  | removeProperty => "RemoveProperty"

def named : List (String × ChangeKind) :=
  [renameTable, addColumn, deleteColumn, renameColumn, updateColumnType, updateComment,
    updateColumnComment, setProperty, removeProperty].map fun kind => (kind.display, kind)

end ChangeKind

end CatalogGateway
