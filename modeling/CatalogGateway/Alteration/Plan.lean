import CatalogGateway.Name.Qualified
import CatalogGateway.Provider.Adapter
import CatalogGateway.Table.Change

/-!
# Plans of alterations

Before a table is touched, every change of a request is checked and turned into a
step on stored values.  Only what a change says for itself is checked here, so a plan
does not depend on any store.
-/

namespace CatalogGateway

namespace Alteration

/-- One step of an alteration, in the types and keys of the engine. -/
inductive Step where
  | renameTable (newName : String)
  | addColumn (column : EngineColumn) (ordinal : Option Nat)
  | deleteColumn (column : String) (ifExists : Bool)
  | renameColumn (column newName : String)
  | updateColumnType (column : String) (type : EngineType)
  | updateComment (comment : Option String)
  | updateColumnComment (column : String) (comment : Option String)
  | setProperty (key : String) (value : PropertyValue)
  | removeProperty (key : String)
deriving DecidableEq, Inhabited, Repr

namespace Step

def kind : Step → ChangeKind
  | renameTable _ => .renameTable
  | addColumn _ _ => .addColumn
  | deleteColumn _ _ => .deleteColumn
  | renameColumn _ _ => .renameColumn
  | updateColumnType _ _ => .updateColumnType
  | updateComment _ => .updateComment
  | updateColumnComment _ _ => .updateColumnComment
  | setProperty _ _ => .setProperty
  | removeProperty _ => .removeProperty

/-- The column whose name a step takes away. -/
def displaced? : Step → Option String
  | deleteColumn column _ | renameColumn column _ => some column
  | _ => none

end Step

def invalid (table : TableName) (kind : ChangeKind) (reason : String) : CatalogFault :=
  .invalidChange table.display kind reason

/-- A name of a table or column is not empty and has no dot. -/
def checkName (table : TableName) (kind : ChangeKind) (name : String) :
    Except CatalogFault String :=
  if name.isEmpty then .error (invalid table kind "name is empty")
  else if '.' ∈ name.toList then
    .error (invalid table kind s!"name `{name}` must not contain '.'")
  else .ok name

/-- The column that a path names, which must have one part. -/
def columnOf (table : TableName) (kind : ChangeKind) :
    List String → Except CatalogFault String
  | [] => .error (invalid table kind "field name is empty")
  | [name] => checkName table kind name
  | path =>
    if path.any (·.isEmpty) then
      .error (invalid table kind "field name contains an empty segment")
    else
      .error (.unsupportedOperation kind.display
        (table.display ++ "." ++ String.intercalate "." path)
        "nested field paths are not supported")

/-- A key of a property is not empty. -/
def checkKey (table : TableName) (kind : ChangeKind) (key : String) :
    Except CatalogFault Unit :=
  if key.isEmpty then .error (invalid table kind "property key is empty") else .ok ()

def planChange (provider : Provider) (table : TableName) (change : TableChange) :
    Except Fault Step :=
  let column (path : List String) : Except Fault String :=
    (columnOf table change.kind path).mapError .catalog
  match change with
  | .renameTable newName => do
    return .renameTable (← (checkName table change.kind newName).mapError .catalog)
  | .addColumn path type comment position nullable => do
    let name ← column path
    let built ← (provider.buildColumn ⟨name, type, comment, nullable, position⟩).mapError .type
    return .addColumn built (position.ordinal?.map UInt64.toNat)
  | .deleteColumn path ifExists => return .deleteColumn (← column path) ifExists
  | .renameColumn path newName => do
    let name ← column path
    return .renameColumn name (← (checkName table change.kind newName).mapError .catalog)
  | .updateColumnType path newType => do
    let name ← column path
    return .updateColumnType name (← (provider.mapping.toEngine newType).mapError .type)
  | .updateComment newComment => return .updateComment newComment
  | .updateColumnComment path newComment =>
    return .updateColumnComment (← column path) newComment
  | .setProperty key value => do
    (checkKey table change.kind key).mapError .catalog
    let (stored, value) ← (provider.tableConverter.toEngineEntry key value).mapError .catalog
    return .setProperty stored value
  | .removeProperty key => do
    (checkKey table change.kind key).mapError .catalog
    return .removeProperty (← (provider.tableConverter.engineKey key).mapError .catalog)

/-- The steps of a request; the first change that is invalid decides. -/
def plan (provider : Provider) (table : TableName) (changes : List TableChange) :
    Except Fault (List Step) :=
  changes.mapM (planChange provider table)

end Alteration

end CatalogGateway
