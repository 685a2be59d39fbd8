import CatalogGateway.Engine.Table
import CatalogGateway.Name.Qualified

/-!
# Metadata stores

A metadata store holds schemas with their properties, and tables with their columns.
Tables are addressed by handles, which pair the number of a table with the name it
had when the handle was made; a handle whose table has another name by now is
refused.  Reading never changes a store.  A mutation hands back the store as it
leaves it, whether it succeeds or fails.
-/

namespace CatalogGateway

/-- A reference to a table. -/
structure TableHandle where
  /-- The number of the table, which no other table ever has. -/
  id : Nat
  /-- Its name when the handle was made. -/
  name : SchemaTable
deriving DecidableEq, Inhabited, Repr

/-- A reference to a column. -/
structure ColumnHandle where
  name : String
  /-- The index of the column in its table. -/
  ordinal : Nat
deriving DecidableEq, Inhabited, Repr

/-- Properties to set, and keys to remove. -/
abbrev PropertyChanges := Dictionary (Option PropertyValue)

/-- What can be done to a store of metadata. -/
class MetadataStore (σ : Type) where
  schemaNames : σ → List String
  hasSchema : σ → String → Bool
  schemaProperties : σ → String → Except StoreFault EngineProperties
  tableNames : σ → Option String → Except StoreFault (List SchemaTable)
  tableHandle? : σ → SchemaTable → Option TableHandle
  tableMetadata : σ → TableHandle → Except StoreFault EngineTable
  columnHandles : σ → TableHandle → Except StoreFault (List ColumnHandle)
  createSchema : σ → String → EngineProperties → Except StoreFault Unit × σ
  dropSchema : σ → String → Bool → Except StoreFault Unit × σ
  createTable : σ → String → EngineTable → Except StoreFault TableHandle × σ
  dropTable : σ → TableHandle → Except StoreFault Unit × σ
  renameTable : σ → TableHandle → SchemaTable → Except StoreFault Unit × σ
  /-- Add a column at an index, or at the end when none is given. -/
  addColumn : σ → TableHandle → EngineColumn → Option Nat → Except StoreFault Unit × σ
  dropColumn : σ → TableHandle → String → Except StoreFault Unit × σ
  renameColumn : σ → TableHandle → String → String → Except StoreFault Unit × σ
  setColumnType : σ → TableHandle → String → EngineType → Except StoreFault Unit × σ
  setColumnComment : σ → TableHandle → String → Option String → Except StoreFault Unit × σ
  setTableComment : σ → TableHandle → Option String → Except StoreFault Unit × σ
  setTableProperties : σ → TableHandle → PropertyChanges → Except StoreFault Unit × σ

namespace MetadataStore

def guarded {σ α : Type} (store : σ) (checked : Except StoreFault α) (change : α → σ) :
    Except StoreFault Unit × σ :=
  match checked with
  | .error fault => (.error fault, store)
  | .ok found => (.ok (), change found)

end MetadataStore

namespace SchemaTable

def sortsBefore (left right : SchemaTable) : Bool :=
  decide (left.schema < right.schema) ||
    left.schema = right.schema && decide (left.table ≤ right.table)

/-- The names in ascending order. -/
def sort (names : List SchemaTable) : List SchemaTable :=
  names.mergeSort sortsBefore

end SchemaTable

namespace EngineProperties

/-- The properties after setting some and removing others. -/
def change (stored : EngineProperties) (changes : PropertyChanges) : EngineProperties :=
  changes.entries.foldl (fun current entry =>
    match entry.2 with
    | some value => current.insert entry.1 value
    | none => current.erase entry.1) stored

end EngineProperties

namespace TableHandle

def check {α : Type} (handle : TableHandle) (nameOf : α → SchemaTable) (found : Option α) :
    Except StoreFault α :=
  match found with
  | none => .error (.tableNotFound handle.name.display)
  | some table =>
    if nameOf table = handle.name then .ok table
    else .error (.staleHandle handle.name.display (nameOf table).display)

end TableHandle

end CatalogGateway
