import CatalogGateway.Alteration.Execution
import CatalogGateway.Script.Answer
import CatalogGateway.Script.Reading
import CatalogGateway.Store.Connector

/-!
# Scripts on stores

A script on a store opens and ends transactions on a connector, and calls the
operations of the store in between.  It keeps handles of tables under labels, to use
them in later steps.
-/

namespace CatalogGateway

/-- Handles of tables under the labels that a script gives them. -/
abbrev Labels := Dictionary TableHandle

namespace Labels

def handle? (labels : Labels) : Json → Option TableHandle
  | .string label => labels.get? label
  | value => do
    let id ← value.need "id" Json.uint64?
    return ⟨id.toNat, ← value.need "schema" Json.string?, ← value.need "table" Json.string?⟩

end Labels

namespace StoreCall

/-- Read an operation that does not refer to a table by a handle. -/
def unlabelled? (step : Json) : String → Option StoreCall
  | "list_schemas" => some .schemaNames
  | "schema_exists" => do return .hasSchema (← step.need "schema" Json.string?)
  | "schema_properties" => do return .schemaProperties (← step.need "schema" Json.string?)
  | "list_tables" => do return .tableNames (← step.want "schema" Json.string?)
  | "handle" => do
    let schema ← step.need "schema" Json.string?
    return .tableHandle ⟨schema, ← step.need "table" Json.string?⟩
  | "create_schema" => do
    let properties ← step.want "properties" EngineProperties.ofJson?
    return .createSchema (← step.need "schema" Json.string?) (properties.getD .empty)
  | "drop_schema" => do
    let cascade ← step.want "cascade" Json.bool?
    return .dropSchema (← step.need "schema" Json.string?) (cascade.getD false)
  | "create_table" => do
    let table ← step.need "metadata" EngineTable.ofJson?
    return .createTable (← step.need "schema" Json.string?) table
  | _ => none

def onTable? (step : Json) (handle : TableHandle) (name : String) : Option StoreCall := do
  let column := step.need "column" Json.string?
  match name with
  | "metadata" => return .tableMetadata handle
  | "columns" => return .columnHandles handle
  | "drop_table" => return .dropTable handle
  | "rename_table" =>
    let schema ← step.need "schema" Json.string?
    return .renameTable handle ⟨schema, ← step.need "table" Json.string?⟩
  | "add_column" =>
    let ordinal ← step.want "ordinal" Json.uint64?
    return .addColumn handle (← step.need "metadata" EngineColumn.ofJson?)
      (ordinal.map UInt64.toNat)
  | "drop_column" =>
    let _ ← step.want "column_ordinal" Json.uint64?
    return .dropColumn handle (← column)
  | "rename_column" =>
    return .renameColumn handle (← column) (← step.need "new_name" Json.string?)
  | "set_column_type" =>
    return .setColumnType handle (← column) (← step.need "type" EngineType.ofJson?)
  | "set_column_comment" =>
    return .setColumnComment handle (← column) (← step.want "comment" Json.string?)
  | "set_table_comment" =>
    return .setTableComment handle (← step.want "comment" Json.string?)
  | "set_table_properties" =>
    return .setTableProperties handle
      (← step.need "properties" (Json.dictionary? (Json.optional? PropertyValue.ofJson?)))
  | _ => none

def ofStep? (labels : Labels) (step : Json) : Option StoreCall := do
  let name ← step.need "op" Json.string?
  match unlabelled? step name with
  | some call => return call
  | none => onTable? step (← step.need "handle" labels.handle?) name

end StoreCall

namespace TableHandle

/-- The number and the name of a handle. -/
def toJson (handle : TableHandle) : Json :=
  .object [("id", .natural handle.id), ("name", .string handle.name.display)]

end TableHandle

namespace ColumnHandle

/-- The key of a column, which is its name, with the name and the index. -/
def toJson (handle : ColumnHandle) : Json :=
  .array [.string handle.name, .string handle.name, .natural handle.ordinal]

end ColumnHandle

namespace StoreReply

/-- The value that answers an operation. -/
def toJson : StoreReply → Json
  | .done => .null
  | .flag value => .bool value
  | .schemas names => .strings names
  | .properties stored => stored.toJson
  | .tables names => .strings (names.map SchemaTable.display)
  | .found handle => .optional TableHandle.toJson handle
  | .created handle => handle.toJson
  | .metadata table => table.toJson
  | .columns handles => .list ColumnHandle.toJson handles

end StoreReply

namespace Store

/-- The number of a table with its metadata. -/
def tableContent (store : Store) (handle : TableHandle) : Except StoreFault Json := do
  let table ← MetadataStore.tableMetadata store handle
  return .array [.natural handle.id, table.toJson]

/-- The name of a schema with its properties and tables. -/
def schemaContent (store : Store) (schema : String) : Except StoreFault Json := do
  let properties ← MetadataStore.schemaProperties store schema
  let names ← MetadataStore.tableNames store (some schema)
  let handles := names.filterMap (MetadataStore.tableHandle? store)
  return .array [.string schema, properties.toJson,
    .array (← handles.mapM store.tableContent)]

/-- All schemas with their tables. -/
def content (store : Store) : Except StoreFault Json := do
  return .array (← (MetadataStore.schemaNames store).mapM store.schemaContent)

end Store

namespace Script

/-- What the steps of a script on a store work on: a session and the handles that the
script keeps. -/
structure StoreContext where
  session : Session
  labels : Labels := .empty

namespace StoreContext

/-- Answer with nothing and go on with another session. -/
def goOn (context : StoreContext) (session : Session) : Option (Outcome × StoreContext) :=
  some (.ok .null, { context with session })

def label? (step : Json) : StoreCall → Option (Option String)
  | .tableHandle _ | .createTable _ _ => step.want "as" Json.string?
  | _ => some none

/-- Call an operation in the open transaction. -/
def call (context : StoreContext) (step : Json) : Option (Outcome × StoreContext) := do
  let call ← StoreCall.ofStep? context.labels step
  let label ← label? step call
  let (outcome, session) ← context.session.call? call
  let handle := outcome.toOption.bind StoreReply.handle?
  let labels := match label, handle with
    | some label, some handle => context.labels.insert label handle
    | _, _ => context.labels
  return ((outcome.mapError .store).map StoreReply.toJson, { session, labels })

/-- Alter a table in the open transaction. -/
def alter (context : StoreContext) (step : Json) : Option (Outcome × StoreContext) := do
  let provider ← step.need "provider" provider?
  let name ← step.need "name" name?
  let changes ← step.need "changes" (Json.list? TableChange.ofJson?)
  let store ← context.session.working
  match name.bind fun name => name.asTable.mapError .catalog with
  | .error fault => return (.error fault, context)
  | .ok table =>
    let (outcome, store) := Alteration.apply provider store table changes
    return (outcome.map fun name => .string name.display,
      { context with session := { context.session with working := some store } })

def step (context : StoreContext) (step : Json) : Option (Outcome × StoreContext) := do
  let session := context.session
  match ← step.need "op" Json.string? with
  | "name" => return (.ok (.string session.connector.name), context)
  | "begin" =>
    let (outcome, session) := session.begin
    return ((outcome.mapError .store).map fun _ => .null, { context with session })
  | "commit" => context.goOn (← session.commit?)
  | "rollback" => context.goOn session.rollback
  | "shutdown" => context.goOn session.shutdown
  | "dump" => return ((← session.working).content.mapError .store, context)
  | "apply" => context.alter step
  | _ => context.call step

end StoreContext

/-- Run a script on a connector.  A transaction that is open at the end is dropped. -/
def onConnector (connector : Connector) (disk : Disk) (steps : List Json) :
    List Json × Connector × Disk :=
  let (answers, context) := run StoreContext.step { session := { connector, disk } } steps
  (answers, context.session.connector, context.session.disk)

end Script

end CatalogGateway
