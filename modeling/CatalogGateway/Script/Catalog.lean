import CatalogGateway.Catalog.Factory
import CatalogGateway.Catalog.Routing
import CatalogGateway.Script.Session

/-!
# Scripts on catalogs

A script on a catalog sends requests to a binding, and may work on its connector
directly.  It can also build the catalog again, from another definition if it
likes; the binding is replaced only if that succeeds.
-/

namespace CatalogGateway

namespace Binding

def toJson (binding : Binding) : Json :=
  let bridge := binding.bridge
  .object [("generation", .natural bridge.generation),
    ("provider", .string bridge.catalog.provider),
    ("connector", .string binding.connector.name), ("adapter", .string bridge.adapter.name),
    ("mapping", .string bridge.adapter.mapping.name), ("policy", bridge.policy.toJson),
    ("catalog", .string bridge.catalog.fullName), ("debug", .string bridge.describe)]

end Binding

namespace CatalogReply

/-- The value that answers a request to a catalog. -/
def toJson : CatalogReply → Json
  | .names listed => .strings (listed.map QualifiedName.display)
  | .schema found => found.toJson
  | .table found => found.toJson
  | .flag value => .bool value

end CatalogReply

namespace CatalogRequest

def ofFields? (step : Json) : String → Option (QualifiedName → CatalogRequest)
  | "list_schemas" => some .listSchemas
  | "create_schema" => do
    let comment ← step.want "comment" Json.string?
    let properties ← step.want "properties" Properties.ofJson?
    return (.createSchema · comment (properties.getD .empty))
  | "load_schema" => some .loadSchema
  | "schema_exists" => some .schemaExists
  | "drop_schema" => do
    let cascade ← step.want "cascade" Json.bool?
    return (.dropSchema · (cascade.getD false))
  | "list_tables" => some .listTables
  | "load_table" => some .loadTable
  | "table_exists" => some .tableExists
  | "create_table" => do
    let table ← step.need "table" TableDefinition.ofJson?
    let policy ← step.want "policy" LayoutPolicy.ofJson?
    return (.createTable · table policy)
  | "alter_table" => do
    let changes ← step.need "changes" (Json.list? TableChange.ofJson?)
    return (.alterTable · changes)
  | "drop_table" => some .dropTable
  | "purge_table" => some .purgeTable
  | _ => none

/-- Read a request.  A fault of its name shows only when the rest could be read. -/
def ofStep? (step : Json) : Option (Except Fault CatalogRequest) := do
  let name ← step.need "name" Script.name?
  let request ← ofFields? step (← step.need "op" Json.string?)
  return name.map request

end CatalogRequest

namespace Script

/-- What steps on a binding work on: the binding, and the disk that its store may live
on. -/
structure BindingContext where
  binding : Binding
  disk : Disk

namespace BindingContext

def ofNew (binding : Binding) (disk : Disk) : BindingContext where
  binding := binding
  disk := disk.retain binding.connector.access?.toList

def step (context : BindingContext) (step : Json) : Option (Outcome × BindingContext) := do
  let { binding, disk } := context
  match ← step.need "op" Json.string? with
  | "info" => return (.ok binding.toJson, context)
  | "engine" =>
    let (answers, connector, disk) := onConnector binding.connector disk (← steps? step)
    return (.ok (.array answers), ⟨{ binding with connector }, disk⟩)
  | "shutdown_connector" =>
    let connector := binding.connector.shutdown
    return (.ok .null, ⟨{ binding with connector }, disk⟩)
  | _ =>
    match ← CatalogRequest.ofStep? step with
    | .error fault => return (.error fault, context)
    | .ok request =>
      let (outcome, binding, disk) := binding.serve disk request
      return (outcome.map CatalogReply.toJson, ⟨binding, disk⟩)

end BindingContext

/-- What the steps of a script on a catalog work on: a binding that can be built
again. -/
structure CatalogContext where
  inner : BindingContext
  /-- The definition that the next construction is made from. -/
  catalog : CatalogDefinition
  /-- The number of the last construction. -/
  generation : Nat
  policy : LayoutPolicy

namespace CatalogContext

def build (disk : Disk) (catalog : CatalogDefinition) (generation : Nat)
    (policy : LayoutPolicy) : Except Fault Binding × Disk :=
  let (outcome, disk) := ProviderRegistry.defaults.create disk catalog generation
  (outcome.map fun binding => { binding with bridge := { binding.bridge with policy } }, disk)

/-- Build the catalog again.  A failed construction counts too. -/
def rebuild (context : CatalogContext) (catalog : CatalogDefinition) : Outcome × CatalogContext :=
  let after := { context with catalog, generation := context.generation + 1 }
  match build context.inner.disk catalog after.generation context.policy with
  | (.error fault, disk) => (.error fault, { after with inner := { after.inner with disk } })
  | (.ok binding, disk) => (.ok binding.toJson, { after with inner := .ofNew binding disk })

def step (context : CatalogContext) (step : Json) : Option (Outcome × CatalogContext) :=
  if step.need "op" Json.string? = some "reopen" then do
    let catalog ← step.want "catalog" catalog?
    return context.rebuild (catalog.getD context.catalog)
  else do
    let (outcome, inner) ← context.inner.step step
    return (outcome, { context with inner })

end CatalogContext

def onCatalog (disk : Disk) (catalog : CatalogDefinition) (generation : Nat)
    (policy : LayoutPolicy) (steps : List Json) : Except Fault (List Json) :=
  let (outcome, disk) := CatalogContext.build disk catalog generation policy
  outcome.map fun binding =>
    (run CatalogContext.step { inner := .ofNew binding disk, catalog, generation, policy }
      steps).1

end Script

end CatalogGateway
