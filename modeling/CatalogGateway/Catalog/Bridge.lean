import CatalogGateway.Catalog.Definition
import CatalogGateway.Table.LayoutPolicy
import CatalogGateway.Provider.Basic
import CatalogGateway.Store.Connector
import CatalogGateway.Text.Escaped

/-!
# Bridges

A bridge is a catalog that has been built: its definition, the adapter that stores
its objects, and the policy for layouts.  Generations tell apart the bridges that
have been built for the same catalog.  A binding is a bridge with its connector.
-/

namespace CatalogGateway

/-- A catalog that has been built. -/
structure Bridge where
  catalog : CatalogDefinition
  /-- The number of the construction, which no other construction has. -/
  generation : Nat
  /-- The provider whose rules store the catalog's objects. -/
  adapter : Provider
  /-- The policy for tables that are created without one of their own. -/
  policy : LayoutPolicy := .bestEffort
deriving DecidableEq, Inhabited

/-- A catalog that has been built, with the connector to its store. -/
structure Binding where
  bridge : Bridge
  connector : Connector
deriving Inhabited

namespace Bridge

/-- Refuse a name of another kind, or one outside the catalog. -/
def checkName (bridge : Bridge) (name : QualifiedName) (expected : EntityKind) :
    Except Fault Unit := do
  (name.require expected).mapError .catalog
  if name.metalake = bridge.catalog.metalake ∧ name.catalog? = some bridge.catalog.name then
    .ok ()
  else .error (.catalog (.catalogMismatch name.display bridge.catalog.fullName))

def schemaName (bridge : Bridge) (name : QualifiedName) : Except Fault SchemaName := do
  bridge.checkName name .schema
  name.asSchema.mapError .catalog

def tableName (bridge : Bridge) (name : QualifiedName) : Except Fault TableName := do
  bridge.checkName name .table
  name.asTable.mapError .catalog

/-- A description of the bridge for diagnosis. -/
def describe (bridge : Bridge) : String :=
  let fields := String.intercalate ", " [
    "catalog: " ++ Text.escaped bridge.catalog.fullName,
    "provider: " ++ Text.escaped bridge.catalog.provider,
    s!"generation: {bridge.generation}",
    "layout_policy: " ++ bridge.policy.label]
  "CatalogConnector \x7b " ++ fields ++ " \x7d"

end Bridge

end CatalogGateway
