import CatalogGateway.Catalog.Bridge
import CatalogGateway.Text.Blank
import CatalogGateway.Text.Numeral
import CatalogGateway.Time.Duration

/-!
# Factories of connectors

A factory turns the definition of a catalog into a connector.  Factories are
registered under the names of providers; a catalog is built by the factory of its own
provider.
-/

namespace CatalogGateway

/-- How a construction ends without a connector. -/
inductive ConnectFault where
  | refused (fault : Fault)
  /-- The task that builds the connector dies and answers nothing. -/
  | died (reason : String)
deriving DecidableEq, Inhabited, Repr

/-- The failure that a catalog without a connector is reported with.  Only a refusal is a cause
of its own. -/
def ConnectFault.report (catalog : CatalogDefinition) : ConnectFault → CatalogFault
  | refused fault =>
    .constructionFailed catalog.fullName catalog.provider fault.message (some fault.diagnostic)
  | died reason =>
    .constructionFailed catalog.fullName catalog.provider
      s!"construction task failed: {reason}" none

/-- How the catalogs of a provider are built. -/
structure ConnectorFactory where
  /-- The provider whose rules store the objects of the catalogs. -/
  adapter : Provider
  connect : Disk → CatalogDefinition → Except ConnectFault Connector × Disk
  /-- The time that a construction takes, or none for longer than anyone waits. -/
  delay : Option Duration := some ⟨0⟩

abbrev ProviderRegistry := Dictionary ConnectorFactory

namespace ConnectorFactory

/-- The property that limits the tables of a catalog in memory. -/
def maxTablesKey : String := "memory.max-tables"

/-- The property with the path of a relational store. -/
def pathKey : String := "metastore.path"

/-- The limit that a catalog in memory asks for. -/
def maxTables (catalog : CatalogDefinition) : Except Fault (Option Nat) :=
  match catalog.properties.get? maxTablesKey with
  | none => .ok none
  | some text =>
    match Text.uint64? (Text.trim text.toList) with
    | some limit =>
      if 0 < limit then .ok (some limit.toNat)
      else .error (invalidLimit text)
    | none => .error (invalidLimit text)
where
  invalidLimit (text : String) : Fault :=
    .invalidArgument maxTablesKey s!"expected a positive integer but got `{text}`"

def storePath (catalog : CatalogDefinition) : Except Fault String :=
  let path := Text.trimmed ((catalog.properties.get? pathKey).getD "")
  if path.isEmpty then .error (.invalidArgument pathKey "the property is required")
  else .ok path

/-- Connect to a new store in memory, within the limit the catalog asks for. -/
def connectMemory (disk : Disk) (catalog : CatalogDefinition) :
    Except ConnectFault Connector × Disk :=
  let limit := (maxTables catalog).mapError .refused
  (limit.map (Connector.inMemory catalog.fullName), disk)

def connectPath (disk : Disk) (catalog : CatalogDefinition) :
    Except ConnectFault Connector × Disk :=
  match storePath catalog with
  | .error fault => (.error (.refused fault), disk)
  | .ok path =>
    let (outcome, disk) := Connector.openPath disk catalog.fullName path
    (outcome.mapError (.refused ∘ .store), disk)

def ofProvider : Provider → ConnectorFactory
  | .memory => { adapter := .memory, connect := connectMemory }
  | .hive => { adapter := .hive, connect := connectPath }
  | .iceberg => { adapter := .iceberg, connect := connectPath }

/-- A factory of stores in memory that reads no properties and takes a given time. -/
def plain (delay : Option Duration) : ConnectorFactory where
  adapter := .memory
  connect := fun disk catalog => (.ok (.inMemory catalog.fullName none), disk)
  delay := delay

/-- A factory that builds nothing. -/
def refusing : ConnectorFactory where
  adapter := .memory
  connect := fun disk catalog =>
    (.error (.refused (.invalidArgument catalog.fullName "the engine rejected the catalog")),
      disk)

/-- Whether a construction takes longer than a limit. -/
def outlasts (factory : ConnectorFactory) (limit : Duration) : Bool :=
  match factory.delay with
  | none => true
  | some delay => decide (limit.nanoseconds < delay.nanoseconds)

end ConnectorFactory

namespace ProviderRegistry

/-- The factories of the three providers under their names. -/
def defaults : ProviderRegistry :=
  .ofList ([.memory, .hive, .iceberg].map fun provider : Provider =>
    (provider.name, ConnectorFactory.ofProvider provider))

/-- Build a catalog in a task of its own. -/
def create (registry : ProviderRegistry) (disk : Disk) (catalog : CatalogDefinition)
    (generation : Nat) : Except Fault Binding × Disk :=
  match registry.get? catalog.provider with
  | none => (.error (.catalog (.unknownProvider catalog.fullName catalog.provider)), disk)
  | some factory =>
    match factory.connect disk catalog with
    | (.ok connector, disk) =>
      (.ok ⟨{ catalog, generation, adapter := factory.adapter }, connector⟩, disk)
    | (.error fault, disk) => (.error (.catalog (fault.report catalog)), disk)

end ProviderRegistry

end CatalogGateway
