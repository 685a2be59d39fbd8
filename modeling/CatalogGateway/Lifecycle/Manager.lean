import CatalogGateway.Catalog.Factory
import CatalogGateway.Catalog.Routing
import CatalogGateway.Lifecycle.Pass

/-!
# The lifecycle manager

The manager keeps the published catalogs together with their connectors.  Callers may
hold on to a catalog that they have resolved; its connector is shut down when the
catalog is neither published nor held any more.  A pass may stay under way for as long
as its constructions take.
-/

namespace CatalogGateway

/-- How often the connectors of a provider were made and shut down. -/
structure Tally where
  created : Nat := 0
  shutDown : Nat := 0
deriving DecidableEq, Inhabited, Repr

/-- A lifecycle manager. -/
structure Manager where
  config : LifecycleConfig := {}
  providers : ProviderRegistry := .defaults
  disk : Disk := {}
  ledger : Ledger := {}
  /-- The catalogs that are in use, each with its connector. -/
  bindings : List Binding := []
  /-- The catalogs that callers hold, by what the callers call them. -/
  held : Dictionary Bridge := .empty
  /-- The counts of connectors by provider. -/
  tallies : Dictionary Tally := .empty
  underWay : Option OpenPass := none

namespace Manager

/-- The counts of a provider's connectors. -/
def tally (manager : Manager) (provider : String) : Tally :=
  (manager.tallies.get? provider).getD {}

/-- The number of a provider's connectors that are in use. -/
def live (manager : Manager) (provider : String) : Nat :=
  (manager.bindings.filter fun binding => binding.bridge.catalog.provider = provider).length

/-- The manager with one more connector counted as made. -/
def countCreated (manager : Manager) (provider : String) : Manager :=
  let tally := manager.tally provider
  { manager with
    tallies := manager.tallies.insert provider { tally with created := tally.created + 1 } }

/-- The manager with so many more shutdowns of a connector counted. -/
def countShutDown (manager : Manager) (provider : String) (times : Nat) : Manager :=
  let tally := manager.tally provider
  { manager with
    tallies := manager.tallies.insert provider { tally with shutDown := tally.shutDown + times } }

/-- Whether the construction of a catalog takes longer than a time. -/
def outlasts (manager : Manager) (catalog : CatalogDefinition) (time : Duration) : Bool :=
  match manager.providers.get? catalog.provider with
  | some factory => factory.outlasts time
  | none => false

/-- Build a catalog within the time that the configuration allows. -/
def construct (manager : Manager) (disk : Disk) (catalog : CatalogDefinition)
    (generation : Nat) : Except Fault Binding × Disk :=
  let limit := manager.config.constructionTimeout
  if manager.outlasts catalog limit then
    (.error (.catalog (.constructionTimeout catalog.fullName catalog.provider limit)), disk)
  else
    let (outcome, disk) := manager.providers.create disk catalog generation
    (outcome.map fun binding =>
      { binding with bridge := { binding.bridge with policy := manager.config.layoutPolicy } },
      disk)

/-- Carry out constructions one after another. -/
def constructAll (manager : Manager) (disk : Disk) :
    List Build → List (Except Fault Binding) × Disk
  | [] => ([], disk)
  | build :: rest =>
    let (outcome, disk) := manager.construct disk build.catalog build.generation
    let (outcomes, disk) := manager.constructAll disk rest
    (outcome :: outcomes, disk)

/-- The constructions that are under way. -/
def builds (manager : Manager) : List Build :=
  manager.underWay.elim [] OpenPass.builds

/-- Whether a construction is under way that will not end in time. -/
def isStuck (manager : Manager) : Bool :=
  manager.builds.any fun build =>
    manager.outlasts build.catalog manager.config.constructionTimeout

/-- The number of a provider's connectors that the pass under way has made already:
those of the constructions that take no time. -/
def madeUnderWay (manager : Manager) (provider : String) : Nat :=
  (manager.builds.filter fun build =>
    build.catalog.provider = provider && !manager.outlasts build.catalog ⟨0⟩ &&
      (manager.construct manager.disk build.catalog build.generation).1.isOk).length

/-- Whether a catalog is published or held. -/
def isInUse (manager : Manager) (generation : Nat) : Bool :=
  (manager.ledger.registry.values ++ manager.held.values).any fun bridge =>
    bridge.generation = generation

/-- Shut down the connectors of the catalogs that are no longer in use. -/
def release (manager : Manager) : Manager :=
  let (used, unused) :=
    manager.bindings.partition fun binding => manager.isInUse binding.bridge.generation
  unused.foldl (fun current binding => current.countShutDown binding.bridge.catalog.provider 1)
    { manager with
      bindings := used
      disk := manager.disk.retain (used.filterMap fun binding => binding.connector.access?) }

def beginPass (manager : Manager) (survey : Survey) : Manager :=
  let (opened, ledger) := manager.ledger.beginPass manager.config.naming survey
  { manager with ledger, underWay := some opened }

def endPass (manager : Manager) : ReconcileReport × Manager :=
  match manager.underWay with
  | none => ({}, manager)
  | some opened =>
    let (outcomes, disk) := manager.constructAll manager.disk opened.builds
    let result := manager.ledger.endPass opened outcomes
    let counted := result.built.foldl
      (fun current binding => current.countCreated binding.bridge.catalog.provider) manager
    (result.report,
      release {
        counted with
        ledger := result.ledger
        bindings := manager.bindings ++ result.built
        disk
        underWay := none })

/-- Bring the published catalogs in line with a survey. -/
def reconcileSurvey (manager : Manager) (survey : Survey) : ReconcileReport × Manager :=
  (manager.beginPass survey).endPass

/-- Bring the published catalogs in line with a list of desired ones. -/
def reconcileWith (manager : Manager) (catalogs : List CatalogDefinition) :
    ReconcileReport × Manager :=
  manager.reconcileSurvey { catalogs }

/-- Ask the metadata service for the desired catalogs. -/
def survey (manager : Manager) (service : Option MetadataService) : Except Fault Survey :=
  match service with
  | none =>
    .error (.catalog (.unsupportedOperation "reconcile" "lifecycle manager"
      "no metadata service is configured"))
  | some service => Survey.ask manager.config service

/-- Bring the published catalogs in line with those of the metadata service. -/
def reconcile (manager : Manager) (service : Option MetadataService) :
    Except Fault ReconcileReport × Manager :=
  match manager.survey service with
  | .error fault => (.error fault, manager)
  | .ok survey =>
    let (report, manager) := manager.reconcileSurvey survey
    (.ok report, manager)

/-- The published catalog that a name lies in. -/
def resolve (manager : Manager) (name : QualifiedName) : Except Fault Bridge :=
  match name.catalog? with
  | none => .error (.catalog (.invalidName name.display .catalog name.kind))
  | some catalog =>
    manager.ledger.resolve (manager.config.naming.key name.metalake catalog)

def hold (manager : Manager) (key label : String) : Except Fault Manager :=
  (manager.ledger.resolve key).map fun bridge =>
    release { manager with held := manager.held.insert label bridge }

/-- Let go of a catalog; the result says whether it was held. -/
def letGo (manager : Manager) (label : String) : Bool × Manager :=
  (manager.held.contains label, release { manager with held := manager.held.erase label })

/-- A catalog in use with its connector. -/
def binding? (manager : Manager) (bridge : Bridge) : Option Binding :=
  manager.bindings.find? fun binding => binding.bridge.generation = bridge.generation

/-- The manager after the use of a connector, which may have shut it down. -/
def putBack (manager : Manager) (binding : Binding) (disk : Disk) : Manager :=
  let before := (manager.binding? binding.bridge).elim 0 fun present =>
    present.connector.shutdowns
  let counted := manager.countShutDown binding.bridge.catalog.provider
    (binding.connector.shutdowns - before)
  { counted with
    disk
    bindings := manager.bindings.map fun present =>
      if present.bridge.generation = binding.bridge.generation then binding else present }

/-- Let every construction from now on go ahead. -/
def unblock (manager : Manager) : Manager :=
  { manager with
    providers := manager.providers.mapValues fun factory =>
      { factory with delay := some (factory.delay.getD ⟨0⟩) } }

end Manager

end CatalogGateway
