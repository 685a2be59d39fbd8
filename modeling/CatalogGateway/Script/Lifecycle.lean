import CatalogGateway.Lifecycle.Worker
import CatalogGateway.Script.Catalog

/-!
# Scripts on the lifecycle

A script on the lifecycle drives a supervised manager, and changes the catalogs of a
metadata service in memory.  The manager may lack a metadata service, and then does
not see what the script does to this one.
-/

namespace CatalogGateway

namespace ReconcileReport

def toJson (report : ReconcileReport) : Json :=
  .object [("created", .strings report.created), ("reloaded", .strings report.reloaded),
    ("dropped", .strings report.dropped), ("unchanged", .strings report.unchanged),
    ("failed", .list (fun (key, fault) =>
      .array [.string key, fault.diagnostic.answer]) report.failed),
    ("success", .bool report.isSuccess), ("noop", .bool report.isNoop),
    ("first_error", .optionalString (report.firstFault?.map Fault.message))]

end ReconcileReport

namespace Ledger

/-- The published catalogs with the numbers of their constructions. -/
def registryJson (ledger : Ledger) : Json :=
  let registry := ledger.registry
  .object [("names", .strings registry.keys), ("len", .natural registry.size),
    ("empty", .bool registry.isEmpty),
    ("list", .list (fun bridge =>
      .array [.string bridge.catalog.fullName, .natural bridge.generation]) registry.values)]

/-- The states of all catalogs that were ever desired. -/
def statesJson (ledger : Ledger) : Json :=
  .list (fun (key, state) => .array [.string key, .string state.display]) ledger.states.entries

end Ledger

namespace Script

/-- A factory of a kind, and the name of the provider that it is registered under. -/
structure Registration where
  kind : String
  provider : String
  factory : ConnectorFactory

namespace Registration

/-- The time that the slow factories take: five milliseconds. -/
def slowness : Duration := .ofMilliseconds 5

/-- Read a registration: the kind of a factory and the name of a provider.  The
factories of the three providers keep to their own names. -/
def ofJson? (value : Json) : Option Registration := do
  let (kind, provider) ← Json.pair? Json.string? Json.string? value
  let usual (own : Provider) : Registration := ⟨kind, own.name, .ofProvider own⟩
  match kind with
  | "memory" => some (usual .memory)
  | "hive" => some (usual .hive)
  | "iceberg" => some (usual .iceberg)
  | "failing" => some ⟨kind, provider, .refusing⟩
  | "tracked" => some ⟨kind, provider, .plain (some ⟨0⟩)⟩
  | "slow" => some ⟨kind, provider, .plain (some slowness)⟩
  | "hanging" => some ⟨kind, provider, .plain none⟩
  | _ => none

/-- The factories that registrations leave, of which later ones replace earlier
ones; without any registrations, the usual factories. -/
def registry (registrations : Option (List Registration)) : ProviderRegistry :=
  registrations.elim .defaults fun all =>
    .ofList (all.map fun registration => (registration.provider, registration.factory))

end Registration

/-- What the steps of a script on the lifecycle work on: a supervised manager and a
metadata service. -/
structure LifecycleContext where
  supervised : Supervised := {}
  service : MemoryService := {}
  /-- Whether the manager asks the service. -/
  connected : Bool := true
  registrations : List Registration := []

namespace LifecycleContext

abbrev Step := Option (Outcome × LifecycleContext)

/-- The service that the manager asks. -/
def source (context : LifecycleContext) : Option MetadataService :=
  if context.connected then some context.service.questions else none

def manager (context : LifecycleContext) : Manager := context.supervised.manager

def withManager (context : LifecycleContext) (manager : Manager) : LifecycleContext :=
  { context with supervised := { context.supervised with manager } }

/-- Answer and leave all as it is. -/
def tell (context : LifecycleContext) (outcome : Outcome) : Step :=
  some (outcome, context)

/-- Answer with nothing and go on with another manager. -/
def goOn (context : LifecycleContext) (manager : Manager) : Step :=
  some (.ok .null, context.withManager manager)

/-- Answer with a value and go on with another service. -/
def serve (context : LifecycleContext) (value : Json) (service : MemoryService) : Step :=
  some (.ok value, { context with service })

/-- Show a catalog in use. -/
def show? (context : LifecycleContext) : Except Fault Bridge → Step
  | .error fault => context.tell (.error fault)
  | .ok bridge => do
    let binding ← context.manager.binding? bridge
    context.tell (.ok (.object [("info", binding.toJson), ("catalog", bridge.catalog.toJson)]))

/-- The counts of the connectors that the last factory of a kind under a provider has
made, and the number of those in use, if there is such a factory.  A factory that
another one has replaced makes none. -/
def counts? (context : LifecycleContext) (kind provider : String) : Option (Tally × Nat) :=
  let kinds := (context.registrations.filter (·.provider = provider)).map Registration.kind
  if !kinds.contains kind then none
  else if kinds.getLast? = some kind then
    let tally := context.manager.tally provider
    let made := context.manager.madeUnderWay provider
    some ({ tally with created := tally.created + made }, context.manager.live provider + made)
  else some ({}, 0)

/-- Start the background worker. -/
def start (context : LifecycleContext) (hasRuntime : Bool) : Step :=
  let (outcome, worker) := context.supervised.worker.start context.connected hasRuntime
  some (outcome.map fun _ => .null,
    { context with supervised := { context.supervised with worker } })

/-- The published catalog of a key, or the held one of a label. -/
def bridge? (context : LifecycleContext) (step : Json) : Option (Except Fault Bridge) := do
  match ← step.want "key" Json.string? with
  | some key => return context.manager.ledger.resolve key
  | none =>
    let bridge ← context.manager.held.get? (← step.need "held" Json.string?)
    return .ok bridge

def within (context : LifecycleContext) (step : Json) : Step := do
  match ← context.bridge? step with
  | .error fault => context.tell (.error fault)
  | .ok bridge =>
    let binding ← context.manager.binding? bridge
    let (outcome, inner) ← BindingContext.step ⟨binding, context.manager.disk⟩ (step.field "do")
    return (outcome, context.withManager (context.manager.putBack inner.binding inner.disk))

/-- Take a step that makes a pass or lets the worker make one. -/
def passStep (context : LifecycleContext) (step : Json) : String → Step
  | "reconcile" =>
    let (outcome, supervised) := context.supervised.reconcile context.source
    some (outcome.map ReconcileReport.toJson, { context with supervised })
  | "reconcile_with" => do
    let catalogs ← step.need "catalogs" (Json.list? catalog?)
    let (report, supervised) := context.supervised.reconcileWith context.source catalogs
    return (.ok report.toJson, { context with supervised })
  | "reconcile_concurrently" => do
    let sets ← step.need "sets" (Json.list? (Json.list? catalog?))
    let (reports, supervised) := context.supervised.reconcileAll context.source sets
    return (.ok (.list ReconcileReport.toJson reports), { context with supervised })
  | "start" => context.start true
  | "start_without_runtime" => context.start false
  | "trigger" => some (.ok .null, { context with supervised := context.supervised.trigger })
  | "wait_state" => do
    let key ← step.need "key" Json.string?
    let awaited ← step.need "state" Json.string?
    let (shown, supervised) := context.supervised.waitFor context.source key awaited
    return (.ok (.string shown), { context with supervised })
  | "shutdown" =>
    some (.ok .null, { context with supervised := context.supervised.shutdown context.source })
  | _ => none

def questionStep (context : LifecycleContext) (step : Json) (name : String) : Step := do
  let manager := context.manager
  let ledger := manager.ledger
  let key := step.need "key" Json.string?
  match name with
  | "state" => context.tell (.ok (.string (ledger.stateOf (← key)).display))
  | "states" => context.tell (.ok ledger.statesJson)
  | "registry" => context.tell (.ok ledger.registryJson)
  | "contains" => context.tell (.ok (.bool (ledger.registry.contains (← key))))
  | "resolve" => context.show? ((← step.need "name" name?).bind manager.resolve)
  | "resolve_key" => context.show? (ledger.resolve (← key))
  | "registry_key" =>
    let catalog ← step.need "catalog" catalog?
    context.tell (.ok (.string (manager.config.naming.keyOf catalog)))
  | "config" => context.tell (.ok manager.config.toJson)
  | "same_context" =>
    let held ← manager.held.get? (← step.need "as" Json.string?)
    let published := ledger.registry.get? (← key)
    context.tell (.ok (.bool (published.any fun bridge => bridge.generation = held.generation)))
  | "tracked" =>
    let (tally, live) ← context.counts? name (← step.need "provider" Json.string?)
    context.tell (.ok (.object [("created", .natural tally.created), ("live", .natural live),
      ("shut_down", .natural tally.shutDown)]))
  | "slow" =>
    let (tally, _) ← context.counts? name (← step.need "provider" Json.string?)
    context.tell (.ok (.object [("created", .natural tally.created)]))
  | _ => none

def useStep (context : LifecycleContext) (step : Json) (name : String) : Step := do
  let manager := context.manager
  let label := step.need "as" Json.string?
  match name with
  | "hold" =>
    match manager.hold (← step.need "key" Json.string?) (← label) with
    | .error fault => context.tell (.error fault)
    | .ok manager => context.goOn manager
  | "release" =>
    let (held, manager) := manager.letGo (← label)
    return (.ok (.bool held), context.withManager manager)
  | "with" => context.within step
  | "release_hanging" => context.goOn manager.unblock
  | _ => none

def serviceStep (context : LifecycleContext) (step : Json) (name : String) : Step := do
  let service := context.service
  let metalake := step.need "metalake" Json.string?
  match name with
  | "add_metalake" => context.serve .null (service.addMetalake (← metalake))
  | "put_catalog" => context.serve .null (service.putCatalog (← step.need "catalog" catalog?))
  | "remove_catalog" =>
    let catalog ← step.need "catalog" Json.string?
    let (removed, service) := service.removeCatalog (← metalake) catalog
    context.serve (.optional CatalogDefinition.toJson removed) service
  | "remove_metalake" => context.serve .null (service.removeMetalake (← metalake))
  | "fail_listing" => context.serve .null (service.failListing (← metalake))
  | "fail_loading" =>
    let catalog ← step.need "catalog" Json.string?
    context.serve .null (service.failLoading (← metalake) catalog)
  | "recover" => context.serve .null service.recover
  | "catalog_count" => context.tell (.ok (.natural service.catalogs.size))
  | "list_metalakes" => context.tell (service.questions.listMetalakes.map .strings)
  | "list_catalogs" =>
    context.tell ((service.listCatalogs (← metalake)).map fun names =>
      .strings (names.map QualifiedName.display))
  | "load_catalog" =>
    let name ← step.need "name" name?
    context.tell ((name.bind service.loadCatalog).map CatalogDefinition.toJson)
  | "create_catalog" =>
    let (outcome, service) := service.createCatalog (← step.need "catalog" catalog?)
    return (outcome.map CatalogDefinition.toJson, { context with service })
  | "drop_catalog" =>
    match ← step.need "name" name? with
    | .error fault => context.tell (.error fault)
    | .ok name =>
      let (dropped, service) := service.dropCatalog name
      context.serve (.bool dropped) service
  | _ => none

def step (context : LifecycleContext) (step : Json) : Step := do
  let name ← step.need "op" Json.string?
  [passStep, questionStep, useStep, serviceStep].findSome? fun take => take context step name

end LifecycleContext

/-- Run a script on a new manager. -/
def onLifecycle (disk : Disk) (config : LifecycleConfig)
    (registrations : Option (List Registration)) (connected : Bool) (steps : List Json) :
    List Json :=
  let manager : Manager := { config, providers := Registration.registry registrations, disk }
  (run LifecycleContext.step {
    supervised := { manager }, connected, registrations := registrations.getD [] } steps).1

end Script

end CatalogGateway
