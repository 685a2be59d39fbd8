import CatalogGateway.Catalog.Bridge
import CatalogGateway.Lifecycle.Config
import CatalogGateway.Lifecycle.Report
import CatalogGateway.Lifecycle.State
import CatalogGateway.Service

/-!
# Reconciliation passes

A pass brings the published catalogs in line with a list of desired ones.  Catalogs
that are new or have changed are built, those that are no longer desired are dropped,
and a catalog that fails to build leaves what is published as it is.  A pass begins by
announcing what it builds, and ends when all of it has been built.  A survey asks
the metadata service for the desired catalogs, and notes those that the service could
not describe, which are kept.
-/

namespace CatalogGateway

/-- What a lifecycle manager has published. -/
structure Ledger where
  /-- The published catalogs under their keys. -/
  registry : Dictionary Bridge := .empty
  states : Dictionary CatalogState := .empty
  /-- The number of the last construction. -/
  generation : Nat := 0
deriving DecidableEq, Inhabited

/-- The catalogs that a metadata service could not describe. -/
structure Retained where
  keys : List String := []
  metalakes : List String := []
deriving DecidableEq, Inhabited, Repr

/-- What a metadata service says of the desired catalogs. -/
structure Survey where
  catalogs : List CatalogDefinition := []
  retained : Retained := {}
  failed : List (String × Fault) := []
deriving DecidableEq, Inhabited

/-- A construction that a pass calls for. -/
structure Build where
  key : String
  catalog : CatalogDefinition
  /-- The number of the construction. -/
  generation : Nat
  /-- Whether the catalog is published already. -/
  reload : Bool
deriving DecidableEq, Inhabited

/-- A pass whose constructions are under way. -/
structure OpenPass where
  desired : Dictionary CatalogDefinition
  retained : Retained
  builds : List Build
  /-- What the report says before any construction ends. -/
  report : ReconcileReport
deriving Inhabited

/-- What a pass leaves. -/
structure PassResult where
  ledger : Ledger
  report : ReconcileReport
  built : List Binding
deriving Inhabited

namespace Survey

/-- Note a catalog or why there is none. -/
def addCatalog (naming : CatalogNaming) (service : MetadataService) (survey : Survey)
    (name : QualifiedName) : Survey :=
  match service.loadCatalog name with
  | .ok catalog => { survey with catalogs := survey.catalogs ++ [catalog] }
  | .error fault =>
    let key := naming.key name.metalake name.last
    { survey with
      retained := { survey.retained with keys := survey.retained.keys ++ [key] }
      failed := survey.failed ++ [(key, fault)] }

/-- Note the catalogs of a metalake.  One that is not there has none. -/
def addMetalake (naming : CatalogNaming) (service : MetadataService) (survey : Survey)
    (metalake : String) : Survey :=
  match service.listCatalogs metalake with
  | .ok names => names.foldl (addCatalog naming service) survey
  | .error fault =>
    if fault.kind = .notFound then survey
    else {
      survey with
      retained := {
        survey.retained with metalakes := survey.retained.metalakes ++ [metalake] } }

def ask (config : LifecycleConfig) (service : MetadataService) : Except Fault Survey := do
  let metalakes ←
    if config.metalakes.isEmpty then service.listMetalakes else .ok config.metalakes
  return metalakes.foldl (addMetalake config.naming service) {}

end Survey

namespace Ledger

def stateOf (ledger : Ledger) (key : String) : CatalogState :=
  (ledger.states.get? key).getD .absent

def setState (ledger : Ledger) (key : String) (state : CatalogState) : Ledger :=
  { ledger with states := ledger.states.insert key state }

/-- The published catalog under a key. -/
def resolve (ledger : Ledger) (key : String) : Except Fault Bridge :=
  match ledger.registry.get? key with
  | some bridge => .ok bridge
  | none => .error (.notFound .catalog key)

/-- The desired catalogs under their keys, and the faults of those that have the key
of another one before them.  Only relational catalogs count. -/
def select (naming : CatalogNaming) :
    List CatalogDefinition → Dictionary CatalogDefinition →
      Dictionary CatalogDefinition × List (String × Fault)
  | [], selected => (selected, [])
  | catalog :: rest, selected =>
    let key := naming.keyOf catalog
    if catalog.catalogType ≠ .relational then select naming rest selected
    else if selected.contains key then
      let (all, faults) := select naming rest selected
      (all, (key, .catalog (.alreadyExists .catalog key)) :: faults)
    else select naming rest (selected.insert key catalog)

def serves (ledger : Ledger) (key : String) (catalog : CatalogDefinition) : Bool :=
  match ledger.registry.get? key with
  | some bridge => bridge.catalog.sameDefinition catalog
  | none => false

def buildsFor (ledger : Ledger) (desired : List (String × CatalogDefinition)) : List Build :=
  (desired.filter fun entry => !ledger.serves entry.1 entry.2).mapIdx fun index entry => {
    key := entry.1, catalog := entry.2, generation := ledger.generation + index + 1
    reload := ledger.registry.contains entry.1 }

/-- Note that constructions are under way. -/
def announce (ledger : Ledger) (builds : List Build) : Ledger :=
  builds.foldl (fun current build =>
    { current.setState build.key (if build.reload then .reloading else .loading) with
      generation := build.generation }) ledger

/-- Note the outcome of a construction: publish what was built, or keep what was
published before. -/
def settle (result : PassResult) (build : Build) (outcome : Except Fault Binding) :
    PassResult :=
  let report := result.report
  match outcome with
  | .ok binding => {
      ledger := {
        result.ledger.setState build.key .active with
        registry := result.ledger.registry.insert build.key binding.bridge }
      report :=
        if build.reload then { report with reloaded := report.reloaded ++ [build.key] }
        else { report with created := report.created ++ [build.key] }
      built := result.built ++ [binding] }
  | .error fault => {
      ledger := result.ledger.setState build.key (if build.reload then .active else .absent)
      report := { report with failed := report.failed ++ [(build.key, fault)] }
      built := result.built }

/-- Whether a published catalog outlives a pass. -/
def isKept (desired : Dictionary CatalogDefinition) (retained : Retained) (key : String)
    (bridge : Bridge) : Bool :=
  desired.contains key || retained.keys.contains key ||
    retained.metalakes.contains bridge.catalog.metalake

def drop (ledger : Ledger) (key : String) : Ledger :=
  { ledger.setState key .dropped with registry := ledger.registry.erase key }

/-- Begin a pass: find out what there is to build, and announce it. -/
def beginPass (ledger : Ledger) (naming : CatalogNaming) (survey : Survey) :
    OpenPass × Ledger :=
  let (desired, duplicates) := select naming survey.catalogs .empty
  let served := desired.entries.filter fun entry => ledger.serves entry.1 entry.2
  let builds := ledger.buildsFor desired.entries
  ({ desired, retained := survey.retained, builds
     report := { unchanged := served.map Prod.fst, failed := survey.failed ++ duplicates } },
    ledger.announce builds)

/-- End a pass with the outcomes of its constructions: settle them, and drop what is no
longer desired. -/
def endPass (ledger : Ledger) (opened : OpenPass) (outcomes : List (Except Fault Binding)) :
    PassResult :=
  let settled := (opened.builds.zip outcomes).foldl
    (fun result (build, outcome) => settle result build outcome)
    { ledger, report := opened.report, built := [] }
  let dropped := (settled.ledger.registry.entries.filter fun entry =>
    !isKept opened.desired opened.retained entry.1 entry.2).map Prod.fst
  { ledger := dropped.foldl drop settled.ledger
    report := { settled.report with dropped }.sorted
    built := settled.built }

end Ledger

end CatalogGateway
