import CatalogGateway.Catalog.Definition
import CatalogGateway.Table.LayoutPolicy
import CatalogGateway.Time.Duration

/-!
# Configuration of the lifecycle

Which metalakes are bridged, under which keys catalogs are published, how often the
background pass runs, and how long a construction may take.
-/

namespace CatalogGateway

/-- How the keys of published catalogs are made. -/
inductive CatalogNaming where
  /-- By metalake and name. -/
  | qualified
  /-- By name alone, for a single metalake. -/
  | simple
deriving DecidableEq, Inhabited, Repr

/-- The settings of a lifecycle manager. -/
structure LifecycleConfig where
  /-- The metalakes to bridge; none means all. -/
  metalakes : List String := []
  /-- The time between two background passes. -/
  reloadInterval : Duration := .ofSeconds 10
  /-- The time that the construction of one catalog may take. -/
  constructionTimeout : Duration := .ofSeconds 30
  naming : CatalogNaming := .qualified
  /-- The policy for tables created through the catalogs. -/
  layoutPolicy : LayoutPolicy := .bestEffort
deriving DecidableEq, Inhabited, Repr

namespace CatalogNaming

def key (naming : CatalogNaming) (metalake catalog : String) : String :=
  match naming with
  | qualified => s!"{metalake}.{catalog}"
  | simple => catalog

def keyOf (naming : CatalogNaming) (catalog : CatalogDefinition) : String :=
  naming.key catalog.metalake catalog.name

def toJson : CatalogNaming → Json
  | qualified => .string "qualified"
  | simple => .string "simple"

def ofJson? : Json → Option CatalogNaming :=
  Json.choice? [("qualified", qualified), ("simple", simple)]

end CatalogNaming

namespace LifecycleConfig

def toJson (config : LifecycleConfig) : Json :=
  .object [("metalakes", .strings config.metalakes),
    ("reload_interval", config.reloadInterval.toJson),
    ("construction_timeout", config.constructionTimeout.toJson),
    ("naming", config.naming.toJson), ("layout_policy", config.layoutPolicy.toJson)]

/-- Read a setting that takes its default when it is missing. -/
def setting? {α : Type} (decode : Json → Option α) (default : α) : Option Json → Option α
  | none => some default
  | some value => decode value

/-- Read the five settings, each of which may be missing. -/
def ofSettings? (setting : Nat → String → Option Json) : Option LifecycleConfig := do
  let initial : LifecycleConfig := {}
  return {
    metalakes := ← setting? Json.strings? initial.metalakes (setting 0 "metalakes"),
    reloadInterval :=
      ← setting? Duration.ofJson? initial.reloadInterval (setting 1 "reload_interval"),
    constructionTimeout :=
      ← setting? Duration.ofJson? initial.constructionTimeout
        (setting 2 "construction_timeout"),
    naming := ← setting? CatalogNaming.ofJson? initial.naming (setting 3 "naming"),
    layoutPolicy :=
      ← setting? LayoutPolicy.ofJson? initial.layoutPolicy (setting 4 "layout_policy") }

/-- Read a configuration.  Settings that are missing, also at the end of a list of
them, take their defaults; `null` does not stand for a missing one. -/
def ofJson? : Json → Option LifecycleConfig
  | .object members => ofSettings? fun _ name => members.lookup name
  | .array items =>
    if items.length ≤ 5 then ofSettings? fun index _ => items[index]? else none
  | _ => none

end LifecycleConfig

end CatalogGateway
