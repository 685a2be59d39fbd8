import CatalogGateway.Catalog.Definition

/-!
# Metadata services

A metadata service lists metalakes and the catalogs in them.  The service in memory
can be told to fail, as a service that is reached over a network may.
-/

namespace CatalogGateway

/-- The questions that can be put to a metadata service. -/
structure MetadataService where
  listMetalakes : Except Fault (List String)
  listCatalogs : String → Except Fault (List QualifiedName)
  loadCatalog : QualifiedName → Except Fault CatalogDefinition

/-- A metadata service in memory. -/
structure MemoryService where
  metalakes : Dictionary Unit := .empty
  /-- The catalogs under their full names. -/
  catalogs : Dictionary CatalogDefinition := .empty
  failingMetalakes : List String := []
  /-- The full names of the catalogs that cannot be loaded. -/
  failingCatalogs : List String := []
deriving DecidableEq, Inhabited

namespace MemoryService

/-- The full name of a catalog. -/
def keyOf (metalake catalog : String) : String :=
  s!"{metalake}.{catalog}"

/-- Make a metalake known. -/
def addMetalake (service : MemoryService) (metalake : String) : MemoryService :=
  { service with metalakes := service.metalakes.insert metalake () }

/-- Store a catalog in place of any of the same full name, and make its metalake
known. -/
def putCatalog (service : MemoryService) (catalog : CatalogDefinition) : MemoryService :=
  { service.addMetalake catalog.metalake with
    catalogs := service.catalogs.insert catalog.fullName catalog }

/-- Remove the catalog of a full name. -/
def eraseCatalog (service : MemoryService) (key : String) :
    Option CatalogDefinition × MemoryService :=
  (service.catalogs.get? key, { service with catalogs := service.catalogs.erase key })

def removeCatalog (service : MemoryService) (metalake catalog : String) :
    Option CatalogDefinition × MemoryService :=
  service.eraseCatalog (keyOf metalake catalog)

def removeMetalake (service : MemoryService) (metalake : String) : MemoryService :=
  { service with
    metalakes := service.metalakes.erase metalake
    catalogs := service.catalogs.filter fun _ catalog => catalog.metalake ≠ metalake }

/-- Let the listing of a metalake's catalogs fail until the service recovers. -/
def failListing (service : MemoryService) (metalake : String) : MemoryService :=
  { service with failingMetalakes := metalake :: service.failingMetalakes }

def failLoading (service : MemoryService) (metalake catalog : String) : MemoryService :=
  { service with failingCatalogs := keyOf metalake catalog :: service.failingCatalogs }

/-- Let nothing fail any more. -/
def recover (service : MemoryService) : MemoryService :=
  { service with failingMetalakes := [], failingCatalogs := [] }

def listCatalogs (service : MemoryService) (metalake : String) :
    Except Fault (List QualifiedName) :=
  if metalake ∈ service.failingMetalakes then
    .error (.store (.storage s!"listing catalogs of metalake `{metalake}` failed"))
  else if service.metalakes.contains metalake then
    .ok ((service.catalogs.values.filter fun catalog => catalog.metalake = metalake).map
      CatalogDefinition.qualifiedName)
  else .error (.notFound .metalake metalake)

def loadCatalog (service : MemoryService) (name : QualifiedName) :
    Except Fault CatalogDefinition :=
  if name.display ∈ service.failingCatalogs then
    .error (.store (.storage s!"loading catalog `{name.display}` failed"))
  else
    match service.catalogs.get? name.display with
    | some catalog => .ok catalog
    | none => .error (.notFound .catalog name.display)

/-- Store a new catalog in a metalake that is known. -/
def createCatalog (service : MemoryService) (catalog : CatalogDefinition) :
    Except Fault CatalogDefinition × MemoryService :=
  if !service.metalakes.contains catalog.metalake then
    (.error (.notFound .metalake catalog.metalake), service)
  else if service.catalogs.contains catalog.fullName then
    (.error (.catalog (.alreadyExists .catalog catalog.fullName)), service)
  else
    (.ok catalog, { service with catalogs := service.catalogs.insert catalog.fullName catalog })

def dropCatalog (service : MemoryService) (name : QualifiedName) : Bool × MemoryService :=
  let (removed, service) := service.eraseCatalog name.display
  (removed.isSome, service)

/-- The questions as they are answered at present. -/
def questions (service : MemoryService) : MetadataService where
  listMetalakes := .ok service.metalakes.keys
  listCatalogs := service.listCatalogs
  loadCatalog := service.loadCatalog

end MemoryService

end CatalogGateway
