import CatalogGateway.Catalog.Definition
import CatalogGateway.Provider.Basic

/-!
# Reading the parts of requests

Names and definitions of catalogs have forms in requests that are easier to write
than their encodings.
-/

namespace CatalogGateway

namespace Script

/-- Read a name: as a text, by its parts, or as one to four parts that are not
checked. -/
def name? : Json → Option (Except Fault QualifiedName)
  | .string written => some ((QualifiedName.parse written).mapError .catalog)
  | .array parts => do
    match ← parts.mapM Json.string? with
    | [metalake] => some (.ok (.ofMetalake metalake))
    | [metalake, catalog] => some (.ok (.ofCatalog metalake catalog))
    | [metalake, catalog, schema] => some (.ok (.ofSchema metalake catalog schema))
    | [metalake, catalog, schema, table] => some (.ok (.ofTable metalake catalog schema table))
    | _ => none
  | .object members => do
    let metalake ← (Json.member "metalake" members).string?
    let segments ← (Json.member "segments" members).strings?
    some ((QualifiedName.ofParts metalake segments).mapError .catalog)
  | _ => none

/-- Read a catalog, whose type, comment and properties may be missing. -/
def catalog? (value : Json) : Option CatalogDefinition := do
  let .object _ := value | none
  return {
    metalake := ← value.need "metalake" Json.string?
    name := ← value.need "name" Json.string?
    provider := ← value.need "provider" Json.string?
    catalogType := (← value.want "catalog_type" CatalogType.ofJson?).getD .relational
    comment := ← value.want "comment" Json.string?
    properties := (← value.want "properties" Properties.ofJson?).getD .empty }

def provider? (value : Json) : Option Provider :=
  value.string?.bind Provider.ofName?

/-- Read the steps of a script, each of which is read only when it is taken. -/
def steps? (value : Json) : Option (List Json) :=
  value.need "ops" (Json.list? some)

end Script

end CatalogGateway
