import CatalogGateway.Catalog.Audit
import CatalogGateway.Engine.Property
import CatalogGateway.Name.Qualified

/-!
# Definitions of catalogs

A catalog as the metadata service describes it.  Two definitions build the same
backend when they agree in provider, type and properties; names and comments do not
matter for that.
-/

namespace CatalogGateway

/-- What a catalog holds. -/
inductive CatalogType where
  | relational
  | fileset
  | messaging
deriving DecidableEq, Inhabited, Repr

/-- A catalog. -/
structure CatalogDefinition where
  metalake : String
  name : String
  catalogType : CatalogType := .relational
  /-- The name of the provider that builds the backend. -/
  provider : String
  comment : Option String := none
  properties : Properties := .empty
deriving DecidableEq, Inhabited

/-- A catalog with its history. -/
structure CatalogRecord where
  definition : CatalogDefinition
  audit : Audit
deriving DecidableEq, Inhabited

/-- A metalake, which holds catalogs, with its history. -/
structure MetalakeRecord where
  name : String
  comment : Option String := none
  properties : Properties := .empty
  audit : Audit
deriving DecidableEq, Inhabited

namespace CatalogType

def display : CatalogType → String
  | relational => "relational"
  | fileset => "fileset"
  | messaging => "messaging"

def named : List (String × CatalogType) :=
  [relational, fileset, messaging].map fun type => (type.display, type)

def parse (text : String) : Except CatalogFault CatalogType :=
  match named.lookup (String.ofList (text.toList.map Char.toLower)) with
  | some type => .ok type
  | none => .error (.invalidArgument "catalog type" s!"unknown catalog type `{text}`")

def toJson (type : CatalogType) : Json :=
  .string type.display

def ofJson? : Json → Option CatalogType :=
  Json.choice? named

end CatalogType

namespace CatalogDefinition

/-- The metalake and the name, joined with a dot. -/
def fullName (catalog : CatalogDefinition) : String :=
  s!"{catalog.metalake}.{catalog.name}"

def qualifiedName (catalog : CatalogDefinition) : QualifiedName :=
  .ofCatalog catalog.metalake catalog.name

def catalogName (catalog : CatalogDefinition) : CatalogName :=
  ⟨catalog.metalake, catalog.name⟩

/-- Whether a backend built for one definition serves the other. -/
def sameDefinition (left right : CatalogDefinition) : Bool :=
  left.provider = right.provider && left.catalogType = right.catalogType &&
    left.properties = right.properties

def encode (catalog : CatalogDefinition) (more : List (String × Json)) : Json :=
  .object ([("metalake", .string catalog.metalake), ("name", .string catalog.name),
    ("catalog_type", catalog.catalogType.toJson), ("provider", .string catalog.provider),
    ("comment", .optionalString catalog.comment),
    ("properties", catalog.properties.toJson)] ++ more)

def toJson (catalog : CatalogDefinition) : Json :=
  catalog.encode []

end CatalogDefinition

namespace CatalogRecord

def toJson (record : CatalogRecord) : Json :=
  record.definition.encode [("audit", record.audit.toJson)]

def ofJson? (value : Json) : Option CatalogRecord := do
  let [metalake, name, catalogType, provider, comment, properties, audit] ← value.fields?
    ["metalake", "name", "catalog_type", "provider", "comment", "properties", "audit"] | none
  return {
    definition := {
      metalake := ← metalake.string?, name := ← name.string?,
      catalogType := ← CatalogType.ofJson? catalogType, provider := ← provider.string?,
      comment := ← comment.optionalString?, properties := ← Properties.ofJson? properties },
    audit := ← Audit.ofJson? audit }

end CatalogRecord

namespace MetalakeRecord

def toJson (record : MetalakeRecord) : Json :=
  .object [("name", .string record.name), ("comment", .optionalString record.comment),
    ("properties", record.properties.toJson), ("audit", record.audit.toJson)]

def ofJson? (value : Json) : Option MetalakeRecord := do
  let [name, comment, properties, audit] ←
    value.fields? ["name", "comment", "properties", "audit"] | none
  return {
    name := ← name.string?, comment := ← comment.optionalString?,
    properties := ← Properties.ofJson? properties, audit := ← Audit.ofJson? audit }

end MetalakeRecord

end CatalogGateway
