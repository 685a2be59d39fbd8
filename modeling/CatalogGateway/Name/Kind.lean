/-!
# Kinds of names

A name addresses a metalake, or a catalog, schema or table below one.  The kind
fixes how many segments follow the name of the metalake.
-/

namespace CatalogGateway

/-- What a qualified name addresses. -/
inductive EntityKind where
  | metalake
  | catalog
  | schema
  | table
deriving DecidableEq, Inhabited, Repr

namespace EntityKind

/-- The number of segments below the metalake. -/
def depth : EntityKind → Nat
  | metalake => 0
  | catalog => 1
  | schema => 2
  | table => 3

/-- The kind as it is shown. -/
def display : EntityKind → String
  | metalake => "metalake"
  | catalog => "catalog"
  | schema => "schema"
  | table => "table"

def named : List (String × EntityKind) :=
  [("Metalake", metalake), ("Catalog", catalog), ("Schema", schema), ("Table", table)]

/-- The encoded name of a kind. -/
def label : EntityKind → String
  | metalake => "Metalake"
  | catalog => "Catalog"
  | schema => "Schema"
  | table => "Table"

end EntityKind

end CatalogGateway
