import CatalogGateway.Fault

/-!
# Qualified names

A qualified name is a metalake and up to three segments below it.  Its text joins
the parts with dots.  `QualifiedName.ofParts` checks the parts; the fixed-depth
constructors take names from inside the program and check nothing.  The views of
a name as a catalog, schema or table name exist at their own depth only.
-/

namespace CatalogGateway

/-- The address of a metalake or of something below it. -/
structure QualifiedName where
  metalake : String
  /-- The names below it, outermost first. -/
  segments : List String
deriving DecidableEq, Inhabited, Repr

/-- The name of a catalog. -/
structure CatalogName where
  metalake : String
  catalog : String
deriving DecidableEq, Inhabited, Repr

/-- The name of a schema. -/
structure SchemaName where
  metalake : String
  catalog : String
  schema : String
deriving DecidableEq, Inhabited, Repr

/-- The name of a table. -/
structure TableName where
  metalake : String
  catalog : String
  schema : String
  table : String
deriving DecidableEq, Inhabited, Repr

/-- The name of a table within a store. -/
structure SchemaTable where
  schema : String
  table : String
deriving DecidableEq, Inhabited, Repr

namespace QualifiedName

/-- The largest number of segments. -/
def maxDepth : Nat := 3

/-- All parts of a name, the metalake first. -/
def components (name : QualifiedName) : List String :=
  name.metalake :: name.segments

/-- The parts joined with dots. -/
def display (name : QualifiedName) : String :=
  String.intercalate "." name.components

/-- The name with the given parts.  Too many segments are reported before an empty
part. -/
def ofParts (metalake : String) (segments : List String) :
    Except CatalogFault QualifiedName :=
  let name : QualifiedName := ⟨metalake, segments⟩
  if maxDepth < segments.length then
    .error (.invalidArgument name.display
      s!"a name has at most {maxDepth} segments below the metalake")
  else if name.components.any (·.isEmpty) then
    .error (.invalidArgument name.display "name segments must not be empty")
  else .ok name

def parse (text : String) : Except CatalogFault QualifiedName :=
  match text.toList.splitOn '.' with
  | [] => ofParts "" []
  | metalake :: segments => ofParts (String.ofList metalake) (segments.map String.ofList)

def ofMetalake (metalake : String) : QualifiedName :=
  ⟨metalake, []⟩

def ofCatalog (metalake catalog : String) : QualifiedName :=
  ⟨metalake, [catalog]⟩

def ofSchema (metalake catalog schema : String) : QualifiedName :=
  ⟨metalake, [catalog, schema]⟩

def ofTable (metalake catalog schema table : String) : QualifiedName :=
  ⟨metalake, [catalog, schema, table]⟩

/-- The number of segments. -/
def depth (name : QualifiedName) : Nat :=
  name.segments.length

def kind (name : QualifiedName) : EntityKind :=
  match name.segments with
  | [] => .metalake
  | [_] => .catalog
  | [_, _] => .schema
  | _ => .table

def last (name : QualifiedName) : String :=
  name.segments.getLastD name.metalake

def catalog? (name : QualifiedName) : Option String :=
  name.segments.head?

/-- The name one level up. -/
def parent? (name : QualifiedName) : Option QualifiedName :=
  match name.segments with
  | [] => none
  | segments => some ⟨name.metalake, segments.dropLast⟩

/-- All names above, nearest first. -/
def parents (name : QualifiedName) : List QualifiedName :=
  (List.range name.depth).reverse.map fun depth => ⟨name.metalake, name.segments.take depth⟩

/-- The name one level down. -/
def child (name : QualifiedName) (segment : String) : Except CatalogFault QualifiedName :=
  ofParts name.metalake (name.segments ++ [segment])

def mistaken {α : Type} (name : QualifiedName) (expected : EntityKind) :
    Except CatalogFault α :=
  .error (.invalidName name.display expected name.kind)

/-- Refuse a name that addresses anything but the expected kind. -/
def require (name : QualifiedName) (expected : EntityKind) : Except CatalogFault Unit :=
  if name.kind = expected then .ok () else name.mistaken expected

def asCatalog (name : QualifiedName) : Except CatalogFault CatalogName := do
  name.require .catalog
  match name.segments with
  | [catalog] => return ⟨name.metalake, catalog⟩
  | _ => name.mistaken .catalog

def asSchema (name : QualifiedName) : Except CatalogFault SchemaName := do
  name.require .schema
  match name.segments with
  | [catalog, schema] => return ⟨name.metalake, catalog, schema⟩
  | _ => name.mistaken .schema

/-- The name as that of a table, by its kind and then by its three segments.  A deeper name has the
kind of a table as well, but no view; no way to make a name leads to one. -/
def asTable (name : QualifiedName) : Except CatalogFault TableName := do
  name.require .table
  match name.segments with
  | [catalog, schema, table] => return ⟨name.metalake, catalog, schema, table⟩
  | _ => name.mistaken .table

/-- Whether a name sorts before another or is equal to it: by metalake, then by
segments. -/
def sortsBefore (left right : QualifiedName) : Bool :=
  !right.components.lex left.components fun first second => decide (first < second)

/-- The names in ascending order. -/
def sort (names : List QualifiedName) : List QualifiedName :=
  names.mergeSort sortsBefore

def toJson (name : QualifiedName) : Json :=
  .object [("metalake", .string name.metalake), ("segments", .strings name.segments)]

def ofJson? (value : Json) : Option QualifiedName := do
  let [metalake, segments] ← value.fields? ["metalake", "segments"] | none
  (ofParts (← metalake.string?) (← segments.strings?)).toOption

end QualifiedName

namespace CatalogName

/-- The name without the view. -/
def qualified (name : CatalogName) : QualifiedName :=
  .ofCatalog name.metalake name.catalog

/-- The parts joined with dots. -/
def display (name : CatalogName) : String :=
  s!"{name.metalake}.{name.catalog}"

def toJson (name : CatalogName) : Json :=
  .object [("metalake", .string name.metalake), ("catalog", .string name.catalog)]

end CatalogName

namespace SchemaName

/-- The name without the view. -/
def qualified (name : SchemaName) : QualifiedName :=
  .ofSchema name.metalake name.catalog name.schema

/-- The parts joined with dots. -/
def display (name : SchemaName) : String :=
  s!"{name.metalake}.{name.catalog}.{name.schema}"

def toJson (name : SchemaName) : Json :=
  .object [("metalake", .string name.metalake), ("catalog", .string name.catalog),
    ("schema", .string name.schema)]

end SchemaName

namespace TableName

/-- The name without the view. -/
def qualified (name : TableName) : QualifiedName :=
  .ofTable name.metalake name.catalog name.schema name.table

def schemaName (name : TableName) : SchemaName :=
  ⟨name.metalake, name.catalog, name.schema⟩

/-- The name of the table within its catalog's store. -/
def schemaTable (name : TableName) : SchemaTable :=
  ⟨name.schema, name.table⟩

/-- The parts joined with dots. -/
def display (name : TableName) : String :=
  s!"{name.metalake}.{name.catalog}.{name.schema}.{name.table}"

def toJson (name : TableName) : Json :=
  .object [("metalake", .string name.metalake), ("catalog", .string name.catalog),
    ("schema", .string name.schema), ("table", .string name.table)]

def ofJson? (value : Json) : Option TableName := do
  let [metalake, catalog, schema, table] ←
    value.fields? ["metalake", "catalog", "schema", "table"] | none
  return ⟨← metalake.string?, ← catalog.string?, ← schema.string?, ← table.string?⟩

end TableName

namespace SchemaTable

/-- The two names joined with a dot. -/
def display (name : SchemaTable) : String :=
  s!"{name.schema}.{name.table}"

def toJson (name : SchemaTable) : Json :=
  .object [("schema", .string name.schema), ("table", .string name.table)]

def ofJson? (value : Json) : Option SchemaTable := do
  let [schema, table] ← value.fields? ["schema", "table"] | none
  return ⟨← schema.string?, ← table.string?⟩

end SchemaTable

end CatalogGateway
