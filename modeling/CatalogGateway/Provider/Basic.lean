import CatalogGateway.Properties.Conversion
import CatalogGateway.Table.Definition
import CatalogGateway.Table.LayoutPolicy
import CatalogGateway.Types.Mapping

/-!
# Providers

A provider is a kind of catalog backend.  It fixes the mapping of types, the rules
for properties, and which layouts of tables can be stored.
-/

namespace CatalogGateway

/-- The kinds of catalog backends. -/
inductive Provider where
  | memory
  | hive
  | iceberg
deriving DecidableEq, Inhabited, Repr

def schemaCommentKey : String := "comment"

namespace Provider

def name : Provider → String
  | memory => "memory"
  | hive => "hive"
  | iceberg => "lakehouse-iceberg"

def ofName? : String → Option Provider
  | "memory" => some memory
  | "hive" => some hive
  | "lakehouse-iceberg" => some iceberg
  | _ => none

def mapping : Provider → TypeMapping
  | memory => .general
  | hive => .hive
  | iceberg => .iceberg

def schemaConverter : Provider → PropertyConverter
  | memory => { reserved := [schemaCommentKey] }
  | hive | iceberg => {
      entries := [{ genericKey := "location", engineKey := "location", kind := .string }],
      reserved := [schemaCommentKey] }

/-- The stored keys that hold the layout of a table. -/
def layoutKeys : Provider → List String
  | memory => []
  | hive => ["partitioned_by", "bucketed_by", "bucket_count", "sorted_by"]
  | iceberg => ["partitioning", "sorted_by"]

def tableEntries : Provider → List PropertyEntry
  | memory => []
  | hive => [
      { genericKey := "format", engineKey := "format", kind := .string,
        default := some "ORC", hidden := true },
      { genericKey := "location", engineKey := "external_location", kind := .string },
      { genericKey := "transactional", engineKey := "transactional", kind := .boolean }]
  | iceberg => [
      { genericKey := "format", engineKey := "format", kind := .string,
        default := some "PARQUET", hidden := true },
      { genericKey := "location", engineKey := "location", kind := .string },
      { genericKey := "format-version", engineKey := "format_version", kind := .integer,
        default := some "2", hidden := true }]

def tableConverter (provider : Provider) : PropertyConverter where
  entries := provider.tableEntries
  reserved := provider.layoutKeys

/-- Leave out a part of a table's layout that cannot be stored, or refuse the table,
as the policy says. -/
def leaveOut (provider : Provider) (policy : LayoutPolicy) (table feature reason : String) :
    Except CatalogFault Unit :=
  match policy with
  | .bestEffort => .ok ()
  | .required => .error (.unsupportedOperation s!"create table with {feature}" table
      s!"{provider.name} provider: {reason}")

/-- The stored form of a list, of which an empty one leaves no trace. -/
def storedArray (key : String) (items : List String) : List (String × PropertyValue) :=
  if items.isEmpty then [] else [(key, .array items)]

def readArray (properties : EngineProperties) (key : String) :
    Except CatalogFault (List String) :=
  match properties.get? key with
  | none => .ok []
  | some (.array items) => .ok items
  | some value => .error (.invalidArgument key
      s!"expected an array but got `{value.display}`")

end Provider

end CatalogGateway
