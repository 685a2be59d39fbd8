import CatalogGateway.Diagnostic
import CatalogGateway.Name.Kind
import CatalogGateway.Table.ChangeKind
import CatalogGateway.Time.Duration

/-!
# Faults

The failures of type mappings, of metadata stores and of the catalog layer above
them, each with its message and its diagnostic.  Code branches on the faults; the
texts are made only when a fault is shown.
-/

namespace CatalogGateway

/-- A failure of a type mapping or of a type's parameters. -/
inductive TypeFault where
  | unsupportedType (type mapping : String) (reason : Option String)
  | unsupportedEngineType (type mapping : String) (reason : Option String)
  | invalidParameter (type reason : String)
deriving DecidableEq, Inhabited, Repr

/-- A failure of a metadata store. -/
inductive StoreFault where
  | schemaNotFound (schema : String)
  | tableNotFound (table : String)
  | columnNotFound (table column : String)
  | schemaExists (schema : String)
  | tableExists (table : String)
  | columnExists (table column : String)
  /-- A schema that still has tables cannot be dropped on its own. -/
  | schemaNotEmpty (schema : String)
  /-- A handle names a table that has been renamed since. -/
  | staleHandle (table current : String)
  /-- A column cannot be placed beyond the end of its table. -/
  | ordinalOutOfRange (table : String) (ordinal columns : Nat)
  /-- The store already holds as many tables as it allows. -/
  | tableLimitExceeded (connector : String) (limit : Nat)
  | shutDown (connector : String)
  /-- What is stored cannot be read, or the store cannot be reached. -/
  | storage (reason : String)
deriving DecidableEq, Inhabited, Repr

/-- The objects that can be missing or occur twice. -/
inductive ObjectKind where
  | metalake
  | catalog
  | schema
  | table
  | column
  | provider
deriving DecidableEq, Inhabited, Repr

/-- A failure of the catalog layer. -/
inductive CatalogFault where
  | notFound (kind : ObjectKind) (name : String)
  | alreadyExists (kind : ObjectKind) (name : String)
  | unsupportedOperation (operation name reason : String)
  /-- A name addresses another kind of object than the operation expects. -/
  | invalidName (name : String) (expected actual : EntityKind)
  | invalidChange (table : String) (change : ChangeKind) (reason : String)
  | invalidArgument (name reason : String)
  | constructionFailed (catalog provider reason : String) (cause : Option Diagnostic)
  | constructionTimeout (catalog provider : String) (timeout : Duration)
  | unknownProvider (catalog provider : String)
  /-- A name lies outside the catalog that was asked. -/
  | catalogMismatch (name catalog : String)
deriving DecidableEq, Inhabited, Repr

/-- Any failure the library reports. -/
inductive Fault where
  | type (fault : TypeFault)
  | store (fault : StoreFault)
  | catalog (fault : CatalogFault)
  /-- A broken invariant, with the place that noticed it if that is known. -/
  | internal (reason : String) (site : Option (String × Nat))
  /-- A failure known only by its diagnostic. -/
  | reported (diagnostic : Diagnostic)
deriving DecidableEq, Inhabited, Repr

namespace TypeFault

/-- What happened. -/
def message : TypeFault → String
  | unsupportedType type mapping _ => s!"type {type} is not supported by the {mapping} type mapping"
  | unsupportedEngineType type mapping _ =>
    s!"engine type {type} is not supported by the {mapping} type mapping"
  | invalidParameter type reason => s!"invalid parameters for type {type}: {reason}"

def report (fault : TypeFault) : Report :=
  match fault with
  | unsupportedType type mapping reason => {
      code := "TYPE_001", kind := .unsupportedType, message := fault.message,
      label := some s!"{type} has no {mapping} engine equivalent",
      help := some "choose a type the catalog provider can represent",
      notes := s!"offending type: {type}" :: reason.toList }
  | unsupportedEngineType type mapping reason => {
      code := "TYPE_002", kind := .unsupportedType, message := fault.message,
      label := some s!"{type} cannot be expressed as a generic type by {mapping}",
      notes := s!"offending engine type: {type}" :: reason.toList }
  | invalidParameter type reason => {
      code := "TYPE_003", kind := .invalidArgument, message := fault.message,
      label := some s!"invalid {type}", notes := [reason] }

end TypeFault

namespace StoreFault

/-- What happened. -/
def message : StoreFault → String
  | schemaNotFound schema => s!"schema `{schema}` does not exist"
  | tableNotFound table => s!"table `{table}` does not exist"
  | columnNotFound table column => s!"column `{column}` does not exist in table `{table}`"
  | schemaExists schema => s!"schema `{schema}` already exists"
  | tableExists table => s!"table `{table}` already exists"
  | columnExists table column => s!"column `{column}` already exists in table `{table}`"
  | schemaNotEmpty schema => s!"schema `{schema}` is not empty"
  | staleHandle table current =>
    s!"handle for table `{table}` is stale, the table is now `{current}`"
  | ordinalOutOfRange table ordinal columns =>
    s!"column ordinal {ordinal} is out of range for table `{table}` with {columns} columns"
  | tableLimitExceeded connector limit => s!"connector `{connector}` allows at most {limit} tables"
  | shutDown connector => s!"connector `{connector}` has been shut down"
  | storage reason => s!"metastore error: {reason}"

def code : StoreFault → String
  | schemaNotFound _ => "CO_001"
  | tableNotFound _ => "CO_002"
  | columnNotFound _ _ => "CO_003"
  | schemaExists _ => "CO_004"
  | tableExists _ => "CO_005"
  | columnExists _ _ => "CO_006"
  | schemaNotEmpty _ => "CO_007"
  | staleHandle _ _ => "CO_008"
  | ordinalOutOfRange _ _ _ => "CO_009"
  | tableLimitExceeded _ _ => "CO_010"
  | shutDown _ => "CO_011"
  | storage _ => "CO_012"

def kind : StoreFault → ErrorKind
  | schemaNotFound _ | tableNotFound _ | columnNotFound _ _ => .notFound
  | schemaExists _ | tableExists _ | columnExists _ _ => .alreadyExists
  | schemaNotEmpty _ | staleHandle _ _ | ordinalOutOfRange _ _ _
  | tableLimitExceeded _ _ => .invalidArgument
  | shutDown _ => .internal
  | storage _ => .storage

/-- What the caller can do about the fault. -/
def help : StoreFault → Option String
  | schemaNotEmpty _ => some "drop the schema with cascade to remove its tables"
  | staleHandle _ _ => some "resolve the table handle again"
  | _ => none

def report (fault : StoreFault) : Report where
  code := fault.code
  kind := fault.kind
  message := fault.message
  help := fault.help

end StoreFault

namespace ObjectKind

/-- The kind as it is shown. -/
def display : ObjectKind → String
  | metalake => "metalake"
  | catalog => "catalog"
  | schema => "schema"
  | table => "table"
  | column => "column"
  | provider => "provider"

def named : List (String × ObjectKind) :=
  [("Metalake", metalake), ("Catalog", catalog), ("Schema", schema), ("Table", table),
    ("Column", column), ("Provider", provider)]

end ObjectKind

namespace CatalogFault

/-- What happened. -/
def message : CatalogFault → String
  | notFound kind name => s!"{kind.display} `{name}` not found"
  | alreadyExists kind name => s!"{kind.display} `{name}` already exists"
  | unsupportedOperation operation name reason =>
    s!"operation `{operation}` is not supported on `{name}`: {reason}"
  | invalidName name expected actual =>
    s!"`{name}` names a {actual.display}, expected a {expected.display}"
  | invalidChange table change reason =>
    s!"invalid {change.display} change on table `{table}`: {reason}"
  | invalidArgument name reason => s!"invalid argument `{name}`: {reason}"
  | constructionFailed catalog provider reason _ =>
    s!"failed to construct catalog `{catalog}` with provider `{provider}`: {reason}"
  | constructionTimeout catalog provider timeout =>
    s!"construction of catalog `{catalog}` with provider `{provider}` timed out after " ++
      timeout.display
  | unknownProvider catalog provider => s!"catalog `{catalog}` uses unknown provider `{provider}`"
  | catalogMismatch name catalog => s!"`{name}` does not belong to catalog `{catalog}`"

def report (fault : CatalogFault) : Report :=
  match fault with
  | notFound kind name => {
      code := "CA_001", kind := .notFound, message := fault.message,
      label := some s!"unknown {kind.display}", notes := [s!"looked up `{name}`"] }
  | alreadyExists kind name => {
      code := "CA_002", kind := .alreadyExists, message := fault.message,
      label := some s!"duplicate {kind.display} definition",
      help := some s!"choose a different name for `{name}`" }
  | unsupportedOperation operation _ _ => {
      code := "CA_003", kind := .unsupported, message := fault.message,
      label := some s!"`{operation}` is not available here" }
  | invalidName _ expected actual => {
      code := "CA_004", kind := .invalidArgument, message := fault.message,
      label := some
        s!"a {expected.display} name has {expected.depth} segments below the metalake",
      notes := [s!"got a {actual.display} name"] }
  | invalidChange _ change _ => {
      code := "CA_005", kind := .invalidChange, message := fault.message,
      label := some s!"rejected {change.display} change",
      help := some "no change of the request was applied" }
  | invalidArgument _ _ => {
      code := "CA_006", kind := .invalidArgument, message := fault.message }
  | constructionFailed _ _ _ _ => {
      code := "CA_007", kind := .constructionFailure, message := fault.message,
      help := some "the previously registered connector, if any, stays active" }
  | constructionTimeout _ _ _ => {
      code := "CA_008", kind := .timeout, message := fault.message,
      help := some "raise the construction timeout or check the catalog backend" }
  | unknownProvider _ provider => {
      code := "CA_009", kind := .constructionFailure, message := fault.message,
      label := some s!"no connector factory registered for `{provider}`" }
  | catalogMismatch _ _ => {
      code := "CA_010", kind := .invalidArgument, message := fault.message }

/-- The causes shown below the fault, nearest first. -/
def causes : CatalogFault → List Report
  | constructionFailed _ _ _ (some cause) => cause.report :: cause.causes
  | _ => []

end CatalogFault

namespace Fault

def internalReport (reason : String) (site : Option (String × Nat)) : Report where
  code := "INTERNAL_ERROR"
  kind := .internal
  message := s!"Internal error: {reason}"
  label := site.map fun (file, line) => s!"internal invariant violated at {file}:{line}"
  help := some "This is an internal error that should never occur in normal operation."

/-- What the caller is shown of a fault. -/
def diagnostic : Fault → Diagnostic
  | type fault => ⟨fault.report, []⟩
  | store fault => ⟨fault.report, []⟩
  | catalog fault => ⟨fault.report, fault.causes⟩
  | internal reason site => ⟨internalReport reason site, []⟩
  | reported diagnostic => diagnostic

def kind (fault : Fault) : ErrorKind :=
  fault.diagnostic.kind

/-- What happened. -/
def message (fault : Fault) : String :=
  fault.diagnostic.report.message

/-- An object that was looked up and is not there. -/
def notFound (kind : ObjectKind) (name : String) : Fault :=
  .catalog (.notFound kind name)

/-- An argument outside its range. -/
def invalidArgument (name reason : String) : Fault :=
  .catalog (.invalidArgument name reason)

end Fault

end CatalogGateway
