import CatalogGateway.Alteration.Plan
import CatalogGateway.Store.Operations

/-!
# Carrying out alterations

The steps of a plan are carried out one after the other in an open transaction.
Each step looks the table up anew, under the name that the steps before it gave it.
A failure ends the run and leaves the transaction as the steps before made it.
-/

namespace CatalogGateway

namespace Alteration

variable {σ : Type} [MetadataStore σ]

def presentName (table : TableName) (present : SchemaTable) : String :=
  s!"{table.metalake}.{table.catalog}.{present.display}"

def columnName (table : TableName) (handle : TableHandle) (column : String) : String :=
  s!"{presentName table handle.name}.{column}"

def findTable (store : σ) (table : TableName) (present : SchemaTable) :
    Except Fault TableHandle :=
  match MetadataStore.tableHandle? store present with
  | some handle => .ok handle
  | none => .error (.notFound .table (presentName table present))

/-- Refuse to take away the name of a column that the layout of the table refers to. -/
def requireOutsideLayout (provider : Provider) (store : σ) (table : TableName)
    (handle : TableHandle) (step : Step) : Except Fault Unit :=
  match step.displaced? with
  | none => .ok ()
  | some column => do
    let stored ← (MetadataStore.tableMetadata store handle).mapError .store
    let current ← provider.parseTable stored
    if column ∈ current.layout.columns then
      .error (.catalog (.unsupportedOperation step.kind.display
        (columnName table handle column) "the column is part of the table layout"))
    else .ok ()

def hasColumn (store : σ) (handle : TableHandle) (column : String) : Except Fault Bool := do
  let handles ← (MetadataStore.columnHandles store handle).mapError .store
  return handles.any (·.name = column)

/-- What a mutation of the table leaves; the table keeps its name. -/
def settle (handle : TableHandle) (outcome : Except StoreFault Unit × σ) :
    Except Fault SchemaTable × σ :=
  ((outcome.1.mapError .store).map fun _ => handle.name, outcome.2)

def withColumn (store : σ) (table : TableName) (handle : TableHandle) (column : String)
    (change : σ → Except StoreFault Unit × σ) : Except Fault SchemaTable × σ :=
  match hasColumn store handle column with
  | .error fault => (.error fault, store)
  | .ok false => (.error (.notFound .column (columnName table handle column)), store)
  | .ok true => settle handle (change store)

/-- Carry out a step on the table of a handle.  The result is the name that the table
has afterwards. -/
def execute (store : σ) (table : TableName) (handle : TableHandle) :
    Step → Except Fault SchemaTable × σ
  | .renameTable newName =>
    let target : SchemaTable := ⟨handle.name.schema, newName⟩
    let outcome := MetadataStore.renameTable store handle target
    ((outcome.1.mapError .store).map fun _ => target, outcome.2)
  | .addColumn column ordinal =>
    settle handle (MetadataStore.addColumn store handle column ordinal)
  | .deleteColumn column ifExists =>
    match hasColumn store handle column, ifExists with
    | .ok false, true => (.ok handle.name, store)
    | _, _ => withColumn store table handle column fun store =>
        MetadataStore.dropColumn store handle column
  | .renameColumn column newName =>
    withColumn store table handle column fun store =>
      MetadataStore.renameColumn store handle column newName
  | .updateColumnType column type =>
    withColumn store table handle column fun store =>
      MetadataStore.setColumnType store handle column type
  | .updateComment comment => settle handle (MetadataStore.setTableComment store handle comment)
  | .updateColumnComment column comment =>
    withColumn store table handle column fun store =>
      MetadataStore.setColumnComment store handle column comment
  | .setProperty key value =>
    settle handle (MetadataStore.setTableProperties store handle
      (Dictionary.empty.insert key (some value)))
  | .removeProperty key =>
    settle handle (MetadataStore.setTableProperties store handle
      (Dictionary.empty.insert key none))

/-- Look the table up and carry out a step on it. -/
def perform (provider : Provider) (store : σ) (table : TableName) (present : SchemaTable)
    (step : Step) : Except Fault SchemaTable × σ :=
  match (do
    let handle ← findTable store table present
    requireOutsideLayout provider store table handle step
    return handle) with
  | .error fault => (.error fault, store)
  | .ok handle => execute store table handle step

/-- Carry out steps in order.  The result is the name that the table ends up with. -/
def run (provider : Provider) (store : σ) (table : TableName) (present : SchemaTable) :
    List Step → Except Fault SchemaTable × σ
  | [] => (.ok present, store)
  | step :: rest =>
    match perform provider store table present step with
    | (.error fault, after) => (.error fault, after)
    | (.ok renamed, after) => run provider after table renamed rest

/-- Plan a request and carry it out.  Nothing is touched unless all of it is valid. -/
def apply (provider : Provider) (store : σ) (table : TableName) (changes : List TableChange) :
    Except Fault SchemaTable × σ :=
  match plan provider table changes with
  | .error fault => (.error fault, store)
  | .ok steps => run provider store table table.schemaTable steps

end Alteration

end CatalogGateway
