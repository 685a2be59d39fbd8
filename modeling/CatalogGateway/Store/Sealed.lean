import CatalogGateway.Store.Relational

/-!
# Sealed stores

A relational store that was opened for reading only.  It answers as the store does,
and checks a change as the store does, but a change that passes the checks is refused
when it is to be written.
-/

namespace CatalogGateway

/-- A relational store that can only be read. -/
structure SealedStore where
  store : Metastore
deriving Inhabited, Repr

namespace SealedStore

/-- The fault of an attempt to write. -/
def refusal : StoreFault :=
  .storage "attempt to write a readonly database"

/-- Keep the fault of a change, and refuse one that would succeed. -/
def refuse {α : Type} (sealed : SealedStore) (outcome : Except StoreFault α × Metastore) :
    Except StoreFault α × SealedStore :=
  (outcome.1.bind fun _ => .error refusal, sealed)

/-- A new table is refused before any of its columns is looked at. -/
def refuseTable (sealed : SealedStore) (schema : String) (table : EngineTable) :
    Except StoreFault TableHandle × SealedStore :=
  sealed.refuse (MetadataStore.createTable sealed.store schema { table with columns := [] })

instance : MetadataStore SealedStore where
  schemaNames sealed := MetadataStore.schemaNames sealed.store
  hasSchema sealed := MetadataStore.hasSchema sealed.store
  schemaProperties sealed := MetadataStore.schemaProperties sealed.store
  tableNames sealed := MetadataStore.tableNames sealed.store
  tableHandle? sealed := MetadataStore.tableHandle? sealed.store
  tableMetadata sealed := MetadataStore.tableMetadata sealed.store
  columnHandles sealed := MetadataStore.columnHandles sealed.store
  createSchema sealed schema properties :=
    sealed.refuse (MetadataStore.createSchema sealed.store schema properties)
  dropSchema sealed schema cascade :=
    sealed.refuse (MetadataStore.dropSchema sealed.store schema cascade)
  createTable sealed schema table := sealed.refuseTable schema table
  dropTable sealed handle := sealed.refuse (MetadataStore.dropTable sealed.store handle)
  renameTable sealed handle name :=
    sealed.refuse (MetadataStore.renameTable sealed.store handle name)
  addColumn sealed handle column ordinal :=
    sealed.refuse (MetadataStore.addColumn sealed.store handle column ordinal)
  dropColumn sealed handle column :=
    sealed.refuse (MetadataStore.dropColumn sealed.store handle column)
  renameColumn sealed handle column name :=
    sealed.refuse (MetadataStore.renameColumn sealed.store handle column name)
  setColumnType sealed handle column type :=
    sealed.refuse (MetadataStore.setColumnType sealed.store handle column type)
  setColumnComment sealed handle column comment :=
    sealed.refuse (MetadataStore.setColumnComment sealed.store handle column comment)
  setTableComment sealed handle comment :=
    sealed.refuse (MetadataStore.setTableComment sealed.store handle comment)
  setTableProperties sealed handle changes :=
    sealed.refuse (MetadataStore.setTableProperties sealed.store handle changes)

end SealedStore

end CatalogGateway
