import CatalogGateway.Proofs.Provider.HiveLayout
import CatalogGateway.Proofs.Provider.IcebergLayout
import CatalogGateway.Provider.Adapter

/-!
# What providers keep of a layout

Each provider keeps a part of a layout.  Under either policy this part is what is stored, and it
is read back.  Nothing of it is lost when it is stored again, so that the strict policy takes it,
and it is stored in the same way.
-/

namespace CatalogGateway

/-- The columns that rows are partitioned and sorted by have names. -/
structure Layout.Named (layout : Layout) : Prop where
  partitioning : ∀ transform ∈ layout.partitioning, ∀ column ∈ transform.columns, column ≠ ""
  sortOrders : ∀ order ∈ layout.sortOrders, order.column ≠ ""

namespace Provider

variable {provider : Provider} {policy : LayoutPolicy} {table : TableDefinition} {layout : Layout}

/-- The part of a layout that a provider keeps. -/
def keptLayout : Provider → Layout → Layout
  | memory, _ => {}
  | hive, layout => HiveLayout.kept layout
  | iceberg, layout => IcebergLayout.kept layout

/-- How the part of a layout that a provider keeps is stored. -/
def storedLayout : Provider → Layout → EngineProperties
  | memory, _ => .empty
  | hive, layout => HiveLayout.stored layout
  | iceberg, layout => IcebergLayout.stored layout

/-- Whether a provider can store something of a layout, or has to refuse it under any policy. -/
def Storable : Provider → Layout → Prop
  | hive, layout => HiveLayout.Bucketable layout.distribution
  | memory, _ | iceberg, _ => True

theorem isPresent_eq_false_iff : layout.isPresent = false ↔ layout = {} := by
  obtain ⟨partitioning, orders, distribution⟩ := layout
  simp [Layout.isPresent, and_assoc]

/-- A layout is stored if it can be and, under the strict policy, all of it is kept. -/
theorem encodeLayout_eq_ok_iff {properties : EngineProperties} :
    provider.encodeLayout policy table = .ok properties ↔
      provider.Storable table.layout ∧
        (policy = .required → provider.keptLayout table.layout = table.layout) ∧
        provider.storedLayout table.layout = properties := by
  cases provider with
  | memory =>
      rw [encodeLayout, keptLayout, storedLayout, Storable, true_and, eq_comm (b := table.layout),
        ← isPresent_eq_false_iff]
      cases present : table.layout.isPresent with
      | false => simp [pure, Except.pure]
      | true =>
          rw [if_pos rfl, leaveOut_bind_eq_ok_iff]
          cases policy <;> simp [pure, Except.pure]
  | hive => exact HiveLayout.encode_eq_ok_iff
  | iceberg =>
      rw [Storable, true_and]
      exact IcebergLayout.encode_eq_ok_iff

/-- The part of a layout that is kept is read back. -/
theorem decodeLayout_storedLayout (named : layout.Named) (storable : provider.Storable layout) :
    provider.decodeLayout (provider.storedLayout layout) = .ok (provider.keptLayout layout) := by
  cases provider with
  | memory => rfl
  | hive => exact HiveLayout.decode_stored named.sortOrders storable
  | iceberg => exact IcebergLayout.decode_stored named.partitioning named.sortOrders

theorem keptLayout_keptLayout (provider : Provider) (layout : Layout) :
    provider.keptLayout (provider.keptLayout layout) = provider.keptLayout layout := by
  cases provider with
  | memory => rfl
  | hive => exact HiveLayout.kept_kept layout
  | iceberg => exact IcebergLayout.kept_kept layout

theorem storedLayout_keptLayout (provider : Provider) (layout : Layout) :
    provider.storedLayout (provider.keptLayout layout) = provider.storedLayout layout := by
  cases provider with
  | memory => rfl
  | hive => exact HiveLayout.stored_kept layout
  | iceberg => exact IcebergLayout.stored_kept layout

/-- A layout is stored under the keys of the provider. -/
theorem key_mem_of_storedLayout {entry : String × PropertyValue}
    (member : entry ∈ (provider.storedLayout layout).entries) : entry.1 ∈ provider.layoutKeys := by
  cases provider with
  | memory => cases member
  | hive =>
      have inParts := Dictionary.key_mem_of_mem_ofList member
      exact (HiveLayout.keys_storedParts layout).subset inParts
  | iceberg =>
      have inParts := Dictionary.key_mem_of_mem_ofList member
      exact (IcebergLayout.keys_storedParts layout).subset inParts

theorem storable_keptLayout (storable : provider.Storable layout) :
    provider.Storable (provider.keptLayout layout) := by
  cases provider with
  | memory | iceberg => trivial
  | hive => exact HiveLayout.bucketable_kept storable

end Provider

end CatalogGateway
