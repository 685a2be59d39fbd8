import CatalogGateway.Proofs.Store.Outcome
import CatalogGateway.Provider.Adapter

/-!
# Faults of reading tables

A stored table cannot be read if a type or a part of its layout has no reading.  Neither is ever
reported as something that is missing.
-/

namespace CatalogGateway

open Outcome

/-- A fault does not say that something is missing. -/
def Fault.IsPresent (fault : Fault) : Prop :=
  fault.kind ≠ .notFound

theorem TypeFault.isPresent (fault : TypeFault) : (Fault.type fault).IsPresent := by
  cases fault <;> exact nofun

namespace Provider

/-- A part of a layout is refused as an argument of an operation is. -/
def RefusesArgument (fault : CatalogFault) : Prop :=
  ∃ name reason, fault = .invalidArgument name reason

theorem raises_readArray (properties : EngineProperties) (key : String) :
    Raises RefusesArgument (readArray properties key) := by
  rw [readArray]
  split
  · exact .ok _
  · exact .ok _
  · exact .error ⟨_, _, rfl⟩

end Provider

open Provider (RefusesArgument raises_readArray)

namespace HiveLayout

theorem raises_decodeSortKey (key : String) : Raises RefusesArgument (decodeSortKey key) := by
  rw [decodeSortKey]
  split
  · exact .ok _
  · exact .error ⟨_, _, rfl⟩

theorem raises_decodeDistribution (properties : EngineProperties) (columns : List String) :
    Raises RefusesArgument (decodeDistribution properties columns) := by
  rw [decodeDistribution]
  split
  · exact .ok _
  · split
    · exact .ok _
    · exact .error ⟨_, _, rfl⟩

theorem raises_decode (properties : EngineProperties) :
    Raises RefusesArgument (decode properties) :=
  (raises_readArray _ _).bind fun _ => (raises_readArray _ _).bind fun _ =>
    (raises_decodeDistribution _ _).bind fun _ => (raises_readArray _ _).bind fun _ =>
      (Raises.mapM raises_decodeSortKey _).bind fun _ => .ok _

end HiveLayout

namespace IcebergLayout

theorem raises_decodeTransform (entry : String) :
    Raises RefusesArgument (decodeTransform entry) := by
  rw [decodeTransform]
  split
  · exact .ok _
  · exact .error ⟨_, _, rfl⟩

theorem raises_decodeSortKey (key : String) : Raises RefusesArgument (decodeSortKey key) := by
  rw [decodeSortKey]
  split
  · exact .ok _
  · exact .error ⟨_, _, rfl⟩

theorem raises_decode (properties : EngineProperties) :
    Raises RefusesArgument (decode properties) :=
  (raises_readArray _ _).bind fun _ => (Raises.mapM raises_decodeTransform _).bind fun _ =>
    (raises_readArray _ _).bind fun _ => (Raises.mapM raises_decodeSortKey _).bind fun _ => .ok _

end IcebergLayout

namespace Provider

variable (provider : Provider)

theorem raises_decodeLayout (properties : EngineProperties) :
    Raises RefusesArgument (provider.decodeLayout properties) := by
  cases provider with
  | memory => exact .ok _
  | hive => exact HiveLayout.raises_decode properties
  | iceberg => exact IcebergLayout.raises_decode properties

/-- A table that cannot be read is not reported as missing. -/
theorem raises_parseTable (table : EngineTable) :
    Raises Fault.IsPresent (provider.parseTable table) := by
  have columns : Raises Fault.IsPresent
      ((provider.parseColumns 0 table.columns).mapError .type) :=
    .mapError fun fault _ => fault.isPresent
  have layout : Raises Fault.IsPresent
      ((provider.decodeLayout table.properties).mapError .catalog) := by
    refine .mapError ((provider.raises_decodeLayout table.properties).imp ?_)
    rintro _ ⟨name, reason, rfl⟩
    exact nofun
  exact columns.bind fun _ => layout.bind fun _ => .ok _

end Provider

end CatalogGateway
