import CatalogGateway.Alteration.Execution
import CatalogGateway.Proofs.Store.Refinement

/-!
# Simulation of alterations

An alteration uses a store through its calls alone.  So if stores simulate others, the steps
that succeed on a store succeed alike on each store that the first is related to.  The name
under which the table was asked for shows in faults only, so it may be another one there.
-/

namespace CatalogGateway

variable {σ τ : Type} [MetadataStore σ] [MetadataStore τ] {relation : σ → τ → Prop}
  {store : σ} {other : τ}

open MetadataStore Outcome

namespace Alteration

section Steps

variable (simulation : Simulation relation) (related : relation store other)

include simulation related

theorem findTable_refines (table otherTable : TableName) (present : SchemaTable) :
    Refines Eq (findTable store table present) (findTable other otherTable present) := by
  rw [findTable, findTable, simulation.tableHandle? related]
  split
  · exact Refines.refl _
  · exact Refines.error

theorem requireOutsideLayout_refines (provider : Provider) (table otherTable : TableName)
    (handle : TableHandle) (step : Step) :
    Refines Eq (requireOutsideLayout provider store table handle step)
      (requireOutsideLayout provider other otherTable handle step) := by
  rw [requireOutsideLayout, requireOutsideLayout]
  cases step.displaced? with
  | none => exact Refines.refl _
  | some column =>
      have reads := simulation.answer related (.tableMetadata handle) StoreReply.metadata.inj
        rfl rfl
      refine reads.mapError.bind_eq fun _ => Refines.after fun _ => ?_
      split
      · exact Refines.error
      · exact Refines.refl _

theorem hasColumn_refines (handle : TableHandle) (column : String) :
    Refines Eq (hasColumn store handle column) (hasColumn other handle column) := by
  have reads := simulation.answer related (.columnHandles handle) StoreReply.columns.inj rfl rfl
  exact reads.mapError.bind_eq fun _ => Refines.refl _

theorem withColumn_repeats (table otherTable : TableName) (handle : TableHandle) (column : String)
    {change : σ → Except StoreFault Unit × σ} {otherChange : τ → Except StoreFault Unit × τ}
    (changes : Repeats relation (change store) (otherChange other)) :
    Repeats relation (withColumn store table handle column change)
      (withColumn other otherTable handle column otherChange) := by
  have reads := hasColumn_refines simulation related handle column
  rw [withColumn, withColumn]
  cases found : hasColumn store handle column with
  | error fault => exact Repeats.error
  | ok isThere =>
      obtain ⟨_, otherFound, rfl⟩ := reads isThere found
      rw [otherFound]
      cases isThere with
      | false => exact Repeats.error
      | true => exact changes.mapError.map

/-- A step that succeeds also does so on a related store. -/
theorem execute_repeats (table otherTable : TableName) (handle : TableHandle) (step : Step) :
    Repeats relation (execute store table handle step)
      (execute other otherTable handle step) := by
  cases step with
  | renameTable newName =>
      exact (simulation.acknowledge related (.renameTable handle _) rfl rfl).mapError.map
  | addColumn column ordinal =>
      exact (simulation.acknowledge related (.addColumn handle column ordinal)
        rfl rfl).mapError.map
  | deleteColumn column ifExists =>
      have deletes : Repeats relation
          (withColumn store table handle column fun store => dropColumn store handle column)
          (withColumn other otherTable handle column fun store =>
            dropColumn store handle column) :=
        withColumn_repeats simulation related table otherTable handle column
          (simulation.acknowledge related (.dropColumn handle column) rfl rfl)
      have reads := hasColumn_refines simulation related handle column
      cases found : hasColumn store handle column with
      | error fault =>
          simp only [execute, withColumn, found]
          exact Repeats.error
      | ok isThere =>
          obtain ⟨_, otherFound, rfl⟩ := reads isThere found
          simp only [execute, found, otherFound]
          cases isThere with
          | true => exact deletes
          | false =>
              cases ifExists with
              | true => exact Repeats.ok related
              | false => exact deletes
  | renameColumn column newName =>
      exact withColumn_repeats simulation related table otherTable handle column
        (simulation.acknowledge related (.renameColumn handle column newName) rfl rfl)
  | updateColumnType column type =>
      exact withColumn_repeats simulation related table otherTable handle column
        (simulation.acknowledge related (.setColumnType handle column type) rfl rfl)
  | updateComment comment =>
      exact (simulation.acknowledge related (.setTableComment handle comment)
        rfl rfl).mapError.map
  | updateColumnComment column comment =>
      exact withColumn_repeats simulation related table otherTable handle column
        (simulation.acknowledge related (.setColumnComment handle column comment) rfl rfl)
  | setProperty key value =>
      exact (simulation.acknowledge related (.setTableProperties handle _) rfl rfl).mapError.map
  | removeProperty key =>
      exact (simulation.acknowledge related (.setTableProperties handle _) rfl rfl).mapError.map

theorem perform_repeats (provider : Provider) (table otherTable : TableName)
    (present : SchemaTable) (step : Step) :
    Repeats relation (perform provider store table present step)
      (perform provider other otherTable present step) := by
  have checks : Refines Eq
      (findTable store table present >>= fun handle =>
        requireOutsideLayout provider store table handle step >>= fun _ => .ok handle)
      (findTable other otherTable present >>= fun handle =>
        requireOutsideLayout provider other otherTable handle step >>= fun _ => .ok handle) := by
    have finds := findTable_refines simulation related table otherTable present
    refine finds.bind_eq fun handle => ?_
    have allows := requireOutsideLayout_refines simulation related provider table otherTable
      handle step
    exact allows.bind_eq fun _ => Refines.refl _
  unfold perform
  split
  · exact Repeats.error
  · rename_i handle checked
    obtain ⟨_, otherChecked, rfl⟩ := checks handle checked
    have otherPasses : (do
        let handle ← findTable other otherTable present
        requireOutsideLayout provider other otherTable handle step
        return handle) = .ok handle := otherChecked
    rw [otherPasses]
    exact execute_repeats simulation related table otherTable handle step

end Steps

/-- Steps that succeed one after the other also do so on a related store. -/
theorem run_repeats (simulation : Simulation relation) (provider : Provider)
    (table otherTable : TableName) (steps : List Step) (present : SchemaTable)
    (related : relation store other) :
    Repeats relation (run provider store table present steps)
      (run provider other otherTable present steps) := by
  induction steps generalizing store other present with
  | nil => exact Repeats.ok related
  | cons step rest ih =>
      have first := perform_repeats simulation related provider table otherTable present step
      rw [run, run]
      split
      · exact Repeats.error
      · rename_i renamed after performed
        rw [performed] at first
        obtain ⟨otherPerformed, stillRelated⟩ := first renamed rfl
        generalize perform provider other otherTable present step = outcome at *
        obtain ⟨reply, otherAfter⟩ := outcome
        cases otherPerformed
        exact ih renamed stillRelated

theorem apply_repeats (simulation : Simulation relation) (related : relation store other)
    (provider : Provider) (table : TableName) (changes : List TableChange) :
    Repeats relation (apply provider store table changes)
      (apply provider other table changes) := by
  rw [Alteration.apply, Alteration.apply]
  cases plan provider table changes with
  | error fault => exact Repeats.error
  | ok steps => exact run_repeats simulation provider table table steps table.schemaTable related

end Alteration

end CatalogGateway
