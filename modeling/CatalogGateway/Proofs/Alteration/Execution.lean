import CatalogGateway.Proofs.Alteration.Simulation
import CatalogGateway.Proofs.Store.Contents

/-!
# Effects of alterations

On a sound store in memory, a step that succeeds replaces the table that it addresses by what
the step makes of it, and nothing else.  A run of steps replaces the table by what the steps
make of it one after the other, under the name that they leave it.
-/

namespace CatalogGateway

namespace MemoryStore

/-- Whatever succeeds on a sound store leaves a sound one. -/
theorem simulation_sound :
    MetadataStore.Simulation fun store other : MemoryStore => store = other ∧ store.Sound := by
  rintro store _ ⟨rfl, sound⟩ call reply succeeds
  exact ⟨succeeds, rfl, sound.run call⟩

end MemoryStore

namespace Alteration

section Runs

variable {σ : Type} [MetadataStore σ] {store after : σ} {provider : Provider} {name : TableName}
  {present renamed : SchemaTable} {step : Step}

theorem perform_eq_ok_iff :
    perform provider store name present step = (.ok renamed, after) ↔
      ∃ handle, findTable store name present = .ok handle ∧
        requireOutsideLayout provider store name handle step = .ok () ∧
        execute store name handle step = (.ok renamed, after) := by
  have checked_iff (handle : TableHandle) :
      (findTable store name present >>= fun handle =>
        requireOutsideLayout provider store name handle step >>= fun _ => .ok handle) =
          .ok handle ↔
        findTable store name present = .ok handle ∧
          requireOutsideLayout provider store name handle step = .ok () := by
    simp only [Outcome.bind_eq_ok_iff, Except.ok.injEq]
    constructor
    · rintro ⟨_, located, _, outside, rfl⟩
      exact ⟨located, outside⟩
    · rintro ⟨located, outside⟩
      exact ⟨handle, located, (), outside, rfl⟩
  constructor
  · intro performed
    unfold perform at performed
    split at performed
    · cases performed
    · rename_i handle checked
      obtain ⟨located, outside⟩ := (checked_iff handle).mp checked
      exact ⟨handle, located, outside, performed⟩
  · rintro ⟨handle, located, outside, executed⟩
    have checked := (checked_iff handle).mpr ⟨located, outside⟩
    simp only [perform, pure, Except.pure, checked, executed]

theorem run_cons_eq_ok_iff {rest : List Step} :
    run provider store name present (step :: rest) = (.ok renamed, after) ↔
      ∃ middle between, perform provider store name present step = (.ok middle, between) ∧
        run provider between name middle rest = (.ok renamed, after) := by
  rw [run]
  constructor
  · intro ran
    split at ran
    · cases ran
    · rename_i middle between performed
      exact ⟨middle, between, performed, ran⟩
  · rintro ⟨middle, between, performed, ran⟩
    rw [performed]
    exact ran

end Runs

/-- What a step makes of a table in memory. -/
def Step.applyTo (table : MemoryTable) : Step → MemoryTable
  | .renameTable newName => { table with name := ⟨table.name.schema, newName⟩ }
  | .addColumn column ordinal =>
    { table with columns := table.columns.insertIdx (ordinal.getD table.columns.length) column }
  | .deleteColumn column _ => { table with columns := table.columns.filter (·.name ≠ column) }
  | .renameColumn column newName => table.mapColumn column ({ · with name := newName })
  | .updateColumnType column type => table.mapColumn column ({ · with type })
  | .updateComment comment => { table with comment }
  | .updateColumnComment column comment => table.mapColumn column ({ · with comment })
  | .setProperty key value => { table with properties := table.properties.insert key value }
  | .removeProperty key => { table with properties := table.properties.erase key }

variable {store after : MemoryStore} {table : MemoryTable} {handle : TableHandle}
  {name : TableName} {renamed : SchemaTable}

section Outcomes

variable {outcome : Except StoreFault Unit × MemoryStore}
  {change : MemoryStore → Except StoreFault Unit × MemoryStore} {column : String}

theorem map_name_eq_ok {target : SchemaTable} (named :
      ((outcome.1.mapError Fault.store).map fun _ => target, outcome.2) = (.ok renamed, after)) :
    outcome = (.ok (), after) ∧ renamed = target := by
  obtain ⟨result, left⟩ := outcome
  cases result with
  | error fault => cases named
  | ok _ =>
      cases named
      exact ⟨rfl, rfl⟩

theorem settle_eq_ok (settled : settle handle outcome = (.ok renamed, after)) :
    outcome = (.ok (), after) ∧ renamed = handle.name :=
  map_name_eq_ok settled

theorem withColumn_eq_ok (changed : withColumn store name handle column change =
      (.ok renamed, after)) :
    change store = (.ok (), after) ∧ renamed = handle.name := by
  rw [withColumn] at changed
  split at changed
  · cases changed
  · cases changed
  · exact settle_eq_ok changed

theorem guarded_mapTable_eq_ok {α : Type} {checked : Except StoreFault α}
    {change : α → MemoryTable → MemoryTable} (sound : store.Sound)
    (found : store.table handle = .ok table)
    (changed : MetadataStore.guarded store checked
      (fun value => store.mapTable handle.id (change value)) = (.ok (), after)) :
    ∃ value, checked = .ok value ∧ after = store.setTable handle.id (change value table) := by
  obtain ⟨value, passes, rfl⟩ := MetadataStore.guarded_eq_ok_iff.mp changed
  have holds := (MemoryStore.table_eq_ok_iff.mp found).1
  exact ⟨value, passes, sound.mapTable_eq_setTable holds (change value)⟩

end Outcomes

theorem hasColumn_eq_ok (found : store.table handle = .ok table) (column : String) :
    hasColumn store handle column = .ok (table.hasColumn column) := by
  have handles : MetadataStore.columnHandles store handle =
      (store.table handle).map fun table =>
        table.columns.mapIdx fun ordinal column => ⟨column.name, ordinal⟩ := rfl
  rw [hasColumn, handles, found]
  apply congrArg Except.ok
  rw [MemoryTable.hasColumn, Bool.eq_iff_iff]
  simp [List.mem_iff_getElem]

/-- A step that succeeds on the table of a handle puts what it makes of the table in its
place. -/
theorem execute_eq_ok (sound : store.Sound) (found : store.table handle = .ok table)
    {step : Step} (executed : execute store name handle step = (.ok renamed, after)) :
    after = store.setTable handle.id (step.applyTo table) ∧
      renamed = (step.applyTo table).name := by
  obtain ⟨holds, named⟩ := MemoryStore.table_eq_ok_iff.mp found
  cases step with
  | renameTable newName =>
      obtain ⟨changed, rfl⟩ := map_name_eq_ok executed
      obtain ⟨_, _, rfl⟩ := guarded_mapTable_eq_ok sound found changed
      rw [← named]
      exact ⟨rfl, rfl⟩
  | addColumn column ordinal =>
      obtain ⟨changed, rfl⟩ := settle_eq_ok executed
      obtain ⟨index, checked, rfl⟩ := guarded_mapTable_eq_ok sound found changed
      obtain ⟨_, same, checked⟩ := Outcome.bind_eq_ok_iff.mp checked
      obtain rfl := Except.ok.inj (found.symm.trans same)
      obtain ⟨_, _, placed⟩ := Outcome.bind_eq_ok_iff.mp checked
      obtain ⟨rfl, _⟩ := MemoryTable.newOrdinal_eq_ok_iff.mp placed
      exact ⟨rfl, named.symm⟩
  | deleteColumn column ifExists =>
      have deletes (changed : withColumn store name handle column (fun store =>
          MetadataStore.dropColumn store handle column) = (.ok renamed, after)) :
          after = store.setTable handle.id ((Step.deleteColumn column ifExists).applyTo table) ∧
            renamed = ((Step.deleteColumn column ifExists).applyTo table).name := by
        obtain ⟨dropped, rfl⟩ := withColumn_eq_ok changed
        obtain ⟨_, _, rfl⟩ := guarded_mapTable_eq_ok sound found dropped
        exact ⟨rfl, named.symm⟩
      rw [execute.eq_def] at executed
      simp only [hasColumn_eq_ok found] at executed
      split at executed
      · rename_i _ _ missing
        cases executed
        -- There is no column of the name to take away.
        have unchanged : (Step.deleteColumn column true).applyTo table = table := by
          have others : table.columns.filter (·.name ≠ column) = table.columns := by
            simpa [MemoryTable.hasColumn] using Except.ok.inj missing
          rw [Step.applyTo, others]
        rw [unchanged, sound.setTable_self holds]
        exact ⟨rfl, named.symm⟩
      · exact deletes executed
  | renameColumn column newName =>
      rw [execute] at executed
      obtain ⟨changed, rfl⟩ := withColumn_eq_ok executed
      obtain ⟨_, _, rfl⟩ := guarded_mapTable_eq_ok sound found changed
      exact ⟨rfl, named.symm⟩
  | updateColumnType column type =>
      rw [execute] at executed
      obtain ⟨changed, rfl⟩ := withColumn_eq_ok executed
      obtain ⟨_, _, rfl⟩ := guarded_mapTable_eq_ok sound found changed
      exact ⟨rfl, named.symm⟩
  | updateColumnComment column comment =>
      rw [execute] at executed
      obtain ⟨changed, rfl⟩ := withColumn_eq_ok executed
      obtain ⟨_, _, rfl⟩ := guarded_mapTable_eq_ok sound found changed
      exact ⟨rfl, named.symm⟩
  | updateComment comment =>
      obtain ⟨changed, rfl⟩ := settle_eq_ok executed
      obtain ⟨_, _, rfl⟩ := guarded_mapTable_eq_ok sound found changed
      exact ⟨rfl, named.symm⟩
  | setProperty key value =>
      obtain ⟨changed, rfl⟩ := settle_eq_ok executed
      obtain ⟨_, _, rfl⟩ := guarded_mapTable_eq_ok sound found changed
      exact ⟨rfl, named.symm⟩
  | removeProperty key =>
      obtain ⟨changed, rfl⟩ := settle_eq_ok executed
      obtain ⟨_, _, rfl⟩ := guarded_mapTable_eq_ok sound found changed
      exact ⟨rfl, named.symm⟩

variable {provider : Provider} {present : SchemaTable} {id : Nat}

theorem perform_eq_ok (sound : store.Sound) (found : store.tables.lookup id = some table)
    (named : table.name = present) {step : Step}
    (performed : perform provider store name present step = (.ok renamed, after)) :
    after = store.setTable id (step.applyTo table) ∧ renamed = (step.applyTo table).name := by
  have located : findTable store name present = .ok ⟨id, present⟩ := by
    have handle : MetadataStore.tableHandle? store present = some ⟨id, present⟩ :=
      sound.tableHandle?_eq_some_iff.mpr ⟨rfl, table, found, named⟩
    rw [findTable, handle]
  obtain ⟨_, same, _, executed⟩ := perform_eq_ok_iff.mp performed
  obtain rfl := Except.ok.inj (located.symm.trans same)
  exact execute_eq_ok sound (MemoryStore.table_eq_ok_iff.mpr ⟨found, named⟩) executed

/-- Steps that succeed put what they make of the table, one after the other, in its place. -/
theorem run_eq_ok {steps : List Step} (sound : store.Sound)
    (found : store.tables.lookup id = some table) (named : table.name = present)
    (ran : run provider store name present steps = (.ok renamed, after)) :
    after = store.setTable id (steps.foldl Step.applyTo table) ∧
      renamed = (steps.foldl Step.applyTo table).name := by
  induction steps generalizing store table present with
  | nil =>
      cases ran
      exact ⟨(sound.setTable_self found).symm, named.symm⟩
  | cons step rest ih =>
      have sounds := perform_repeats MemoryStore.simulation_sound ⟨rfl, sound⟩ provider name
        name present step
      obtain ⟨middle, next, performed, ran⟩ := run_cons_eq_ok_iff.mp ran
      obtain ⟨rfl, middleNamed⟩ := perform_eq_ok sound found named performed
      rw [performed] at sounds
      obtain ⟨_, _, nextSound⟩ := sounds middle rfl
      have runs := ih nextSound (MemoryStore.lookup_setTable found _) middleNamed.symm ran
      rwa [MemoryStore.setTable_setTable] at runs

/-- Without a table of the name only an empty run succeeds. -/
theorem run_of_missing {steps : List Step}
    (missing : MetadataStore.tableHandle? store present = none)
    (ran : run provider store name present steps = (.ok renamed, after)) :
    renamed = present ∧ after = store := by
  cases steps with
  | nil =>
      cases ran
      exact ⟨rfl, rfl⟩
  | cons step rest =>
      simp only [run, perform, findTable, missing, bind, Except.bind] at ran
      cases ran

end Alteration

end CatalogGateway
