import CatalogGateway.Proofs.Store.Picture

/-!
# Calls of depicted stores

A change of a relational store is the same change of its picture.  There is one exception:
a table whose column names repeat is refused by both, but the relational store keeps the
table with the columns before the first repeated name.
-/

namespace CatalogGateway

namespace Metastore

variable {store : Metastore}

section ColumnsOf

theorem columnsOf_mapColumns {table other : Nat} {which : ColumnRow → Bool}
    {change : ColumnRow → ColumnRow} (keeps : ∀ row, (change row).table = row.table) :
    (store.mapColumns table which change).columnsOf other =
      if other = table then
        (store.columnsOf table).map fun row => if which row then change row else row
      else store.columnsOf other := by
  have same (row : ColumnRow) :
      (if row.table = table && which row then change row else row).table = row.table := by
    split
    · exact keeps row
    · rfl
  simp only [columnsOf, mapColumns, List.filter_map, Function.comp_def, same]
  split
  · rename_i isTable
    rw [isTable]
    apply List.map_congr_left
    intro row member
    have owner : row.table = table := by simpa using (List.mem_filter.mp member).2
    simp [owner]
  · rename_i isOther
    apply ColumnRow.map_eq_self
    intro row member
    have owner : row.table = other := by simpa using (List.mem_filter.mp member).2
    simp [owner, isOther]

theorem columnsOf_append {table other : Nat} {rows : List ColumnRow}
    (owned : ∀ row ∈ rows, row.table = table) :
    columnsOf { store with columns := store.columns ++ rows } other =
      if other = table then store.columnsOf table ++ rows else store.columnsOf other := by
  simp only [columnsOf, List.filter_append]
  split
  · rename_i isTable
    rw [isTable, List.filter_eq_self.mpr fun row member => decide_eq_true (owned row member)]
  · rename_i isOther
    refine (congrArg _ (List.filter_eq_nil_iff.mpr ?_)).trans (List.append_nil _)
    intro row member
    simpa [owned row member] using Ne.symm isOther

theorem columnsOf_filter {other : Nat} {keep : ColumnRow → Bool} :
    columnsOf { store with columns := store.columns.filter keep } other =
      (store.columnsOf other).filter keep := by
  simp only [columnsOf, List.filter_filter, Bool.and_comm]

theorem columnsOf_openGap {table other index : Nat} :
    (store.openGap table index).columnsOf other =
      if other = table then (store.columnsOf table).map (ColumnRow.shiftUp index)
      else store.columnsOf other := by
  rw [openGap, columnsOf_mapColumns]
  · simp only [decide_eq_true_eq]
    rfl
  · exact fun _ => rfl

theorem columnsOf_removeColumn {table other ordinal : Nat} {column : String} :
    (store.removeColumn table ordinal column).columnsOf other =
      if other = table then
        ((store.columnsOf table).filter fun row => !decide (row.name = column)).map
          (ColumnRow.shiftDown ordinal)
      else store.columnsOf other := by
  have moved : (store.removeColumn table ordinal column).columnsOf other =
      if other = table then (columnsOf { store with columns := store.columns.filter fun row =>
        !(row.table = table && row.name = column) } table).map (ColumnRow.shiftDown ordinal)
      else columnsOf { store with columns := store.columns.filter fun row =>
        !(row.table = table && row.name = column) } other := by
    rw [removeColumn, columnsOf_mapColumns]
    · simp only [decide_eq_true_eq]
      rfl
    · exact fun _ => rfl
  rw [moved, columnsOf_filter, columnsOf_filter]
  split
  · refine congrArg (List.map (ColumnRow.shiftDown ordinal)) (List.filter_congr ?_)
    intro row member
    have owner : row.table = table := by simpa using (List.mem_filter.mp member).2
    simp [owner]
  · rename_i isOther
    apply List.filter_eq_self.mpr
    intro row member
    have owner : row.table = other := by simpa using (List.mem_filter.mp member).2
    simp [owner, isOther]

end ColumnsOf

end Metastore

namespace MemoryStore

variable {store : MemoryStore}

theorem columnsAt_mapTable {id other : Nat} {change : MemoryTable → MemoryTable}
    {table : MemoryTable} (found : store.tables.lookup id = some table) :
    (store.mapTable id change).columnsAt other =
      if other = id then (change table).columns else store.columnsAt other := by
  rw [columnsAt, lookup_mapTable]
  split
  · rename_i same
    rw [same, found]
    rfl
  · rfl

end MemoryStore

namespace Metastore.Depicts

variable {store : Metastore} {picture : MemoryStore}

section Changes

/-- A change of the row of a table that leaves its columns alone. -/
theorem mapTable {id : Nat} {table : MemoryTable} {change : MemoryTable → MemoryTable}
    {changeRow : TableRow → TableRow} (depicts : store.Depicts picture) (sound : picture.Sound)
    (found : picture.tables.lookup id = some table)
    (row : changeRow (.ofEntry (id, table)) = .ofEntry (id, change table))
    (columns : (change table).columns = table.columns) :
    (store.mapTable id changeRow).Depicts (picture.mapTable id change) where
  schemas := depicts.schemas
  tables := by
    simp only [Metastore.mapTable, MemoryStore.mapTable, depicts.tables, List.map_map]
    apply List.map_congr_left
    rintro ⟨present, held⟩ member
    simp only [Function.comp_apply]
    by_cases same : present = id
    · subst same
      obtain rfl : table = held :=
        Option.some.inj (found.symm.trans (sound.mem_iff.mp member))
      rw [if_pos rfl, ← row]
      exact if_pos rfl
    · rw [if_neg same]
      exact if_neg same
  columns other := by
    rw [MemoryStore.columnsAt_mapTable found, columns]
    have unchanged := depicts.columns other
    split
    · rename_i same
      rw [same, MemoryStore.columnsAt, found] at unchanged
      rwa [same]
    · exact unchanged
  lastTableId := depicts.lastTableId

/-- A change of the columns of a table that leaves its row alone. -/
theorem mapColumns {id : Nat} {table : MemoryTable} {change : MemoryTable → MemoryTable}
    {after : Metastore} (depicts : store.Depicts picture)
    (found : picture.tables.lookup id = some table)
    (rest : after = { store with columns := after.columns })
    (rows : ∀ table, TableRow.ofEntry (id, change table) = .ofEntry (id, table))
    (changed : (after.columnsOf id).Perm (ColumnRow.rowsOf id (change table).columns))
    (others : ∀ other, other ≠ id → after.columnsOf other = store.columnsOf other) :
    after.Depicts (picture.mapTable id change) where
  schemas := by
    rw [rest]
    exact depicts.schemas
  tables := by
    rw [rest]
    simp only [MemoryStore.mapTable, depicts.tables, List.map_map]
    apply List.map_congr_left
    rintro ⟨present, held⟩ _
    simp only [Function.comp_apply]
    split
    · rename_i same
      subst same
      exact (rows held).symm
    · rfl
  columns other := by
    rw [MemoryStore.columnsAt_mapTable found]
    split
    · rename_i same
      rwa [same]
    · rename_i different
      rw [others other different]
      exact depicts.columns other
  lastTableId := by
    rw [rest]
    exact depicts.lastTableId

theorem createSchema {schema : String} {properties : EngineProperties}
    (depicts : store.Depicts picture) (fresh : picture.schemas.contains schema = false) :
    Depicts { store with schemas := store.schemas ++ [⟨schema, properties.toJson⟩] }
      { picture with schemas := picture.schemas.insert schema properties } where
  schemas := by
    rw [Dictionary.contains, Option.isSome_eq_false_iff, Option.isNone_iff_eq_none] at fresh
    refine (List.perm_append_comm.trans (depicts.schemas.cons _)).trans ?_
    exact ((Dictionary.insertEntry_perm fresh).map SchemaRow.ofEntry).symm
  tables := depicts.tables
  columns := depicts.columns
  lastTableId := depicts.lastTableId

/-- Removing tables removes their columns with them. -/
theorem removeTables {which : TableRow → Bool} {keep : Nat × MemoryTable → Bool}
    (depicts : store.Depicts picture) (sound : picture.Sound)
    (same : ∀ entry, (!which (.ofEntry entry)) = keep entry) :
    (store.removeTables which).Depicts
      { picture with tables := picture.tables.filter keep } where
  schemas := depicts.schemas
  tables := by
    simp only [Metastore.removeTables, depicts.tables, List.filter_map]
    congr 1
    exact List.filter_congr fun entry _ => same entry
  columns id := by
    have removed : ((store.tables.filter which).map TableRow.id).contains id =
        (picture.tables.lookup id).any fun table => !keep (id, table) := by
      rw [Bool.eq_iff_iff, Option.any_eq_true]
      simp only [depicts.tables, List.filter_map, List.map_map, List.contains_iff_mem,
        List.mem_map, List.mem_filter, ← sound.mem_iff, ← same, Bool.not_not,
        Function.comp_apply]
      constructor
      · rintro ⟨⟨_, table⟩, ⟨member, gone⟩, rfl⟩
        exact ⟨table, member, gone⟩
      · rintro ⟨table, member, gone⟩
        exact ⟨(id, table), ⟨member, gone⟩, rfl⟩
    have stands := depicts.columns id
    have columns : (store.removeTables which).columnsOf id = (store.columnsOf id).filter
        fun _ => !(picture.tables.lookup id).any fun table => !keep (id, table) := by
      refine columnsOf_filter.trans (List.filter_congr fun row member => ?_)
      have owner : row.table = id := by simpa using (List.mem_filter.mp member).2
      rw [owner, removed]
    rw [columns, MemoryStore.columnsAt, Dictionary.lookup_filter sound.ids_nodup]
    rw [MemoryStore.columnsAt] at stands
    cases found : picture.tables.lookup id with
    | none => simpa [found] using stands
    | some table =>
        rw [found] at stands
        cases kept : keep (id, table) with
        | true => simpa [Option.filter_some, kept] using stands
        | false => simp [Option.filter_some, kept, ColumnRow.rowsFrom]
  lastTableId := depicts.lastTableId

end Changes

section Calls

variable {handle : TableHandle}

/-- The same answer, and a relational store that depicts what the other outcome leaves. -/
abbrev Follows {α : Type} (outcome : Except StoreFault α × Metastore)
    (shown : Except StoreFault α × MemoryStore) : Prop :=
  outcome.1 = shown.1 ∧ outcome.2.Depicts shown.2

theorem createSchema_follows (depicts : store.Depicts picture) (schema : String)
    (properties : EngineProperties) :
    Follows (MetadataStore.createSchema store schema properties)
      (MetadataStore.createSchema picture schema properties) := by
  apply MetadataStore.guarded_agree Eq depicts
  · rw [depicts.containsSchema]
    exact Outcome.Agree.of_eq rfl
  · intro _ _ _ _ checked
    refine depicts.createSchema ?_
    split at checked
    · contradiction
    · rename_i fresh
      exact Bool.eq_false_iff.mpr fresh

theorem dropSchema_follows (depicts : store.Depicts picture) (sound : picture.Sound)
    (schema : String) (cascade : Bool) :
    Follows (MetadataStore.dropSchema store schema cascade)
      (MetadataStore.dropSchema picture schema cascade) := by
  apply MetadataStore.guarded_agree Eq depicts
  · rw [depicts.requireSchema, depicts.tablesOf, List.isEmpty_map]
    exact Outcome.Agree.of_eq rfl
  · intro _ _ _ _ _
    have emptied : (store.removeTables fun row => decide (row.schema = schema)).Depicts
        { picture with
          tables := picture.tables.filter fun entry => decide (entry.2.name.schema ≠ schema) } :=
      depicts.removeTables sound fun _ => decide_not.symm
    refine ⟨?_, emptied.tables, emptied.columns, emptied.lastTableId⟩
    refine (depicts.schemas.filter _).trans (List.Perm.of_eq ?_)
    rw [List.filter_map]
    rfl

theorem dropTable_follows (depicts : store.Depicts picture) (sound : picture.Sound)
    (handle : TableHandle) :
    Follows (MetadataStore.dropTable store handle) (MetadataStore.dropTable picture handle) := by
  apply MetadataStore.guarded_agree _ depicts (depicts.resolve handle)
  intro _ _ _ _ _
  exact depicts.removeTables sound fun _ => decide_not.symm

theorem renameTable_follows (depicts : store.Depicts picture) (sound : picture.Sound)
    (handle : TableHandle)
    (name : SchemaTable) :
    Follows (MetadataStore.renameTable store handle name)
      (MetadataStore.renameTable picture handle name) := by
  apply MetadataStore.guarded_agree Eq depicts
  · apply (depicts.resolve handle).bind
    intro _ _ _ _ _
    rw [depicts.requireSchema, depicts.requireFree]
    exact Outcome.Agree.of_eq rfl
  · intro _ _ _ _ checked
    obtain ⟨table, found, _⟩ := Outcome.bind_eq_ok_iff.mp checked
    exact depicts.mapTable sound (MemoryStore.table_eq_ok_iff.mp found).1 rfl rfl

theorem setTableComment_follows (depicts : store.Depicts picture) (sound : picture.Sound)
    (handle : TableHandle) (comment : Option String) :
    Follows (MetadataStore.setTableComment store handle comment)
      (MetadataStore.setTableComment picture handle comment) := by
  apply MetadataStore.guarded_agree _ depicts (depicts.resolve handle)
  intro _ table _ _ found
  exact depicts.mapTable sound (MemoryStore.table_eq_ok_iff.mp found).1 rfl rfl

theorem setTableProperties_follows (depicts : store.Depicts picture) (sound : picture.Sound)
    (handle : TableHandle) (changes : PropertyChanges) :
    Follows (MetadataStore.setTableProperties store handle changes)
      (MetadataStore.setTableProperties picture handle changes) := by
  apply MetadataStore.guarded_agree _ depicts (depicts.resolve handle)
  rintro _ table rfl _ found
  exact depicts.mapTable sound (MemoryStore.table_eq_ok_iff.mp found).1 rfl rfl

theorem addColumn_follows (depicts : store.Depicts picture) (handle : TableHandle)
    (column : EngineColumn) (ordinal : Option Nat) :
    Follows (MetadataStore.addColumn store handle column ordinal)
      (MetadataStore.addColumn picture handle column ordinal) := by
  apply MetadataStore.guarded_agree Eq depicts
  · apply (depicts.resolve handle).bind
    intro _ table _ _ found
    rw [depicts.requireUnused found, depicts.newOrdinal found]
    exact Outcome.Agree.of_eq rfl
  · rintro index _ rfl _ checked
    obtain ⟨table, found, checked⟩ := Outcome.bind_eq_ok_iff.mp checked
    obtain ⟨_, _, within⟩ := Outcome.bind_eq_ok_iff.mp checked
    have gap (other : Nat) :
        ((store.openGap handle.id index).insertColumn handle.id index column).columnsOf other =
          if other = handle.id then (store.columnsOf handle.id).map (ColumnRow.shiftUp index) ++
            [.ofColumn handle.id index column] else store.columnsOf other := by
      have owned : ∀ row ∈ [ColumnRow.ofColumn handle.id index column], row.table = handle.id := by
        simp [ColumnRow.ofColumn]
      rw [insertColumn, columnsOf_append owned, columnsOf_openGap, columnsOf_openGap, if_pos rfl]
      split <;> rfl
    refine depicts.mapColumns (MemoryStore.table_eq_ok_iff.mp found).1 rfl (fun _ => rfl) ?_ ?_
    · rw [gap, if_pos rfl]
      exact ColumnRow.insert_perm (depicts.columnsOf_of_table found)
        (MemoryTable.newOrdinal_eq_ok_iff.mp within).2
    · intro other different
      rw [gap, if_neg different]

theorem dropColumn_follows (depicts : store.Depicts picture) (sound : picture.Sound)
    (handle : TableHandle) (column : String) :
    Follows (MetadataStore.dropColumn store handle column)
      (MetadataStore.dropColumn picture handle column) := by
  apply MetadataStore.guarded_agree (fun ordinal _ =>
    ∃ table before present after, picture.table handle = .ok table ∧
      table.columns = before ++ present :: after ∧ before.length = ordinal ∧
        present.name = column) depicts
  · apply (depicts.resolve handle).bind
    intro _ table _ _ found
    apply (depicts.requireColumn found column).imp
    rintro ordinal _ ⟨before, present, after, splits, place, named⟩
    exact ⟨table, before, present, after, found, splits, place, named⟩
  · rintro _ _ ⟨table, before, present, after, found, splits, rfl, rfl⟩ _ _
    refine depicts.mapColumns (MemoryStore.table_eq_ok_iff.mp found).1 rfl (fun _ => rfl) ?_ ?_
    · rw [columnsOf_removeColumn, if_pos rfl]
      have stands := depicts.columnsOf_of_table found
      have distinct := sound.columns (MemoryStore.table_eq_ok_iff.mp found).1
      rw [MemoryTable.DistinctColumns, splits] at distinct
      rw [splits] at stands
      show List.Perm _ (ColumnRow.rowsOf handle.id (table.columns.filter _))
      rw [splits]
      exact ColumnRow.remove_perm stands distinct
    · intro other different
      rw [columnsOf_removeColumn, if_neg different]

/-- A change of the row of a column is a change of the column in the picture. -/
theorem mapColumn {table : MemoryTable} {column : String} {changeRow : ColumnRow → ColumnRow}
    {change : EngineColumn → EngineColumn} (depicts : store.Depicts picture)
    (found : picture.table handle = .ok table) (owner : ∀ row, (changeRow row).table = row.table)
    (changes : ∀ ordinal column, changeRow (.ofColumn handle.id ordinal column) =
      .ofColumn handle.id ordinal (change column)) :
    (store.mapColumns handle.id (fun row => decide (row.name = column)) changeRow).Depicts
      (picture.mapTable handle.id fun table => table.mapColumn column change) := by
  refine depicts.mapColumns (MemoryStore.table_eq_ok_iff.mp found).1 rfl (fun _ => rfl) ?_ ?_
  · rw [columnsOf_mapColumns owner, if_pos rfl]
    simp only [decide_eq_true_eq]
    exact ColumnRow.update_perm changes (depicts.columnsOf_of_table found)
  · intro other different
    rw [columnsOf_mapColumns owner, if_neg different]

theorem renameColumn_follows (depicts : store.Depicts picture) (handle : TableHandle)
    (column name : String) :
    Follows (MetadataStore.renameColumn store handle column name)
      (MetadataStore.renameColumn picture handle column name) := by
  apply MetadataStore.guarded_agree Eq depicts
  · apply (depicts.resolve handle).bind
    intro _ table _ _ found
    apply (depicts.requireColumn found column).bind
    intro _ _ _ _ _
    rw [depicts.requireUnused found]
    exact Outcome.Agree.of_eq rfl
  · intro _ _ _ _ checked
    obtain ⟨table, found, _⟩ := Outcome.bind_eq_ok_iff.mp checked
    exact depicts.mapColumn found (fun _ => rfl) fun _ _ => rfl

theorem updateColumn_follows {column : String} {changeRow : ColumnRow → ColumnRow}
    {change : EngineColumn → EngineColumn} (depicts : store.Depicts picture)
    (owner : ∀ row, (changeRow row).table = row.table)
    (changes : ∀ ordinal column, changeRow (.ofColumn handle.id ordinal column) =
      .ofColumn handle.id ordinal (change column)) :
    Follows (store.updateColumn handle column changeRow)
      (MetadataStore.guarded picture
        (picture.table handle >>= fun table => table.requireColumn column) fun _ =>
          picture.mapTable handle.id fun table => table.mapColumn column change) := by
  apply MetadataStore.guarded_agree (fun _ _ => True) depicts
  · apply (depicts.resolve handle).bind
    intro _ table _ _ found
    exact (depicts.requireColumn found column).imp fun _ _ _ => trivial
  · intro _ _ _ _ checked
    obtain ⟨table, found, _⟩ := Outcome.bind_eq_ok_iff.mp checked
    exact depicts.mapColumn found owner changes

theorem setColumnType_follows (depicts : store.Depicts picture) (handle : TableHandle)
    (column : String) (type : EngineType) :
    Follows (MetadataStore.setColumnType store handle column type)
      (MetadataStore.setColumnType picture handle column type) :=
  depicts.updateColumn_follows (fun _ => rfl) fun _ _ => rfl

theorem setColumnComment_follows (depicts : store.Depicts picture) (handle : TableHandle)
    (column : String) (comment : Option String) :
    Follows (MetadataStore.setColumnComment store handle column comment)
      (MetadataStore.setColumnComment picture handle column comment) :=
  depicts.updateColumn_follows (fun _ => rfl) fun _ _ => rfl

end Calls

end Metastore.Depicts

namespace MemoryTable

/-- The columns before the first whose name is among those seen or belongs to a column
before it. -/
def leadingDistinct (seen : List String) : List EngineColumn → List EngineColumn
  | [] => []
  | column :: rest =>
    if column.name ∈ seen then [] else column :: leadingDistinct (column.name :: seen) rest

theorem requireDistinct_leadingDistinct (display : String) (seen : List String)
    (columns : List EngineColumn) :
    requireDistinct display seen (leadingDistinct seen columns) = .ok () := by
  induction columns generalizing seen with
  | nil => rfl
  | cons column rest ih =>
      rw [leadingDistinct]
      split
      · rfl
      · rw [requireDistinct, if_neg ‹_›, ih]

theorem leadingDistinct_eq_self {display : String} {seen : List String}
    {columns : List EngineColumn} (accepted : requireDistinct display seen columns = .ok ()) :
    leadingDistinct seen columns = columns := by
  induction columns generalizing seen with
  | nil => rfl
  | cons column rest ih =>
      rw [requireDistinct] at accepted
      split at accepted
      · contradiction
      · rw [leadingDistinct, if_neg ‹_›, ih accepted]

end MemoryTable

/-- A table with its leading columns only. -/
def EngineTable.leading (table : EngineTable) : EngineTable :=
  { table with columns := MemoryTable.leadingDistinct [] table.columns }

namespace Metastore

/-- The store with a new table and all its columns. -/
def addTable (store : Metastore) (schema : String) (table : EngineTable) : Metastore :=
  { store.insertTable schema table with
    columns := store.columns ++ ColumnRow.rowsOf (store.lastTableId + 1) table.columns }

theorem requireUnused_eq {store : Metastore} {handle : TableHandle} {column : String} :
    store.requireUnused handle column =
      if column ∈ (store.columnsOf handle.id).map ColumnRow.name then
        .error (.columnExists handle.name.display column)
      else .ok () := by
  rw [requireUnused, columnOrdinal?, Option.isSome_map]
  congr 1
  rw [List.find?_isSome]
  simp

/-- Adding columns one by one adds the leading ones, and fails where the check of all names
at once fails. -/
theorem insertColumns_eq {store : Metastore} {handle : TableHandle} {ordinal : Nat}
    {columns : List EngineColumn} {seen : List String}
    (names : ∀ name, name ∈ (store.columnsOf handle.id).map ColumnRow.name ↔ name ∈ seen) :
    store.insertColumns handle ordinal columns =
      (MemoryTable.requireDistinct handle.name.display seen columns,
        { store with
          columns := store.columns ++ ColumnRow.rowsFrom handle.id ordinal
            (MemoryTable.leadingDistinct seen columns) }) := by
  induction columns generalizing store ordinal seen with
  | nil => simp [insertColumns, MemoryTable.requireDistinct, MemoryTable.leadingDistinct,
      ColumnRow.rowsFrom]
  | cons column rest ih =>
      rw [insertColumns, requireUnused_eq, MemoryTable.requireDistinct,
        MemoryTable.leadingDistinct]
      simp only [names]
      by_cases repeated : column.name ∈ seen
      · simp [repeated, ColumnRow.rowsFrom]
      · simp only [if_neg repeated]
        have more : ∀ name, name ∈ ((store.insertColumn handle.id ordinal column).columnsOf
            handle.id).map ColumnRow.name ↔ name ∈ column.name :: seen := by
          intro name
          have owned : ∀ row ∈ [ColumnRow.ofColumn handle.id ordinal column],
              row.table = handle.id := by
            simp [ColumnRow.ofColumn]
          rw [insertColumn, columnsOf_append owned, if_pos rfl, List.map_append,
            List.mem_append, names, List.mem_cons, Or.comm]
          simp [ColumnRow.ofColumn]
        rw [ih more]
        simp [insertColumn, ColumnRow.rowsFrom]

namespace Depicts

variable {store : Metastore} {picture : MemoryStore}

/-- The checks of the name of a new table come before anything is written. -/
theorem createTable_eq_match (schema : String) (table : EngineTable) :
    MetadataStore.createTable store schema table =
      match (store.requireSchema schema >>= fun _ =>
        store.requireFree none ⟨schema, table.name⟩) with
      | .error fault => (.error fault, store)
      | .ok _ =>
        let filled := (store.insertTable schema table).insertColumns
          ⟨store.lastTableId + 1, ⟨schema, table.name⟩⟩ 0 table.columns
        (filled.1.map fun _ => ⟨store.lastTableId + 1, ⟨schema, table.name⟩⟩, filled.2) :=
  rfl

theorem checkName (depicts : store.Depicts picture) (schema table : String) :
    (store.requireSchema schema >>= fun _ => store.requireFree none ⟨schema, table⟩) =
      picture.requireSchema schema >>= fun _ => picture.requireFree none ⟨schema, table⟩ := by
  rw [depicts.requireSchema, depicts.requireFree]

theorem addTable (depicts : store.Depicts picture) (sound : picture.Sound) (schema : String)
    (table : EngineTable) :
    (store.addTable schema table).Depicts (picture.addTable (.ofEngine schema table)) where
  schemas := depicts.schemas
  tables := by
    simp only [Metastore.addTable, insertTable, MemoryStore.addTable, depicts.tables,
      List.map_append, depicts.lastTableId]
    rfl
  columns id := by
    have owned : ∀ row ∈ ColumnRow.rowsOf (store.lastTableId + 1) table.columns,
        row.table = store.lastTableId + 1 := by
      intro row member
      obtain ⟨_, _, _, _, rfl⟩ := ColumnRow.split_of_mem member
      rfl
    have grown : (store.addTable schema table).columnsOf id =
          if id = store.lastTableId + 1 then store.columnsOf (store.lastTableId + 1) ++
            ColumnRow.rowsOf (store.lastTableId + 1) table.columns
          else store.columnsOf id :=
      columnsOf_append owned
    rw [grown, MemoryStore.columnsAt, sound.lookup_addTable, depicts.lastTableId]
    split
    · rename_i next
      have stands := depicts.columns (picture.lastTableId + 1)
      rw [MemoryStore.columnsAt, sound.lookup_next] at stands
      rw [next, List.Perm.eq_nil stands]
      exact List.Perm.refl _
    · exact depicts.columns id
  lastTableId := by
    simp only [Metastore.addTable, insertTable, MemoryStore.addTable, depicts.lastTableId]

/-- Creating a table that passes the checks of its name adds it with the leading columns. -/
theorem createTable_of_accepted (depicts : store.Depicts picture) (sound : picture.Sound)
    {schema : String} {table : EngineTable}
    (accepted : (picture.requireSchema schema >>= fun _ =>
      picture.requireFree none ⟨schema, table.name⟩) = .ok ()) :
    MetadataStore.createTable store schema table =
      ((MemoryTable.requireDistinct (SchemaTable.display ⟨schema, table.name⟩) []
          table.columns).map fun _ => ⟨picture.lastTableId + 1, ⟨schema, table.name⟩⟩,
        store.addTable schema table.leading) := by
  have empty : store.columnsOf (store.lastTableId + 1) = [] := by
    have stands := depicts.columns (picture.lastTableId + 1)
    rw [MemoryStore.columnsAt, sound.lookup_next] at stands
    rw [depicts.lastTableId]
    exact List.Perm.eq_nil stands
  have filled : (store.insertTable schema table).insertColumns
      ⟨store.lastTableId + 1, ⟨schema, table.name⟩⟩ 0 table.columns = _ :=
    insertColumns_eq fun name => by
      show name ∈ (store.columnsOf (store.lastTableId + 1)).map ColumnRow.name ↔ name ∈ []
      rw [empty]
      rfl
  rw [createTable_eq_match, depicts.checkName, accepted, ← depicts.lastTableId]
  simp only [filled]
  rfl

theorem createTable_of_refused (depicts : store.Depicts picture) {schema : String}
    {table : EngineTable} {fault : StoreFault}
    (refused : (picture.requireSchema schema >>= fun _ =>
      picture.requireFree none ⟨schema, table.name⟩) = .error fault) :
    MetadataStore.createTable store schema table = (.error fault, store) := by
  rw [createTable_eq_match, depicts.checkName, refused]

end Depicts

/-- How a call comes out on a relational store and on its picture. -/
inductive Mirrors (store : Metastore) (picture : MemoryStore) : StoreCall → Prop where
  /-- The answers are the same, and so are the changes. -/
  | alike {call : StoreCall} (answer : (call.run store).1 = (call.run picture).1)
      (depicts : (call.run store).2.Depicts (call.run picture).2) : Mirrors store picture call
  /-- The columns of a table are asked for, and one of their types nests too deeply. -/
  | illegible {call : StoreCall} {handle : TableHandle} {table : MemoryTable}
      {column : EngineColumn} {fault : StoreFault}
      (found : picture.table handle = .ok table) (present : column ∈ table.columns)
      (deep : ¬ column.type.Legible) (answer : call.run store = (.error fault, store))
      (unchanged : (call.run picture).2 = picture) : Mirrors store picture call
  /-- A table is refused for a repeated column name, but the relational store keeps it with
  the columns before. -/
  | abandoned {schema : String} {table : EngineTable} {fault : StoreFault}
      (accepted : (picture.requireSchema schema >>= fun _ =>
        picture.requireFree none ⟨schema, table.name⟩) = .ok ())
      (repeated : MemoryTable.requireDistinct (SchemaTable.display ⟨schema, table.name⟩) []
        table.columns = .error fault)
      (answer : ((StoreCall.createTable schema table).run store).1 = .error fault)
      (shown : (StoreCall.createTable schema table).run picture = (.error fault, picture))
      (depicts : ((StoreCall.createTable schema table).run store).2.Depicts
        (picture.addTable (.ofEngine schema table.leading))) :
      Mirrors store picture (.createTable schema table)

namespace Depicts

variable {store : Metastore} {picture : MemoryStore}

theorem mirrors_acknowledge {call : StoreCall} {outcome : Except StoreFault Unit × Metastore}
    {shown : Except StoreFault Unit × MemoryStore} (follows : Follows outcome shown)
    (runs : call.run store = StoreCall.acknowledge outcome)
    (runsPicture : call.run picture = StoreCall.acknowledge shown) :
    Mirrors store picture call := by
  apply Mirrors.alike
  · rw [runs, runsPicture, StoreCall.acknowledge, StoreCall.acknowledge, follows.1]
  · rw [runs, runsPicture]
    exact follows.2

theorem mirrors_createTable (depicts : store.Depicts picture) (sound : picture.Sound)
    (limitless : picture.maxTables = none) (schema : String) (table : EngineTable) :
    Mirrors store picture (.createTable schema table) := by
  have room : picture.requireRoom = .ok () := by
    rw [MemoryStore.requireRoom, limitless]
  have shown := MemoryStore.createTable_eq_match room schema table
  have runs {σ : Type} [MetadataStore σ] (start : σ) :
      (StoreCall.createTable schema table).run start =
        ((MetadataStore.createTable start schema table).1.map .created,
          (MetadataStore.createTable start schema table).2) := rfl
  cases accepted : picture.requireSchema schema >>= fun _ =>
      picture.requireFree none ⟨schema, table.name⟩ with
  | error fault =>
      rw [accepted] at shown
      apply Mirrors.alike
      · rw [runs, runs, shown, depicts.createTable_of_refused accepted]
      · rw [runs, runs, shown, depicts.createTable_of_refused accepted]
        exact depicts
  | ok _ =>
      rw [accepted] at shown
      have created := depicts.createTable_of_accepted sound accepted
      have added := depicts.addTable sound schema table.leading
      cases distinct : MemoryTable.requireDistinct
          (SchemaTable.display ⟨schema, table.name⟩) [] table.columns with
      | error fault =>
          simp only [distinct] at shown created
          apply Mirrors.abandoned accepted distinct
          · rw [runs, created]
            rfl
          · rw [runs, shown]
            rfl
          · rw [runs, created]
            exact added
      | ok _ =>
          simp only [distinct] at shown created
          rw [EngineTable.leading, MemoryTable.leadingDistinct_eq_self distinct] at created added
          apply Mirrors.alike
          · rw [runs, runs, shown, created]
            rfl
          · rw [runs, runs, shown, created]
            exact added

theorem mirrors_answer {α : Type} {call : StoreCall} {encode : α → StoreReply}
    {outcome shown : Except StoreFault α} (depicts : store.Depicts picture)
    (same : outcome = shown) (runs : call.run store = StoreCall.answer store encode outcome)
    (runsPicture : call.run picture = StoreCall.answer picture encode shown) :
    Mirrors store picture call := by
  apply Mirrors.alike
  · rw [runs, runsPicture, same]
    rfl
  · rw [runs, runsPicture]
    exact depicts

/-- A question about the columns of a table, which may not be legible. -/
theorem mirrors_columns {α : Type} {call : StoreCall} {handle : TableHandle}
    {encode : α → StoreReply} {view : TableRow × EngineProperties → List EngineColumn → α}
    {viewPicture : MemoryTable → α} (depicts : store.Depicts picture)
    (views : ∀ table, view (TableRow.ofEntry (handle.id, table), table.properties)
      table.columns = viewPicture table)
    (runs : call.run store = StoreCall.answer store encode
      (store.resolve handle >>= fun found =>
        store.readColumns handle.id >>= fun columns => .ok (view found columns)))
    (runsPicture : call.run picture = StoreCall.answer picture encode
      ((picture.table handle).map viewPicture)) :
    Mirrors store picture call := by
  cases found : picture.table handle with
  | error fault =>
      rw [depicts.resolve_of_error found] at runs
      rw [found] at runsPicture
      exact depicts.mirrors_answer rfl runs runsPicture
  | ok table =>
      rw [depicts.resolve_of_table found] at runs
      rw [found] at runsPicture
      cases read : store.readColumns handle.id with
      | ok columns =>
          rw [read] at runs
          obtain ⟨_, rfl⟩ := (depicts.readColumns_eq_ok_iff found).mp read
          exact depicts.mirrors_answer (congrArg Except.ok (views table)) runs runsPicture
      | error fault =>
          rw [read] at runs
          have deep : ¬ ∀ column ∈ table.columns, column.type.Legible := by
            intro legible
            have readable := (depicts.readColumns_eq_ok_iff found).mpr ⟨legible, rfl⟩
            rw [read] at readable
            contradiction
          obtain ⟨column, present, illegible⟩ : ∃ column ∈ table.columns,
              ¬ column.type.Legible := by
            simpa using deep
          exact .illegible found present illegible runs (by rw [runsPicture]; rfl)

/-- Every call comes out in one of these ways. -/
theorem mirrors (depicts : store.Depicts picture) (sound : picture.Sound)
    (limitless : picture.maxTables = none) (call : StoreCall) : Mirrors store picture call := by
  cases call with
  | schemaNames =>
      exact depicts.mirrors_answer (congrArg Except.ok depicts.schemaNames) rfl rfl
  | hasSchema schema =>
      exact depicts.mirrors_answer (congrArg Except.ok (depicts.containsSchema schema)) rfl rfl
  | schemaProperties schema =>
      exact depicts.mirrors_answer (depicts.schemaProperties schema) rfl rfl
  | tableNames schema => exact depicts.mirrors_answer (depicts.tableNames schema) rfl rfl
  | tableHandle name =>
      exact depicts.mirrors_answer (congrArg Except.ok (depicts.tableHandle? name)) rfl rfl
  | tableMetadata handle => exact depicts.mirrors_columns (fun _ => rfl) rfl rfl
  | columnHandles handle => exact depicts.mirrors_columns (fun _ => rfl) rfl rfl
  | createSchema schema properties =>
      exact mirrors_acknowledge (depicts.createSchema_follows schema properties) rfl rfl
  | dropSchema schema cascade =>
      exact mirrors_acknowledge (depicts.dropSchema_follows sound schema cascade) rfl rfl
  | createTable schema table => exact depicts.mirrors_createTable sound limitless schema table
  | dropTable handle =>
      exact mirrors_acknowledge (depicts.dropTable_follows sound handle) rfl rfl
  | renameTable handle name =>
      exact mirrors_acknowledge (depicts.renameTable_follows sound handle name) rfl rfl
  | addColumn handle column ordinal =>
      exact mirrors_acknowledge (depicts.addColumn_follows handle column ordinal) rfl rfl
  | dropColumn handle column =>
      exact mirrors_acknowledge (depicts.dropColumn_follows sound handle column) rfl rfl
  | renameColumn handle column name =>
      exact mirrors_acknowledge (depicts.renameColumn_follows handle column name) rfl rfl
  | setColumnType handle column type =>
      exact mirrors_acknowledge (depicts.setColumnType_follows handle column type) rfl rfl
  | setColumnComment handle column comment =>
      exact mirrors_acknowledge (depicts.setColumnComment_follows handle column comment) rfl rfl
  | setTableComment handle comment =>
      exact mirrors_acknowledge (depicts.setTableComment_follows sound handle comment) rfl rfl
  | setTableProperties handle changes =>
      exact mirrors_acknowledge (depicts.setTableProperties_follows sound handle changes) rfl rfl

end Depicts

end Metastore

end CatalogGateway
