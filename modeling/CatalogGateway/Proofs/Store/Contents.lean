import CatalogGateway.Proofs.Store.Reachable

/-!
# Contents of stores

What a store holds under the name of a schema and under the name of a table, in one form for
stores of every kind, and the ways in which a mutation may change it.  The contents of a
reachable store are those of its picture, so changes of a sound store in memory tell what
becomes of the contents of any store.
-/

namespace CatalogGateway

/-- What a store holds. -/
@[ext]
structure Contents where
  /-- The properties of the schema of a name. -/
  schema? : String → Option EngineProperties
  /-- The table of a name with its number. -/
  table? : SchemaTable → Option (Nat × EngineTable)

namespace Contents

/-- A schema is new, and nothing else has changed. -/
structure SchemaAdded (before after : Contents) (schema : String) : Prop where
  absent : before.schema? schema = none
  present : (after.schema? schema).isSome
  schemas : ∀ other, other ≠ schema → after.schema? other = before.schema? other
  tables : after.table? = before.table?

/-- A schema is gone and the tables in it are, of which there were none unless asked for, and
nothing else has changed. -/
structure SchemaDropped (before after : Contents) (schema : String) (cascade : Bool) : Prop where
  present : (before.schema? schema).isSome
  absent : after.schema? schema = none
  empty : cascade = false → ∀ name, name.schema = schema → before.table? name = none
  dropped : ∀ name, name.schema = schema → after.table? name = none
  schemas : ∀ other, other ≠ schema → after.schema? other = before.schema? other
  tables : ∀ name, name.schema ≠ schema → after.table? name = before.table? name

/-- A table is new, under a number that no table had, and nothing else has changed. -/
structure TableAdded (before after : Contents) (name : SchemaTable) : Prop where
  absent : before.table? name = none
  present : ∃ id table, after.table? name = some (id, table) ∧
    ∀ other held, before.table? other ≠ some (id, held)
  tables : ∀ other, other ≠ name → after.table? other = before.table? other
  schemas : after.schema? = before.schema?

/-- The table of a name is another under the same number, possibly with another name that was
free, and nothing else has changed. -/
structure TableReplaced (before after : Contents) (name next : SchemaTable) : Prop where
  replaced : ∃ id table other, before.table? name = some (id, table) ∧
    after.table? next = some (id, other)
  moved : next ≠ name → before.table? next = none ∧ after.table? name = none
  tables : ∀ other, other ≠ name → other ≠ next → after.table? other = before.table? other
  schemas : after.schema? = before.schema?

/-- A table is gone, and nothing else has changed. -/
structure TableDropped (before after : Contents) (name : SchemaTable) : Prop where
  present : (before.table? name).isSome
  absent : after.table? name = none
  tables : ∀ other, other ≠ name → after.table? other = before.table? other
  schemas : after.schema? = before.schema?

end Contents

namespace MemoryStore

/-- What a store in memory holds. -/
def contents (store : MemoryStore) : Contents where
  schema? := store.schemas.get?
  table? name :=
    (store.tables.find? (·.2.name = name)).map fun entry => (entry.1, entry.2.metadata)

end MemoryStore

namespace Metastore

/-- The column that a row stands for, however deeply its type nests. -/
def decodeColumn? (row : ColumnRow) : Option EngineColumn := do
  let type ← EngineType.ofJson? row.type
  return ⟨row.name, type, row.nullable, row.comment⟩

/-- What the rows of a relational store stand for. -/
def contents (store : Metastore) : Contents where
  schema? schema := do
    let row ← store.schemas.find? (·.name = schema)
    EngineProperties.ofJson? row.properties
  table? name := do
    let row ← store.tables.find? (·.schemaTable = name)
    let properties ← EngineProperties.ofJson? row.properties
    let columns ← (store.orderedColumns row.id).mapM decodeColumn?
    return (row.id, ⟨row.name, columns, row.comment, properties⟩)

end Metastore

/-- What a store of any kind holds. -/
def Store.contents : Store → Contents
  | .memory store => store.contents
  | .relational store => store.contents
  | .sealed kept => kept.store.contents

namespace Metastore

theorem decodeColumn?_ofColumn (table ordinal : Nat) (column : EngineColumn) :
    decodeColumn? (.ofColumn table ordinal column) = some column := by
  simp [decodeColumn?, ColumnRow.ofColumn, EngineType.ofJson?_toJson]

theorem mapM_decodeColumn? (table start : Nat) (columns : List EngineColumn) :
    (ColumnRow.rowsFrom table start columns).mapM decodeColumn? = some columns := by
  induction columns generalizing start with
  | nil => rfl
  | cons column rest ih =>
      rw [ColumnRow.rowsFrom, List.mapM_cons, decodeColumn?_ofColumn, ih]
      rfl

namespace Shows

variable {store : Metastore} {picture : MemoryStore}

theorem schema?_contents (shows : store.Shows picture) (schema : String) :
    store.contents.schema? schema = picture.contents.schema? schema := by
  show (store.schemas.find? (·.name = schema) >>= fun row =>
    EngineProperties.ofJson? row.properties) = picture.schemas.get? schema
  rw [shows.depicts.find?_schema]
  cases picture.schemas.get? schema with
  | none => rfl
  | some properties => exact EngineProperties.ofJson?_toJson properties

theorem table?_contents (shows : store.Shows picture) (name : SchemaTable) :
    store.contents.table? name = picture.contents.table? name := by
  have rows : store.tables.find? (·.schemaTable = name) =
      (picture.tables.find? (·.2.name = name)).map TableRow.ofEntry := by
    rw [shows.depicts.tables, List.find?_map]
    rfl
  simp only [Metastore.contents, MemoryStore.contents, rows]
  cases found : picture.tables.find? (·.2.name = name) with
  | none => rfl
  | some entry =>
      obtain ⟨id, table⟩ := entry
      have holds := shows.sound.mem_iff.mp (List.mem_of_find?_eq_some found)
      have columns : store.orderedColumns id = ColumnRow.rowsOf id table.columns := by
        have perm := shows.depicts.columns id
        rw [MemoryStore.columnsAt, holds] at perm
        exact ColumnRow.mergeSort_eq perm
      have properties : EngineProperties.ofJson? (TableRow.ofEntry (id, table)).properties =
          some table.properties := EngineProperties.ofJson?_toJson table.properties
      have same : (TableRow.ofEntry (id, table)).id = id := rfl
      simp only [Option.map_some, Option.bind_eq_bind, Option.bind_some, properties, same,
        columns, ColumnRow.rowsOf, mapM_decodeColumn?]
      rfl

theorem contents (shows : store.Shows picture) : store.contents = picture.contents := by
  apply Contents.ext
  · exact funext shows.schema?_contents
  · exact funext shows.table?_contents

end Shows

end Metastore

namespace Store

variable {store : Store} {picture : MemoryStore}

theorem Shows.sound (shows : store.Shows picture) : picture.Sound := by
  cases store with
  | memory store =>
      obtain ⟨rfl, sound⟩ := shows
      exact sound
  | relational store => exact Metastore.Shows.sound shows
  | «sealed» kept => exact Metastore.Shows.sound shows

/-- A store holds what its picture holds. -/
theorem Shows.contents (shows : store.Shows picture) : store.contents = picture.contents := by
  cases store with
  | memory store => exact congrArg MemoryStore.contents shows.1
  | relational store => exact Metastore.Shows.contents shows
  | «sealed» kept => exact Metastore.Shows.contents shows

end Store

namespace MemoryStore

variable {store : MemoryStore} {id : Nat} {table : MemoryTable}

/-- The store with another table under a number that is taken. -/
def setTable (store : MemoryStore) (id : Nat) (table : MemoryTable) : MemoryStore :=
  store.mapTable id fun _ => table

theorem lookup_setTable (found : store.tables.lookup id = some table) (next : MemoryTable) :
    (store.setTable id next).tables.lookup id = some next := by
  rw [setTable, lookup_mapTable, if_pos rfl, found, Option.map_some]

theorem setTable_setTable (store : MemoryStore) (id : Nat) (first second : MemoryTable) :
    (store.setTable id first).setTable id second = store.setTable id second := by
  simp only [setTable, mapTable, List.map_map]
  congr 1
  apply List.map_congr_left
  intro entry _
  simp only [Function.comp_apply]
  split <;> simp_all

namespace Sound

theorem mapTable_eq_setTable (sound : store.Sound) (found : store.tables.lookup id = some table)
    (change : MemoryTable → MemoryTable) :
    store.mapTable id change = store.setTable id (change table) := by
  simp only [setTable, MemoryStore.mapTable]
  congr 1
  apply List.map_congr_left
  rintro ⟨other, held⟩ member
  split
  · rename_i same
    obtain rfl : other = id := same
    rw [sound.mem_iff, found] at member
    rw [Option.some.inj member]
  · rfl

theorem setTable_self (sound : store.Sound) (found : store.tables.lookup id = some table) :
    store.setTable id table = store := by
  have unchanged : store.mapTable id (fun held => held) = store := by
    simp [MemoryStore.mapTable]
  rw [← sound.mapTable_eq_setTable found fun held => held, unchanged]

end Sound

section Contents

variable {after : MemoryStore} {name : SchemaTable}

theorem findTable?_eq_map (store : MemoryStore) (name : SchemaTable) :
    store.findTable? name = (store.contents.table? name).map Prod.fst := by
  simp only [findTable?, contents, Option.map_map]
  rfl

namespace Sound

theorem table?_eq_some_iff (sound : store.Sound) {contents : EngineTable} :
    store.contents.table? name = some (id, contents) ↔
      ∃ table, store.tables.lookup id = some table ∧ table.name = name ∧
        table.metadata = contents := by
  simp only [MemoryStore.contents, Option.map_eq_some_iff]
  constructor
  · rintro ⟨⟨_, table⟩, found, same⟩
    cases same
    exact ⟨table, sound.mem_iff.mp (List.mem_of_find?_eq_some found),
      by simpa using List.find?_some found, rfl⟩
  · rintro ⟨table, found, named, rfl⟩
    have number := sound.findTable?_eq_some_iff.mpr ⟨table, found, named⟩
    obtain ⟨⟨_, held⟩, first, rfl⟩ := Option.map_eq_some_iff.mp number
    have holds := sound.mem_iff.mp (List.mem_of_find?_eq_some first)
    cases found.symm.trans holds
    exact ⟨_, first, rfl⟩

theorem table?_eq_none_iff (sound : store.Sound) :
    store.contents.table? name = none ↔
      ∀ id table, store.tables.lookup id = some table → table.name ≠ name := by
  rw [← sound.findTable?_eq_none_iff, findTable?_eq_map, Option.map_eq_none_iff]

/-- A name has the same table in two stores if they hold the same tables of the name. -/
theorem table?_congr (sound : store.Sound) (afterSound : after.Sound)
    (same : ∀ id table, table.name = name →
      (after.tables.lookup id = some table ↔ store.tables.lookup id = some table)) :
    after.contents.table? name = store.contents.table? name := by
  apply Option.ext
  rintro ⟨id, contents⟩
  rw [afterSound.table?_eq_some_iff, sound.table?_eq_some_iff]
  constructor
  · rintro ⟨table, found, named, shown⟩
    exact ⟨table, (same id table named).mp found, named, shown⟩
  · rintro ⟨table, found, named, shown⟩
    exact ⟨table, (same id table named).mpr found, named, shown⟩

/-- A table that is replaced in a sound store, with a sound store as the result, leaves its
name and takes another that is free. -/
theorem replaced (sound : store.Sound) (found : store.tables.lookup id = some table)
    {next : MemoryTable} (afterSound : (store.setTable id next).Sound) :
    store.contents.TableReplaced (store.setTable id next).contents table.name next.name := by
  have foundAfter := lookup_setTable found next
  have elsewhere {other : Nat} (different : other ≠ id) :
      (store.setTable id next).tables.lookup other = store.tables.lookup other := by
    rw [setTable, lookup_mapTable, if_neg different]
  constructor
  case replaced =>
    exact ⟨id, table.metadata, next.metadata,
      sound.table?_eq_some_iff.mpr ⟨table, found, rfl, rfl⟩,
      afterSound.table?_eq_some_iff.mpr ⟨next, foundAfter, rfl, rfl⟩⟩
  case moved =>
    intro moves
    constructor
    · rw [sound.table?_eq_none_iff]
      intro other held holds named
      by_cases same : other = id
      · rw [same, found] at holds
        cases holds
        exact moves named.symm
      · exact same (afterSound.names ((elsewhere same).trans holds) foundAfter named)
    · rw [afterSound.table?_eq_none_iff]
      intro other held holds named
      by_cases same : other = id
      · rw [same, foundAfter] at holds
        cases holds
        exact moves named
      · exact same (sound.names ((elsewhere same).symm.trans holds) found named)
  case tables =>
    intro other notOld notNew
    apply sound.table?_congr afterSound
    intro number held named
    by_cases same : number = id
    · rw [same, found, foundAfter, Option.some.injEq, Option.some.injEq]
      constructor
      · rintro rfl
        exact absurd named.symm notNew
      · rintro rfl
        exact absurd named.symm notOld
    · rw [elsewhere same]
  case schemas => rfl

/-- A table that is added to a sound store under a free name, with a sound store as the
result, has a number of its own. -/
theorem tableAdded (sound : store.Sound) (afterSound : (store.addTable table).Sound)
    (free : store.findTable? table.name = none) :
    store.contents.TableAdded (store.addTable table).contents table.name := by
  constructor
  case absent => rwa [findTable?_eq_map, Option.map_eq_none_iff] at free
  case present =>
    refine ⟨store.lastTableId + 1, table.metadata, ?_, ?_⟩
    · exact afterSound.table?_eq_some_iff.mpr
        ⟨table, by rw [sound.lookup_addTable, if_pos rfl], rfl, rfl⟩
    · intro other held taken
      obtain ⟨_, found, _⟩ := sound.table?_eq_some_iff.mp taken
      rw [sound.lookup_next] at found
      cases found
  case tables =>
    intro other different
    apply sound.table?_congr afterSound
    intro number held named
    rw [sound.lookup_addTable]
    split
    · rename_i same
      rw [same, sound.lookup_next]
      simp only [Option.some.injEq, reduceCtorEq, iff_false]
      rintro rfl
      exact different named.symm
    · rfl
  case schemas => rfl

/-- A table that is taken out of a sound store leaves its name free. -/
theorem tableDropped (sound : store.Sound) (found : store.tables.lookup id = some table)
    (afterSound : Sound { store with
      tables := store.tables.filter fun entry => decide (entry.1 ≠ id) }) :
    store.contents.TableDropped (MemoryStore.contents { store with
      tables := store.tables.filter fun entry => decide (entry.1 ≠ id) }) table.name := by
  constructor
  case present =>
    rw [sound.table?_eq_some_iff.mpr ⟨table, found, rfl, rfl⟩]
    rfl
  case absent =>
    rw [afterSound.table?_eq_none_iff]
    intro other held holds named
    obtain ⟨holds, kept⟩ := (sound.lookup_filter _).mp holds
    exact of_decide_eq_true kept (sound.names holds found named)
  case tables =>
    intro other different
    apply sound.table?_congr afterSound
    intro number held named
    rw [sound.lookup_filter, and_iff_left_iff_imp]
    intro holds
    apply decide_eq_true
    rintro rfl
    rw [found] at holds
    cases holds
    exact different named.symm
  case schemas => rfl

/-- A schema that is taken out of a sound store takes its tables along. -/
theorem schemaDropped (sound : store.Sound) {schema : String} {cascade : Bool}
    (present : store.schemas.contains schema = true)
    (empty : cascade = false → store.tablesOf schema = [])
    (afterSound : Sound { store with
      schemas := store.schemas.erase schema
      tables := store.tables.filter fun entry => decide (entry.2.name.schema ≠ schema) }) :
    store.contents.SchemaDropped (MemoryStore.contents { store with
      schemas := store.schemas.erase schema
      tables := store.tables.filter fun entry => decide (entry.2.name.schema ≠ schema) })
      schema cascade := by
  constructor
  case present => exact present
  case absent => exact (Dictionary.get?_erase _ _ _).trans (if_pos rfl)
  case empty =>
    rintro notCascade name rfl
    rw [sound.table?_eq_none_iff]
    rintro id table found rfl
    have member : (id, table) ∈ store.tablesOf table.name.schema :=
      List.mem_filter.mpr ⟨sound.mem_iff.mpr found, by simp⟩
    rw [empty notCascade] at member
    cases member
  case dropped =>
    rintro name rfl
    rw [afterSound.table?_eq_none_iff]
    rintro id table holds rfl
    obtain ⟨_, kept⟩ := (sound.lookup_filter _).mp holds
    exact of_decide_eq_true kept rfl
  case schemas =>
    intro other different
    exact (Dictionary.get?_erase _ _ _).trans (if_neg different)
  case tables =>
    intro name outside
    apply sound.table?_congr afterSound
    intro id table named
    rw [sound.lookup_filter, and_iff_left_iff_imp]
    rintro _
    rw [named]
    exact decide_eq_true outside

end Sound

theorem schemaAdded {schema : String} (properties : EngineProperties)
    (fresh : store.schemas.contains schema = false) :
    store.contents.SchemaAdded (MemoryStore.contents { store with
      schemas := store.schemas.insert schema properties }) schema where
  absent := by rwa [Dictionary.contains, Option.isSome_eq_false_iff,
    Option.isNone_iff_eq_none] at fresh
  present := Option.isSome_iff_exists.mpr ⟨properties, Dictionary.get?_insert_self _ _ _⟩
  schemas _ different := Dictionary.get?_insert_of_ne _ _ different
  tables := rfl

end Contents

end MemoryStore

end CatalogGateway
