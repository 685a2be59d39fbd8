import CatalogGateway.Proofs.Store.Invariants

/-!
# Listings of stores

A reachable store lists its schemas, and the tables of each schema, in ascending order of their
names and none of them twice.  What is listed is what is found under its name, and a table that is
found can be described unless what is kept of it cannot be read.
-/

namespace CatalogGateway

open MetadataStore Outcome

namespace SchemaTable

theorem sortsBefore_iff {first second : SchemaTable} :
    sortsBefore first second = true ↔
      first.schema < second.schema ∨ first.schema = second.schema ∧ first.table ≤ second.table := by
  simp [sortsBefore]

theorem sort_pairwise (names : List SchemaTable) :
    (sort names).Pairwise fun first second => sortsBefore first second = true := by
  apply List.pairwise_mergeSort
  · intro first second third before after
    rw [sortsBefore_iff] at before after ⊢
    rcases before with below | ⟨same, least⟩
    · rcases after with above | ⟨same, _⟩
      · exact Or.inl (String.lt_trans below above)
      · exact Or.inl (same ▸ below)
    · rcases after with above | ⟨alike, most⟩
      · exact Or.inl (same ▸ above)
      · exact Or.inr ⟨same.trans alike, String.le_trans least most⟩
  · intro first second
    rw [Bool.or_eq_true, sortsBefore_iff, sortsBefore_iff]
    rcases Std.lt_trichotomy first.schema second.schema with below | same | above
    · exact Or.inl (Or.inl below)
    · exact (String.le_total first.table second.table).imp (fun least => Or.inr ⟨same, least⟩)
        fun most => Or.inr ⟨same.symm, most⟩
    · exact Or.inr (Or.inl above)

/-- The tables of one schema, if none is given twice, are sorted by their own names. -/
theorem sort_ascends {names : List SchemaTable} {schema : String} (distinct : names.Nodup)
    (within : ∀ name ∈ names, name.schema = schema) :
    ((sort names).map table).Pairwise (· < ·) := by
  have perm : (sort names).Perm names := List.mergeSort_perm names _
  rw [List.pairwise_map]
  refine ((sort_pairwise names).and (perm.nodup_iff.mpr distinct)).imp_of_mem ?_
  rintro first second inSort otherInSort ⟨before, different⟩
  have firstWithin := within first (perm.mem_iff.mp inSort)
  have secondWithin := within second (perm.mem_iff.mp otherInSort)
  rcases sortsBefore_iff.mp before with below | ⟨same, least⟩
  · rw [firstWithin, secondWithin] at below
    exact absurd below (String.lt_irrefl _)
  · exact Std.lt_of_le_of_ne least fun alike =>
      different (SchemaTable.mk.injEq .. ▸ ⟨same, alike⟩)

end SchemaTable

namespace MemoryStore

variable {store : MemoryStore} {schema : String}

theorem names_tablesOf (store : MemoryStore) (schema : String) :
    (store.tablesOf schema).map (·.2.name) =
      (store.handles.map TableHandle.name).filter (·.schema = schema) := by
  rw [handles, List.map_map, List.filter_map]
  rfl

namespace Sound

theorem mem_tablesOf_iff (sound : store.Sound) {name : SchemaTable} :
    name ∈ (store.tablesOf schema).map (·.2.name) ↔
      name.schema = schema ∧ (tableHandle? store name).isSome := by
  rw [names_tablesOf, List.mem_filter, decide_eq_true_iff, and_comm, List.mem_map,
    Option.isSome_iff_exists]
  refine and_congr_right fun _ => exists_congr fun handle => ?_
  rw [sound.mem_handles_iff, sound.tableHandle?_eq_some_iff]
  constructor
  · rintro ⟨⟨table, found, named⟩, rfl⟩
    exact ⟨rfl, table, found, named⟩
  · rintro ⟨named, table, found, tableNamed⟩
    exact ⟨⟨table, found, tableNamed.trans named.symm⟩, named⟩

theorem nodup_tablesOf (sound : store.Sound) (schema : String) :
    ((store.tablesOf schema).map (·.2.name)).Nodup := by
  rw [names_tablesOf]
  exact sound.names_nodup.filter _

end Sound

end MemoryStore

namespace Metastore

/-- What is kept cannot be read. -/
def IsUnreadable (fault : StoreFault) : Prop :=
  ∃ reason, fault = .storage reason

theorem raises_readStored {α : Type} (decode : Json → Option α) (value : Json) :
    Raises IsUnreadable (readStored decode value) := by
  rw [readStored]
  split
  · exact .error ⟨_, rfl⟩
  · split
    · exact .ok _
    · exact .error ⟨_, rfl⟩

theorem raises_readColumns (store : Metastore) (id : Nat) :
    Raises IsUnreadable (store.readColumns id) :=
  .mapM (fun row : ColumnRow => (raises_readStored _ row.type).bind fun _ => .ok _) _

theorem Depicts.raises_tableMetadata {store : Metastore} {picture : MemoryStore}
    {handle : TableHandle} {table : MemoryTable} (depicts : store.Depicts picture)
    (found : picture.table handle = .ok table) :
    Raises IsUnreadable (tableMetadata store handle) := by
  have described : tableMetadata store handle =
      store.resolve handle >>= fun row =>
        store.readColumns handle.id >>= fun columns =>
          .ok ⟨row.1.name, columns, row.1.comment, row.2⟩ := rfl
  have resolved := depicts.resolve handle
  rw [found] at resolved
  rw [described]
  cases outcome : store.resolve handle with
  | error fault =>
      rw [outcome] at resolved
      cases resolved
  | ok row => exact (store.raises_readColumns handle.id).bind fun _ => .ok _

end Metastore

namespace Store.Shows

variable {store : Store} {picture : MemoryStore} {schema : String}

theorem tableNames (shows : store.Shows picture) (schema : Option String) :
    MetadataStore.tableNames store schema = MetadataStore.tableNames picture schema := by
  cases store with
  | memory store =>
      obtain ⟨rfl, _⟩ := shows
      rfl
  | relational store => exact shows.depicts.tableNames schema
  | «sealed» kept => exact shows.depicts.tableNames schema

theorem schemaNames_ascend (shows : store.Shows picture) :
    (schemaNames store).Pairwise (· < ·) := by
  rw [simulation_shows.schemaNames shows]
  exact picture.schemas.ordered.map _ fun _ _ below => below

theorem mem_schemaNames_iff (shows : store.Shows picture) :
    schema ∈ schemaNames store ↔ MetadataStore.hasSchema store schema = true := by
  rw [simulation_shows.schemaNames shows, shows.hasSchema, Dictionary.contains_iff]
  rfl

/-- The tables of a schema that there is are listed by name, each once. -/
theorem exists_tableNames (shows : store.Shows picture)
    (present : MetadataStore.hasSchema store schema = true) :
    ∃ tables, MetadataStore.tableNames store (some schema) = .ok tables ∧
      (tables.map SchemaTable.table).Pairwise (· < ·) ∧
      ∀ name, name ∈ tables ↔ name.schema = schema ∧ (tableHandle? store name).isSome := by
  have listed : MetadataStore.tableNames picture (some schema) =
      .ok (SchemaTable.sort ((picture.tablesOf schema).map (·.2.name))) := by
    show (picture.requireSchema schema >>= fun _ => Except.ok _) = _
    rw [MemoryStore.requireSchema_eq_ok_iff.mpr (shows.hasSchema schema ▸ present)]
    rfl
  have within (name : SchemaTable) (member : name ∈ (picture.tablesOf schema).map (·.2.name)) :
      name.schema = schema :=
    (shows.sound.mem_tablesOf_iff.mp member).1
  refine ⟨_, (shows.tableNames _).trans listed,
    SchemaTable.sort_ascends (shows.sound.nodup_tablesOf schema) within, fun name => ?_⟩
  rw [simulation_shows.tableHandle? shows, ← shows.sound.mem_tablesOf_iff]
  exact (List.mergeSort_perm _ _).mem_iff

/-- A table that is found can be described, unless what is kept of it cannot be read. -/
theorem raises_tableMetadata (shows : store.Shows picture) {name : SchemaTable}
    {handle : TableHandle} (located : tableHandle? store name = some handle) :
    Raises Metastore.IsUnreadable (tableMetadata store handle) := by
  rw [simulation_shows.tableHandle? shows, shows.sound.tableHandle?_eq_some_iff] at located
  obtain ⟨named, table, held, tableNamed⟩ := located
  have found := MemoryStore.table_eq_ok_iff.mpr ⟨held, tableNamed.trans named.symm⟩
  cases store with
  | memory store =>
      obtain ⟨rfl, _⟩ := shows
      show Raises _ ((store.table handle).map MemoryTable.metadata)
      rw [found]
      exact .ok _
  | relational store => exact shows.depicts.raises_tableMetadata found
  | «sealed» kept => exact shows.depicts.raises_tableMetadata found

end Store.Shows

end CatalogGateway
