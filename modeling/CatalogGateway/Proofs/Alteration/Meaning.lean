import CatalogGateway.Proofs.Alteration.Execution
import CatalogGateway.Proofs.Alteration.Plan
import CatalogGateway.Proofs.Provider.Tables
import CatalogGateway.Proofs.Types.Normal

/-!
# The meaning of alterations

What a change means for a table as callers see it, in terms of lists and dictionaries alone.
The steps that an alteration plans and carries out on what is stored have this meaning, change
by change.
-/

namespace CatalogGateway

/-- The text that a value of a property is shown as. -/
def PropertyConverter.canonicalText (converter : PropertyConverter) (key text : String) : String :=
  match converter.byGeneric? key with
  | none => text
  | some entry => ((entry.kind.read? text).map PropertyValue.display).getD text

/-- The key of the property that a change sets or removes. -/
def TableChange.propertyKey? : TableChange → Option String
  | .setProperty key _ | .removeProperty key => some key
  | _ => none

namespace TableDefinition

/-- The table with one column changed in its place. -/
def mapColumn (table : TableDefinition) (name : String)
    (change : ColumnDefinition → ColumnDefinition) : TableDefinition :=
  { table with
    columns := table.columns.map fun column =>
      if column.name = name then change column else column }

/-- The table after a change that a provider accepts.  A new column stands at its position, which
counts the columns before it.  Types are taken in their normal form, and a property is gone when
its value is a default that callers are spared.  Only a path of one part names a column. -/
def changed (provider : Provider) (table : TableDefinition) : TableChange → TableDefinition
  | .renameTable newName => { table with name := newName }
  | .addColumn [name] type comment position nullable =>
    let index := match position with
      | .append => table.columns.length
      | .index ordinal => ordinal.toNat
    let column := ⟨name, type.normalized, comment, nullable, position⟩
    { table with columns := ColumnDefinition.numbered (table.columns.insertIdx index column) }
  | .deleteColumn [name] _ =>
    { table with columns := ColumnDefinition.numbered (table.columns.filter (·.name ≠ name)) }
  | .renameColumn [name] newName => table.mapColumn name ({ · with name := newName })
  | .updateColumnType [name] newType =>
    table.mapColumn name ({ · with type := newType.normalized })
  | .updateComment newComment => { table with comment := newComment }
  | .updateColumnComment [name] newComment =>
    table.mapColumn name ({ · with comment := newComment })
  | .setProperty key text =>
    let value := provider.tableConverter.canonicalText key text
    { table with
      properties :=
        if provider.tableConverter.hides key value then table.properties.erase key
        else table.properties.insert key value }
  | .removeProperty key => { table with properties := table.properties.erase key }
  | _ => table

end TableDefinition

theorem PropertyConverter.canonicalText_of_storedValue {converter : PropertyConverter}
    {key text : String} {value : PropertyValue}
    (read : converter.storedValue key text = .ok value) :
    converter.canonicalText key text = value.display := by
  rw [storedValue] at read
  rw [canonicalText]
  cases found : converter.byGeneric? key with
  | none =>
      rw [found] at read
      cases read
      rfl
  | some entry =>
      simp only [found, PropertyEntry.parse] at read
      cases text? : entry.kind.read? text with
      | none =>
          rw [text?] at read
          cases read
      | some other =>
          rw [text?] at read
          cases read
          simp [text?]

/-- Changes of columns that leave the positions alone may be made before numbering or after. -/
theorem ColumnDefinition.numbered_map {change : ColumnDefinition → ColumnDefinition}
    (stays : ∀ (column : ColumnDefinition) position,
      { change column with position } = change { column with position })
    (columns : List ColumnDefinition) :
    numbered (columns.map change) = (numbered columns).map change := by
  apply List.ext_getElem?
  intro ordinal
  simp only [numbered, List.getElem?_mapIdx, List.getElem?_map, Option.map_map]
  congr 1
  funext column
  exact stays column _

namespace Alteration

variable {provider : Provider} {change : TableChange} {step : Step} {table : MemoryTable}
  {shown : TableDefinition}

section Columns

/-- Reading other columns of a table changes nothing else of what is read. -/
theorem parseTable_columns {columns : List EngineColumn} {others : List ColumnDefinition}
    (parsed : provider.parseTable table.metadata = .ok shown)
    (reads : List.Forall₂ provider.Reads columns others) :
    provider.parseTable { table with columns }.metadata =
      .ok { shown with columns := ColumnDefinition.numbered others } := by
  obtain ⟨name, _, comment, properties, layout⟩ := Provider.parseTable_eq_ok_iff.mp parsed
  refine Provider.parseTable_eq_ok_iff.mpr ⟨name, ?_, comment, properties, layout⟩
  rw [MemoryTable.metadata, Provider.parseColumns_of_reads reads 0]
  simp only [Nat.zero_add]
  rfl

theorem reads_columns (parsed : provider.parseTable table.metadata = .ok shown) :
    List.Forall₂ provider.Reads table.columns shown.columns :=
  Provider.reads_of_parseColumns (Provider.parseTable_eq_ok_iff.mp parsed).2.1

theorem numbered_columns (parsed : provider.parseTable table.metadata = .ok shown) :
    ColumnDefinition.numbered shown.columns = shown.columns := by
  have again := Provider.parseColumns_of_reads (reads_columns parsed) 0
  have columns := (Provider.parseTable_eq_ok_iff.mp parsed).2.1
  simp only [Nat.zero_add] at again
  exact Except.ok.inj (again.symm.trans columns)

theorem parseTable_mapColumn {column : String} {stored : EngineColumn → EngineColumn}
    {seen : ColumnDefinition → ColumnDefinition}
    (parsed : provider.parseTable table.metadata = .ok shown)
    (reads : ∀ {first second}, provider.Reads first second →
      provider.Reads (stored first) (seen second))
    (stays : ∀ (other : ColumnDefinition) position,
      { seen other with position } = seen { other with position }) :
    provider.parseTable (table.mapColumn column stored).metadata =
      .ok (shown.mapColumn column seen) := by
  have related : List.Forall₂ provider.Reads (table.mapColumn column stored).columns
      (shown.mapColumn column seen).columns := by
    rw [MemoryTable.mapColumn, TableDefinition.mapColumn, List.forall₂_map_left_iff,
      List.forall₂_map_right_iff]
    refine (reads_columns parsed).imp fun first second read => ?_
    rw [read.name]
    split
    · exact reads read
    · exact read
  have placed : ColumnDefinition.numbered (shown.mapColumn column seen).columns =
      (shown.mapColumn column seen).columns := by
    rw [TableDefinition.mapColumn, ColumnDefinition.numbered_map, numbered_columns parsed]
    intro other position
    by_cases named : other.name = column <;> simp [named, stays]
  have parsedAfter := parseTable_columns parsed related
  rw [placed] at parsedAfter
  exact parsedAfter

end Columns

section Properties

/-- Reading other properties of a table changes nothing else of what is read, unless a part of
the layout is among them. -/
theorem parseTable_properties {properties : EngineProperties} {seen : Properties}
    (parsed : provider.parseTable table.metadata = .ok shown)
    (layout : ∀ key ∈ provider.layoutKeys, properties.get? key = table.properties.get? key)
    (sees : provider.tableConverter.toGeneric properties = seen) :
    provider.parseTable { table with properties }.metadata =
      .ok { shown with properties := seen } := by
  obtain ⟨name, columns, comment, _, decoded⟩ := Provider.parseTable_eq_ok_iff.mp parsed
  refine Provider.parseTable_eq_ok_iff.mpr ⟨name, columns, comment, sees.symm, ?_⟩
  exact (Provider.decodeLayout_congr layout).trans decoded

/-- No part of the layout is stored under the key of a property that callers may set. -/
theorem ne_of_layoutKey {key stored other : String}
    (accepted : provider.tableConverter.engineKey key = .ok stored)
    (member : other ∈ provider.layoutKeys) : other ≠ stored := by
  obtain ⟨unreserved, rfl⟩ := PropertyConverter.engineKey_eq_ok_iff.mp accepted
  rintro rfl
  have reserved : provider.tableConverter.isReserved (provider.tableConverter.storedKey key) =
      true := List.contains_iff_mem.mpr member
  rw [reserved] at unreserved
  cases unreserved

/-- The properties that callers see after a step are those that the change makes of the ones
before. -/
theorem properties_applyTo (planned : Planned provider change step)
    (native : provider.tableConverter.Native table.properties)
    (notAlias : ∀ key, change.propertyKey? = some key → ¬ provider.tableConverter.IsAlias key)
    (parsed : provider.parseTable table.metadata = .ok shown) :
    provider.tableConverter.toGeneric (step.applyTo table).properties =
      (shown.changed provider change).properties := by
  have seen : shown.properties = provider.tableConverter.toGeneric table.properties :=
    (Provider.parseTable_eq_ok_iff.mp parsed).2.2.2.1
  cases planned with
  | @setProperty key text stored value accepted read =>
      obtain ⟨unreserved, rfl⟩ := PropertyConverter.engineKey_eq_ok_iff.mp accepted
      rw [TableDefinition.changed, PropertyConverter.canonicalText_of_storedValue read, seen]
      exact PropertyConverter.toGeneric_insert (Provider.coherent_tableConverter provider) native
        (notAlias key rfl) unreserved
  | @removeProperty key stored accepted =>
      obtain ⟨_, rfl⟩ := PropertyConverter.engineKey_eq_ok_iff.mp accepted
      rw [TableDefinition.changed, seen]
      exact PropertyConverter.toGeneric_erase (Provider.coherent_tableConverter provider) native
        (notAlias key rfl)
  | _ => exact seen.symm

end Properties

theorem native_applyTo (planned : Planned provider change step)
    (native : provider.tableConverter.Native table.properties) :
    provider.tableConverter.Native (step.applyTo table).properties := by
  cases planned with
  | @setProperty key _ stored value accepted read =>
      rw [← (PropertyConverter.engineKey_eq_ok_iff.mp accepted).2]
      exact PropertyConverter.native_insert (Provider.coherent_tableConverter provider) native
        key value
  | removeProperty accepted => exact PropertyConverter.native_erase native _
  | _ => exact native

/-- A table can be read after a step if it could be read before.  Apart from the properties,
what is read is what the change makes of what was read before. -/
theorem parse_applyTo_upTo (planned : Planned provider change step)
    (parsed : provider.parseTable table.metadata = .ok shown) :
    provider.parseTable (step.applyTo table).metadata =
      .ok { shown.changed provider change with
        properties := provider.tableConverter.toGeneric (step.applyTo table).properties } := by
  have seen : shown.properties = provider.tableConverter.toGeneric table.properties :=
    (Provider.parseTable_eq_ok_iff.mp parsed).2.2.2.1
  cases planned with
  | renameTable newName =>
      obtain ⟨_, columns, comment, _, layout⟩ := Provider.parseTable_eq_ok_iff.mp parsed
      exact Provider.parseTable_eq_ok_iff.mpr ⟨rfl, columns, comment, rfl, layout⟩
  | updateComment comment =>
      obtain ⟨name, columns, _, _, layout⟩ := Provider.parseTable_eq_ok_iff.mp parsed
      exact Provider.parseTable_eq_ok_iff.mpr ⟨name, columns, rfl, rfl, layout⟩
  | @addColumn name type stored comment position nullable typed =>
      have reads := reads_columns parsed
      have new : provider.Reads ⟨name, stored, nullable, comment⟩
          ⟨name, type.normalized, comment, nullable, position⟩ :=
        ⟨rfl, TypeMapping.toGeneric_of_toEngine typed, rfl, rfl⟩
      have parsedAfter (index : Nat) :=
        parseTable_columns parsed (Provider.forall₂_insertIdx reads new index)
      simp only [Step.applyTo, reads.length_eq, ← seen]
      cases position with
      | append => exact parsedAfter shown.columns.length
      | index ordinal => exact parsedAfter ordinal.toNat
  | deleteColumn column ifExists =>
      have kept : List.Forall₂ provider.Reads (table.columns.filter (·.name ≠ column))
          (shown.columns.filter (·.name ≠ column)) := by
        refine List.rel_filter ?_ (reads_columns parsed)
        intro first second read
        simp [read.name]
      have parsedAfter := parseTable_columns parsed kept
      simp only [Step.applyTo, ← seen]
      exact parsedAfter
  | renameColumn column newName =>
      simp only [Step.applyTo, MemoryTable.mapColumn, ← seen]
      exact parseTable_mapColumn parsed
        (fun read => ⟨rfl, read.type, read.comment, read.nullable⟩) fun _ _ => rfl
  | updateColumnType typed =>
      simp only [Step.applyTo, MemoryTable.mapColumn, ← seen]
      exact parseTable_mapColumn parsed
        (fun read => ⟨read.name, TypeMapping.toGeneric_of_toEngine typed, read.comment,
          read.nullable⟩) fun _ _ => rfl
  | updateColumnComment column comment =>
      simp only [Step.applyTo, MemoryTable.mapColumn, ← seen]
      exact parseTable_mapColumn parsed
        (fun read => ⟨read.name, read.type, rfl, read.nullable⟩) fun _ _ => rfl
  | @setProperty _ _ stored value accepted _ =>
      have layout (key : String) (member : key ∈ provider.layoutKeys) :
          (table.properties.insert stored value).get? key = table.properties.get? key :=
        Dictionary.get?_insert_of_ne _ _ (ne_of_layoutKey accepted member)
      have parsedAfter := parseTable_properties parsed layout rfl
      exact parsedAfter
  | @removeProperty _ stored accepted =>
      have layout (key : String) (member : key ∈ provider.layoutKeys) :
          (table.properties.erase stored).get? key = table.properties.get? key := by
        rw [Dictionary.get?_erase, if_neg (ne_of_layoutKey accepted member)]
      have parsedAfter := parseTable_properties parsed layout rfl
      exact parsedAfter

/-- A table can be read after the steps of a request if it could be read before. -/
theorem exists_parse_foldl_applyTo {changes : List TableChange} {steps : List Step}
    (planned : List.Forall₂ (Planned provider) changes steps)
    (parsed : provider.parseTable table.metadata = .ok shown) :
    ∃ after, provider.parseTable (steps.foldl Step.applyTo table).metadata = .ok after := by
  induction planned generalizing table shown with
  | nil => exact ⟨shown, parsed⟩
  | cons first _ ih => exact ih (parse_applyTo_upTo first parsed)

/-- What is read of a table after a step is what the change makes of what was read before. -/
theorem parse_applyTo (planned : Planned provider change step)
    (native : provider.tableConverter.Native table.properties)
    (notAlias : ∀ key, change.propertyKey? = some key → ¬ provider.tableConverter.IsAlias key)
    (parsed : provider.parseTable table.metadata = .ok shown) :
    provider.parseTable (step.applyTo table).metadata = .ok (shown.changed provider change) := by
  rw [parse_applyTo_upTo planned parsed, properties_applyTo planned native notAlias parsed]

/-- What is read of a table after the steps of a request is what the changes make, one after
the other, of what was read before. -/
theorem parse_foldl_applyTo {changes : List TableChange} {steps : List Step}
    (planned : List.Forall₂ (Planned provider) changes steps)
    (native : provider.tableConverter.Native table.properties)
    (notAlias : ∀ change ∈ changes, ∀ key, change.propertyKey? = some key →
      ¬ provider.tableConverter.IsAlias key)
    (parsed : provider.parseTable table.metadata = .ok shown) :
    provider.parseTable (steps.foldl Step.applyTo table).metadata =
      .ok (changes.foldl (TableDefinition.changed provider) shown) := by
  induction planned generalizing table shown with
  | nil => exact parsed
  | cons first _ ih =>
      exact ih (native_applyTo first native)
        (fun change member => notAlias change (List.mem_cons_of_mem _ member))
        (parse_applyTo first native (notAlias _ List.mem_cons_self) parsed)

theorem native_foldl_applyTo {changes : List TableChange} {steps : List Step}
    (planned : List.Forall₂ (Planned provider) changes steps)
    (native : provider.tableConverter.Native table.properties) :
    provider.tableConverter.Native (steps.foldl Step.applyTo table).properties := by
  induction planned generalizing table with
  | nil => exact native
  | cons first _ ih => exact ih (native_applyTo first native)

end Alteration

end CatalogGateway
