import CatalogGateway.Proofs.Alteration.Held
import CatalogGateway.Proofs.Alteration.Splitting
import CatalogGateway.Proofs.Catalog.Frame
import CatalogGateway.Proofs.Name.Parts

/-!
# Alterations in parts through a bridge

A table may be altered by one request or by two requests that join to it, the second under the
name that the first leaves the table.  Whether this succeeds, what it answers and what it
leaves is the same.  The first of two requests also reads the table back, which cannot fail when
the joined request succeeds: a column that the store cannot read back would stay so, and whatever
the changes do, the adapter can still parse the table.
-/

namespace CatalogGateway

open MetadataStore

/-- The name with another last segment. -/
def QualifiedName.withLast (name : QualifiedName) (segment : String) : QualifiedName :=
  { name with segments := name.segments.dropLast ++ [segment] }

theorem Store.Holds.readTable_eq_ok_iff {store : Store} {id : Nat} {table : MemoryTable}
    (holds : store.Holds id table) {bridge : Bridge} {shown : String} {reply : TableDefinition} :
    bridge.readTable store shown table.name = .ok reply ↔
      (store.keepsTexts = true → table.Legible) ∧
        bridge.adapter.parseTable table.metadata = .ok reply := by
  rw [Bridge.readTable, holds.tableHandle?]
  simp only [Outcome.bind_eq_ok_iff, Outcome.mapError_eq_ok_iff, holds.tableMetadata_eq_ok_iff]
  constructor
  · rintro ⟨_, ⟨legible, rfl⟩, parsed⟩
    exact ⟨legible, parsed⟩
  · rintro ⟨legible, parsed⟩
    exact ⟨table.metadata, ⟨legible, rfl⟩, parsed⟩

namespace Bridge

variable {bridge : Bridge} {name : QualifiedName} {parts : TableName} {reply : TableDefinition}

/-- Whatever the store describes under the name, the provider can read. -/
def CanRead (bridge : Bridge) (store : Store) (name : QualifiedName) : Prop :=
  ∀ parts handle stored, bridge.tableName name = .ok parts →
    tableHandle? store parts.schemaTable = some handle →
    tableMetadata store handle = .ok stored → ∃ shown, bridge.adapter.parseTable stored = .ok shown

theorem checkName_eq_ok_iff {kind : EntityKind} : bridge.checkName name kind = .ok () ↔
    name.kind = kind ∧ name.metalake = bridge.catalog.metalake ∧
      name.catalog? = some bridge.catalog.name := by
  rw [← QualifiedName.require_eq_ok_iff]
  simp [checkName, Outcome.bind_eq_ok_iff, Unique.exists_iff]

theorem tableName_eq_ok_iff : bridge.tableName name = .ok parts ↔
    name = parts.qualified ∧ parts.metalake = bridge.catalog.metalake ∧
      parts.catalog = bridge.catalog.name := by
  simp only [tableName, Outcome.bind_eq_ok_iff, Outcome.mapError_eq_ok_iff,
    QualifiedName.asTable_eq_ok_iff]
  constructor
  · rintro ⟨_, checked, rfl⟩
    obtain ⟨_, metalake, catalog⟩ := checkName_eq_ok_iff.mp checked
    exact ⟨rfl, metalake, Option.some.inj catalog⟩
  · rintro ⟨rfl, metalake, catalog⟩
    exact ⟨(), checkName_eq_ok_iff.mpr ⟨rfl, metalake, congrArg some catalog⟩, rfl⟩

theorem tableName_withLast (named : bridge.tableName name = .ok parts) (table : String) :
    bridge.tableName (name.withLast table) = .ok { parts with table } := by
  obtain ⟨rfl, metalake, catalog⟩ := tableName_eq_ok_iff.mp named
  exact tableName_eq_ok_iff.mpr ⟨rfl, metalake, catalog⟩

theorem alterTable_eq_ok_iff {σ : Type} [MetadataStore σ] {store after : σ}
    {changes : List TableChange} (named : bridge.tableName name = .ok parts) :
    bridge.alterTable (.ok store) name changes = .ok (reply, after) ↔
      ∃ steps renamed, Alteration.plan bridge.adapter parts changes = .ok steps ∧
        Alteration.run bridge.adapter store parts parts.schemaTable steps =
          (.ok renamed, after) ∧
        bridge.readTable after (QualifiedName.ofTable parts.metalake parts.catalog
          renamed.schema renamed.table).display renamed = .ok reply := by
  simp only [alterTable, enter, Alteration.apply, Outcome.bind_eq_ok_iff, named,
    Outcome.mapError_eq_ok_iff, Except.ok.injEq, exists_eq_left']
  constructor
  · rintro ⟨renamed, applied, _, read, same⟩
    cases same
    split at applied
    · cases applied
    · rename_i steps planned
      simp only [planned] at read ⊢
      exact ⟨steps, renamed, rfl, Prod.ext applied rfl, read⟩
  · rintro ⟨steps, renamed, planned, ran, read⟩
    simp only [planned, ran]
    exact ⟨renamed, rfl, reply, read, rfl⟩

variable {store after : Store} {id : Nat} {table : MemoryTable}

/-- An alteration succeeds when its steps do and leave a table that can be read.  The name that
they are planned and carried out under does not matter. -/
theorem alterTable_eq_ok_iff_of_holds (asked : TableName) {changes : List TableChange}
    (named : bridge.tableName name = .ok parts) (holds : store.Holds id table)
    (tableNamed : table.name = parts.schemaTable) :
    bridge.alterTable (.ok store) name changes = .ok (reply, after) ↔
      ∃ steps, Alteration.plan bridge.adapter asked changes = .ok steps ∧
        Alteration.run bridge.adapter store asked table.name steps =
          (.ok (steps.foldl Alteration.Step.applyTo table).name, after) ∧
        (store.keepsTexts = true → (steps.foldl Alteration.Step.applyTo table).Legible) ∧
        bridge.adapter.parseTable (steps.foldl Alteration.Step.applyTo table).metadata =
          .ok reply := by
  rw [alterTable_eq_ok_iff named, ← tableNamed]
  constructor
  · rintro ⟨steps, renamed, planned, ran, read⟩
    obtain ⟨held, rfl, sameKind⟩ := holds.run ran
    obtain ⟨legible, parsed⟩ := held.readTable_eq_ok_iff.mp read
    exact ⟨steps, Alteration.plan_eq_ok_of_plan _ asked planned,
      Alteration.run_eq_ok_of_run asked ran, sameKind ▸ legible, parsed⟩
  · rintro ⟨steps, planned, ran, legible, parsed⟩
    obtain ⟨held, _, sameKind⟩ := holds.run ran
    exact ⟨steps, _, Alteration.plan_eq_ok_of_plan _ parts planned,
      Alteration.run_eq_ok_of_run parts ran,
      held.readTable_eq_ok_iff.mpr ⟨sameKind ▸ legible, parsed⟩⟩

/-- The table of an alteration that succeeds is there. -/
theorem exists_holds {changes : List TableChange} {picture : MemoryStore}
    (shows : store.Shows picture)
    (altered : bridge.alterTable (.ok store) name changes = .ok (reply, after)) :
    ∃ parts id table, bridge.tableName name = .ok parts ∧ store.Holds id table ∧
      table.name = parts.schemaTable := by
  obtain ⟨⟨_, _⟩, pictured, _⟩ :=
    alterTable_refines Store.simulation_shows shows bridge name changes _ altered
  obtain ⟨parts, _, id, table, named, _, found, tableNamed, _⟩ :=
    alterTable_eq_ok shows.sound pictured
  exact ⟨parts, id, table, named, ⟨picture, shows, found⟩, tableNamed⟩

/-- An alteration in two parts succeeds when the joined one does, with the same answer and the
same store. -/
theorem alterTable_append_eq_ok_iff {first second : List TableChange} {picture : MemoryStore}
    (shows : store.Shows picture) (readable : bridge.CanRead store name) :
    bridge.alterTable (.ok store) name (first ++ second) = .ok (reply, after) ↔
      ∃ middle between, bridge.alterTable (.ok store) name first = .ok (middle, between) ∧
        bridge.alterTable (.ok between) (name.withLast middle.name) second =
          .ok (reply, after) := by
  constructor
  · intro altered
    obtain ⟨parts, id, table, named, holds, tableNamed⟩ := exists_holds shows altered
    obtain ⟨steps, planned, ran, legible, parsed⟩ :=
      (alterTable_eq_ok_iff_of_holds parts named holds tableNamed).mp altered
    obtain ⟨start, rest, startPlanned, restPlanned, rfl⟩ :=
      (Alteration.plan_append_eq_ok_iff _ _).mp planned
    obtain ⟨_, between, ranStart, ranRest⟩ := Alteration.run_append_eq_ok_iff.mp ran
    obtain ⟨held, rfl, sameKind⟩ := holds.run ranStart
    rw [List.foldl_append] at ranRest legible parsed
    -- What can be read in the end could be read in between and at the start.
    have legibleBetween (texts : store.keepsTexts = true) :
        (start.foldl Alteration.Step.applyTo table).Legible :=
      held.legible_of_run (sameKind.trans texts) ranRest (legible texts)
    have legibleBefore (texts : store.keepsTexts = true) : table.Legible :=
      holds.legible_of_run texts ranStart (legibleBetween texts)
    obtain ⟨_, parsedBefore⟩ := readable parts _ table.metadata named
      (tableNamed ▸ holds.tableHandle?)
      (tableNamed ▸ holds.tableMetadata_eq_ok_iff.mpr ⟨legibleBefore, rfl⟩)
    obtain ⟨middle, parsedBetween⟩ := Alteration.exists_parse_foldl_applyTo
      (Alteration.planned_of_plan startPlanned) parsedBefore
    exact ⟨middle, between,
      (alterTable_eq_ok_iff_of_holds parts named holds tableNamed).mpr
        ⟨start, startPlanned, ranStart, legibleBetween, parsedBetween⟩,
      (alterTable_eq_ok_iff_of_holds parts (tableName_withLast named middle.name) held
        (Alteration.name_of_parse tableNamed parsedBetween)).mpr
        ⟨rest, restPlanned, ranRest, sameKind.symm ▸ legible, parsed⟩⟩
  · rintro ⟨middle, between, altered, alteredAgain⟩
    obtain ⟨parts, id, table, named, holds, tableNamed⟩ := exists_holds shows altered
    obtain ⟨start, startPlanned, ranStart, _, parsedBetween⟩ :=
      (alterTable_eq_ok_iff_of_holds parts named holds tableNamed).mp altered
    obtain ⟨held, _, sameKind⟩ := holds.run ranStart
    obtain ⟨rest, restPlanned, ranRest, legible, parsed⟩ :=
      (alterTable_eq_ok_iff_of_holds parts (tableName_withLast named middle.name) held
        (Alteration.name_of_parse tableNamed parsedBetween)).mp alteredAgain
    rw [← List.foldl_append] at ranRest legible parsed
    exact (alterTable_eq_ok_iff_of_holds parts named holds tableNamed).mpr
      ⟨start ++ rest,
        (Alteration.plan_append_eq_ok_iff _ _).mpr ⟨start, rest, startPlanned, restPlanned, rfl⟩,
        Alteration.run_append_eq_ok_iff.mpr ⟨_, between, ranStart, ranRest⟩,
        sameKind ▸ legible, parsed⟩

theorem takes_alterTable {connector : Connector} {disk : Disk} {changes : List TableChange}
    (takes : connector.Takes disk store)
    (altered : bridge.alterTable (.ok store) name changes = .ok (reply, after)) :
    connector.Takes disk after := by
  have simulation : Simulation fun store other : Store =>
      store = other ∧ connector.Takes disk store :=
    Simulation.refl.and fun _ call => Connector.takes_run call
  obtain ⟨_, _, _, _, taken⟩ :=
    alterTable_refines simulation ⟨rfl, takes⟩ bridge name changes _ altered
  exact taken

end Bridge

namespace Binding

variable {binding next : Binding} {disk nextDisk : Disk} {name : QualifiedName}

theorem serve_alterTable_eq_ok_iff {changes : List TableChange} {reply : CatalogReply} :
    binding.serve disk (.alterTable name changes) = (.ok reply, next, nextDisk) ↔
      binding.connector.shutdowns = 0 ∧ ∃ table working,
        binding.bridge.alterTable (.ok (binding.connector.committed disk)) name changes =
          .ok (table, working) ∧
        reply = .table table ∧
        next = { binding with connector := (binding.connector.commit disk working).1 } ∧
        nextDisk = (binding.connector.commit disk working).2 := by
  constructor
  · intro served
    obtain ⟨_, answered, _, left⟩ := serve_eq_ok served
    obtain ⟨table, working, altered, rfl, rfl⟩ := Bridge.changed_eq_ok answered
    exact ⟨isOpen_of_serve served, table, working, altered, rfl, left working rfl⟩
  · rintro ⟨isOpen, table, working, altered, rfl, rfl, rfl⟩
    have answered : binding.bridge.serve (.ok (binding.connector.committed disk))
        (.alterTable name changes) = .ok (.table table, some working) := by
      rw [Bridge.serve, altered]
      rfl
    rw [Binding.serve, Connector.begin_of_inUse isOpen, answered]

/-- An alteration in two parts, the second under the name that the first leaves the table,
succeeds exactly when the joined one does, with the same answer, the same connector and the same
disk. -/
theorem alterTable_append_iff {first second : List TableChange} {table : TableDefinition}
    (reachable : (binding.connector.committed disk).Reachable)
    (readable : binding.bridge.CanRead (binding.connector.committed disk) name) :
    binding.serve disk (.alterTable name (first ++ second)) =
        (.ok (.table table), next, nextDisk) ↔
      ∃ middle between betweenDisk,
        binding.serve disk (.alterTable name first) =
          (.ok (.table middle), between, betweenDisk) ∧
        between.serve betweenDisk (.alterTable (name.withLast middle.name) second) =
          (.ok (.table table), next, nextDisk) := by
  obtain ⟨picture, shows⟩ := reachable.exists_shows
  have takes := binding.connector.takes_committed disk
  constructor
  · intro served
    obtain ⟨isOpen, table, after, altered, ⟨rfl⟩, rfl, rfl⟩ :=
      serve_alterTable_eq_ok_iff.mp served
    obtain ⟨middle, between, alteredFirst, alteredSecond⟩ :=
      (Bridge.alterTable_append_eq_ok_iff shows readable).mp altered
    have taken := Bridge.takes_alterTable takes alteredFirst
    refine ⟨middle, _, _, serve_alterTable_eq_ok_iff.mpr
      ⟨isOpen, middle, between, alteredFirst, rfl, rfl, rfl⟩,
      serve_alterTable_eq_ok_iff.mpr ⟨?_, table, after, ?_, rfl, ?_, ?_⟩⟩
    · rw [Connector.shutdowns_commit, isOpen]
    · rwa [taken]
    · rw [Connector.commit_commit taken (Bridge.takes_alterTable takes altered)]
    · rw [Connector.commit_commit taken (Bridge.takes_alterTable takes altered)]
  · rintro ⟨middle, between, betweenDisk, servedFirst, servedSecond⟩
    obtain ⟨isOpen, _, working, alteredFirst, ⟨rfl⟩, rfl, rfl⟩ :=
      serve_alterTable_eq_ok_iff.mp servedFirst
    obtain ⟨_, table, after, alteredSecond, ⟨rfl⟩, rfl, rfl⟩ :=
      serve_alterTable_eq_ok_iff.mp servedSecond
    have taken := Bridge.takes_alterTable takes alteredFirst
    rw [taken] at alteredSecond
    have altered := (Bridge.alterTable_append_eq_ok_iff shows readable).mpr
      ⟨middle, working, alteredFirst, alteredSecond⟩
    rw [Connector.commit_commit taken (Bridge.takes_alterTable takes altered)]
    exact serve_alterTable_eq_ok_iff.mpr ⟨isOpen, table, after, altered, rfl, rfl, rfl⟩

/-- Two requests to `withTable`: the table is renamed and gets a column, then both of its columns
and its properties are changed under the new name. -/
theorem alterTable_twoParts :
    ∃ middle between table next,
      withTable.serve {} (.alterTable (.ofTable "m" "c" "s" "t")
          [.renameTable "u", .addColumn ["y"] (.list .integer false) none (.index 0) false]) =
        (.ok (.table middle), between, {}) ∧
      between.serve {} (.alterTable (.ofTable "m" "c" "s" "u")
          [.renameColumn ["x"] "z", .deleteColumn ["y"] false,
            .setProperty "transactional" "true"]) = (.ok (.table table), next, {}) ∧
      withTable.serve {} (.alterTable (.ofTable "m" "c" "s" "t")
          [.renameTable "u", .addColumn ["y"] (.list .integer false) none (.index 0) false,
            .renameColumn ["x"] "z", .deleteColumn ["y"] false,
            .setProperty "transactional" "true"]) = (.ok (.table table), next, {}) := by
  have readable : withTable.bridge.CanRead (withTable.connector.committed {})
      (.ofTable "m" "c" "s" "t") := by
    intro parts handle stored named located described
    cases named
    cases located
    cases described
    exact ⟨_, rfl⟩
  obtain ⟨middle, between, table, next, first, renamed, second⟩ : ∃ middle between table next,
      withTable.serve {} (.alterTable (.ofTable "m" "c" "s" "t")
          [.renameTable "u", .addColumn ["y"] (.list .integer false) none (.index 0) false]) =
        (.ok (.table middle), between, {}) ∧
      middle.name = "u" ∧
      between.serve {} (.alterTable (.ofTable "m" "c" "s" "u")
          [.renameColumn ["x"] "z", .deleteColumn ["y"] false,
            .setProperty "transactional" "true"]) = (.ok (.table table), next, {}) :=
    ⟨_, _, _, _, rfl, rfl, rfl⟩
  exact ⟨middle, between, table, next, first, second,
    (alterTable_append_iff reachable_withTable readable).mpr
      ⟨middle, between, {}, first, by rwa [renamed]⟩⟩

end Binding

end CatalogGateway
