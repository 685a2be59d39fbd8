import CatalogGateway.Proofs.Alteration.Meaning
import CatalogGateway.Proofs.Catalog.Frame
import CatalogGateway.Proofs.Store.Elsewhere

/-!
# Tables under the care of a bridge

A table that was created through a bridge, and that nothing but the bridge has altered since,
has native properties.  So an alteration of it through the bridge means for the callers what
its changes mean one by one.
-/

namespace CatalogGateway

namespace Bridge

/-- The table of a number was created through a bridge, and no call but those of the bridge has
addressed it since.  Anything may have happened to the rest of the store. -/
inductive Tends (bridge : Bridge) : Store → Nat → Prop where
  | created {store after : Store} {name : QualifiedName} {table : TableDefinition}
      {policy : Option LayoutPolicy} {reply : CatalogReply} {parts : TableName}
      {handle : TableHandle} (reachable : store.Reachable)
      (served : bridge.serve (.ok store) (.createTable name table policy) =
        .ok (reply, some after))
      (named : bridge.tableName name = .ok parts)
      (found : MetadataStore.tableHandle? after parts.schemaTable = some handle) :
      Tends bridge after handle.id
  | served {store after : Store} {id : Nat} {request : CatalogRequest} {reply : CatalogReply}
      (tends : Tends bridge store id)
      (served : bridge.serve (.ok store) request = .ok (reply, some after)) :
      Tends bridge after id
  | elsewhere {store : Store} {id : Nat} (tends : Tends bridge store id) (call : StoreCall)
      (other : ∀ handle, call.handle? = some handle → handle.id ≠ id) :
      Tends bridge (call.run store).2 id
  | sealed {store : Metastore} {id : Nat} (tends : Tends bridge (.relational store) id) :
      Tends bridge (.sealed ⟨store⟩) id

/-- The number of a table was given out, and the properties of the table are native if it is
still there. -/
structure KeepsNative (bridge : Bridge) (store : MemoryStore) (id : Nat) : Prop where
  given : id ≤ store.lastTableId
  native : ∀ table, store.tables.lookup id = some table →
    bridge.adapter.tableConverter.Native table.properties

variable {bridge : Bridge} {store after : MemoryStore} {id : Nat}

namespace KeepsNative

theorem retains (keeps : bridge.KeepsNative store id) (retains : store.Retains after id) :
    bridge.KeepsNative after id where
  given := Nat.le_trans keeps.given retains.numbers
  native table found := keeps.native table (retains.table table found)

theorem setTable (keeps : bridge.KeepsNative store id) {other : Nat} {table next : MemoryTable}
    (found : store.tables.lookup other = some table)
    (native : bridge.adapter.tableConverter.Native table.properties →
      bridge.adapter.tableConverter.Native next.properties) :
    bridge.KeepsNative (store.setTable other next) id where
  given := keeps.given
  native held holds := by
    by_cases same : other = id
    · subst same
      rw [MemoryStore.lookup_setTable found] at holds
      cases holds
      exact native (keeps.native table found)
    · have retains : store.Retains (store.setTable other next) id := .mapTable same _
      exact (keeps.retains retains).native held holds

theorem serve (keeps : bridge.KeepsNative store id) (sound : store.Sound)
    {request : CatalogRequest} {reply : CatalogReply}
    (served : bridge.serve (.ok store) request = .ok (reply, some after)) :
    bridge.KeepsNative after id := by
  cases request with
  | listSchemas _ | loadSchema _ | schemaExists _ | listTables _ | loadTable _ | tableExists _
  | purgeTable _ => cases asked_eq_ok served
  | createSchema name comment properties =>
      obtain ⟨_, _, created, _, same⟩ := changed_eq_ok served
      cases same
      obtain ⟨_, _, _, _, rfl⟩ := createSchema_eq_ok created
      exact ⟨keeps.given, keeps.native⟩
  | dropSchema name cascade =>
      obtain ⟨_, _, dropped, _, same⟩ := changed_eq_ok served
      cases same
      rcases dropSchema_eq_ok dropped with ⟨_, rfl⟩ | ⟨_, _, _, _, rfl⟩
      · exact keeps
      · exact keeps.retains (.filter sound _ _)
  | createTable name table policy =>
      obtain ⟨_, _, created, _, same⟩ := changed_eq_ok served
      cases same
      obtain ⟨_, _, _, _, _, _, rfl⟩ := createTable_eq_ok created
      exact keeps.retains (.addTable sound keeps.given _)
  | alterTable name changes =>
      obtain ⟨_, _, altered, _, same⟩ := changed_eq_ok served
      cases same
      obtain ⟨_, _, _, _, _, planned, found, _, rfl, _⟩ := alterTable_eq_ok sound altered
      exact keeps.setTable found
        (Alteration.native_foldl_applyTo (Alteration.planned_of_plan planned))
  | dropTable name =>
      obtain ⟨_, _, dropped, _, same⟩ := changed_eq_ok served
      cases same
      rcases dropTable_eq_ok sound dropped with ⟨_, rfl⟩ | ⟨_, _, _, _, _, _, rfl⟩
      · exact keeps
      · exact keeps.retains (.filter sound _ _)

end KeepsNative

theorem serve_picture {store after : Store} {picture : MemoryStore} {request : CatalogRequest}
    {reply : CatalogReply} (shows : store.Shows picture)
    (served : bridge.serve (.ok store) request = .ok (reply, some after)) :
    ∃ next, bridge.serve (.ok picture) request = .ok (reply, some next) ∧ after.Shows next := by
  obtain ⟨⟨_, next⟩, answered, same, related⟩ :=
    serve_refines Store.simulation_shows shows bridge request _ served
  cases same
  cases related with
  | some shown => exact ⟨_, answered, shown⟩

/-- A table under the care of a bridge has native properties. -/
theorem Tends.exists_keepsNative {store : Store} (tends : bridge.Tends store id) :
    ∃ picture, store.Shows picture ∧ bridge.KeepsNative picture id := by
  induction tends with
  | @created store after name table policy reply parts handle reachable served named found =>
      obtain ⟨picture, shows⟩ := reachable.exists_shows
      obtain ⟨next, answered, shown⟩ := serve_picture shows served
      refine ⟨next, shown, ?_⟩
      obtain ⟨_, _, created, _, same⟩ := changed_eq_ok answered
      cases same
      obtain ⟨others, stored, othersNamed, built, _, storedName, rfl⟩ := createTable_eq_ok created
      cases named.symm.trans othersNamed
      rw [Store.simulation_shows.tableHandle? shown, shown.sound.tableHandle?_eq_some_iff] at found
      obtain ⟨_, held, holds, heldNamed⟩ := found
      have put : (picture.addTable (.ofEngine parts.schema stored)).tables.lookup
          (picture.lastTableId + 1) = some (.ofEngine parts.schema stored) := by
        rw [shows.sound.lookup_addTable, if_pos rfl]
      have same := shown.sound.names holds put (heldNamed.trans storedName.symm)
      rw [same]
      refine ⟨Nat.le_refl _, fun other found => ?_⟩
      cases found.symm.trans put
      exact Provider.native_buildTable built
  | served tends served ih =>
      obtain ⟨picture, shows, keeps⟩ := ih
      obtain ⟨next, answered, shown⟩ := serve_picture shows served
      exact ⟨next, shown, keeps.serve shows.sound answered⟩
  | elsewhere tends call other ih =>
      obtain ⟨picture, shows, keeps⟩ := ih
      obtain ⟨next, shown, retains⟩ := shows.run_elsewhere keeps.given call other
      exact ⟨next, shown, keeps.retains retains⟩
  | «sealed» _ ih => exact ih

end Bridge

namespace Binding

variable {binding next : Binding} {disk nextDisk : Disk} {name : QualifiedName}

/-- The table of a name in the store of the connector is under the care of the bridge. -/
def TendsTable (binding : Binding) (disk : Disk) (name : QualifiedName) : Prop :=
  ∃ parts handle, binding.bridge.tableName name = .ok parts ∧
    MetadataStore.tableHandle? (binding.connector.committed disk) parts.schemaTable =
      some handle ∧
    binding.bridge.Tends (binding.connector.committed disk) handle.id

/-- A table that a binding creates is under the care of its bridge. -/
theorem tendsTable_createTable {table : TableDefinition} {policy : Option LayoutPolicy}
    {reply : CatalogReply} (reachable : (binding.connector.committed disk).Reachable)
    (created : binding.serve disk (.createTable name table policy) =
      (.ok reply, next, nextDisk)) :
    next.TendsTable nextDisk name := by
  obtain ⟨working, answered, bridge, committed⟩ := committed_serve created
  obtain ⟨picture, shows⟩ := reachable.exists_shows
  obtain ⟨_, pictured, shown⟩ := serve_shows shows created
  obtain ⟨_, _, made, _, rfl⟩ := Bridge.changed_eq_ok pictured
  obtain ⟨parts, stored, named, _, _, storedName, rfl⟩ := Bridge.createTable_eq_ok made
  rw [Option.getD_some] at shown
  have located : MetadataStore.tableHandle? (next.connector.committed nextDisk)
      parts.schemaTable = some ⟨picture.lastTableId + 1, parts.schemaTable⟩ := by
    rw [Store.simulation_shows.tableHandle? shown, shown.sound.tableHandle?_eq_some_iff]
    refine ⟨rfl, _, ?_, storedName⟩
    rw [shows.sound.lookup_addTable, if_pos rfl]
  obtain ⟨_, after, _, _, rfl⟩ := Bridge.changed_eq_ok answered
  rw [Option.getD_some] at committed
  rw [TendsTable, bridge]
  refine ⟨parts, _, named, located, ?_⟩
  rw [committed] at located ⊢
  exact .created reachable answered named located

/-- No operation of a binding takes a table out of the care of its bridge. -/
theorem tends_serve {id : Nat} {request : CatalogRequest} {outcome : Except Fault CatalogReply}
    (tends : binding.bridge.Tends (binding.connector.committed disk) id)
    (served : binding.serve disk request = (outcome, next, nextDisk)) :
    next.bridge.Tends (next.connector.committed nextDisk) id := by
  cases outcome with
  | error fault =>
      obtain ⟨rfl, rfl⟩ := serve_eq_error served
      exact tends
  | ok reply =>
      obtain ⟨working, answered, bridge, committed⟩ := committed_serve served
      rw [bridge, committed]
      cases working with
      | none => exact tends
      | some after => exact .served tends answered

/-- A table stays in the care of the bridge through any request after which it is still the one
that its name leads to. -/
theorem TendsTable.serve {request : CatalogRequest} {outcome : Except Fault CatalogReply}
    (tended : binding.TendsTable disk name)
    (served : binding.serve disk request = (outcome, next, nextDisk))
    (stays : ∀ parts, binding.bridge.tableName name = .ok parts →
      MetadataStore.tableHandle? (next.connector.committed nextDisk) parts.schemaTable =
        MetadataStore.tableHandle? (binding.connector.committed disk) parts.schemaTable) :
    next.TendsTable nextDisk name := by
  obtain ⟨parts, handle, named, located, tends⟩ := tended
  refine ⟨parts, handle, ?_, (stays parts named).trans located, tends_serve tends served⟩
  rw [bridge_of_serve served]
  exact named

/-- An alteration that succeeds gives what its changes make, one after the other, of the table
as it was loaded before, if no property is addressed by an alias. -/
theorem alterTable_eq_foldl_changed {changes : List TableChange}
    {before after : TableDefinition} (tended : binding.TendsTable disk name)
    (notAlias : ∀ change ∈ changes, ∀ key, change.propertyKey? = some key →
      ¬ binding.bridge.adapter.tableConverter.IsAlias key)
    (loaded : (binding.serve disk (.loadTable name)).1 = .ok (.table before))
    (altered : (binding.serve disk (.alterTable name changes)).1 = .ok (.table after)) :
    after = changes.foldl (TableDefinition.changed binding.bridge.adapter) before := by
  obtain ⟨parts, handle, named, located, tends⟩ := tended
  obtain ⟨picture, shows, keeps⟩ := tends.exists_keepsNative
  rw [Store.simulation_shows.tableHandle? shows, shows.sound.tableHandle?_eq_some_iff] at located
  obtain ⟨_, table, found, tableNamed⟩ := located
  obtain ⟨_, answeredLoad, _⟩ := serve_shows shows (Prod.ext loaded rfl)
  obtain ⟨_, loads, loadAnswer⟩ := Outcome.map_eq_ok_iff.mp answeredLoad
  cases loadAnswer
  obtain ⟨_, _, _, loadNamed, loadFound, loadTableNamed, read⟩ :=
    Bridge.loadTable_eq_ok shows.sound loads
  obtain ⟨_, answeredAlter, _⟩ := serve_shows shows (Prod.ext altered rfl)
  obtain ⟨_, _, alters, alterAnswer, _⟩ := Bridge.changed_eq_ok answeredAlter
  cases alterAnswer
  obtain ⟨_, steps, _, _, alterNamed, planned, alterFound, alterTableNamed, _, readAfter⟩ :=
    Bridge.alterTable_eq_ok shows.sound alters
  -- The table loaded and the table altered are the one under the care of the bridge.
  cases named.symm.trans loadNamed
  cases named.symm.trans alterNamed
  cases shows.sound.names found loadFound (tableNamed.trans loadTableNamed.symm)
  cases shows.sound.names found alterFound (tableNamed.trans alterTableNamed.symm)
  cases found.symm.trans loadFound
  cases found.symm.trans alterFound
  have meaning := Alteration.parse_foldl_applyTo (Alteration.planned_of_plan planned)
    (keeps.native table found) notAlias read
  exact Except.ok.inj (readAfter.symm.trans meaning)

/-- The binding before the table of `withTable` is created. -/
def withoutTable : Binding :=
  { withTable with connector := { withTable.connector with backend := .memory {
      connector := "c", schemas := Dictionary.empty.insert "s" .empty } } }

/-- The binding of `withTable` after its table is given a comment. -/
def withComment : Binding :=
  { withTable with connector := { withTable.connector with backend := .memory {
      connector := "c"
      schemas := Dictionary.empty.insert "s" .empty
      tables := [(1, ⟨⟨"s", "t"⟩, [{ name := "x", type := .integer }], some "rows",
        Dictionary.empty.insert "format" (.string "ORC")⟩)]
      lastTableId := 1 } } }

/-- A request with changes of several kinds. -/
def severalChanges : List TableChange := [
  .renameTable "u",
  .addColumn ["y"] (.list .integer false) none (.index 0) false,
  .setProperty "transactional" " TRUE",
  .addColumn ["w"] .string none .append true,
  .setProperty "format" "ORC",
  .renameColumn ["x"] "z",
  .setProperty "location" "file:/u"]

/-- The table of `withComment` as it is loaded. -/
def beforeChanges : TableDefinition where
  name := "t"
  columns := [{ name := "x", type := .integer, position := .index 0 }]
  comment := some "rows"

/-- The table after `severalChanges`.  Its format is the default, which is not shown. -/
def afterChanges : TableDefinition where
  name := "u"
  columns := [
    { name := "y", type := .list .integer true, nullable := false, position := .index 0 },
    { name := "z", type := .integer, position := .index 1 },
    { name := "w", type := .string, position := .index 2 }]
  comment := some "rows"
  properties := .ofList [("location", "file:/u"), ("transactional", "true")]

theorem alterTable_severalChanges :
    withComment.TendsTable {} (.ofTable "m" "c" "s" "t") ∧
      (withComment.serve {} (.loadTable (.ofTable "m" "c" "s" "t"))).1 =
        .ok (.table beforeChanges) ∧
      (withComment.serve {} (.alterTable (.ofTable "m" "c" "s" "t") severalChanges)).1 =
        .ok (.table afterChanges) ∧
      afterChanges = severalChanges.foldl (TableDefinition.changed .hive) beforeChanges := by
  have reachable : (withoutTable.connector.committed {}).Reachable :=
    .call (.createSchema "s" .empty) (.memory "c" none)
  have created : withoutTable.serve {} (.createTable (.ofTable "m" "c" "s" "t")
      { name := "t", columns := [{ name := "x", type := .integer }] } none) =
        (.ok (.table { beforeChanges with comment := none }), withTable, {}) := rfl
  have commented : withTable.serve {} (.alterTable (.ofTable "m" "c" "s" "t")
      [.updateComment (some "rows")]) = (.ok (.table beforeChanges), withComment, {}) := rfl
  have tended : withComment.TendsTable {} (.ofTable "m" "c" "s" "t") := by
    refine (tendsTable_createTable reachable created).serve commented fun parts named => ?_
    cases named
    rfl
  have loaded : (withComment.serve {} (.loadTable (.ofTable "m" "c" "s" "t"))).1 =
      .ok (.table beforeChanges) := rfl
  have altered : (withComment.serve {}
      (.alterTable (.ofTable "m" "c" "s" "t") severalChanges)).1 =
        .ok (.table afterChanges) := rfl
  exact ⟨tended, loaded, altered,
    alterTable_eq_foldl_changed tended (by decide) loaded altered⟩

end Binding

end CatalogGateway
