import CatalogGateway.Proofs.Alteration.Plan
import CatalogGateway.Proofs.Catalog.Outcomes

/-!
# Effects of routed operations

A routed operation that fails, or answers that there was nothing to drop, leaves the store of
the connector as it was.  One that succeeds otherwise changes the schema or the table that it
addresses, and leaves everything else as it was.  Effects are found on sound stores in memory
and carried over to the stores that show them.
-/

namespace CatalogGateway

/-- The name of a table after a change. -/
def TableChange.renamed (name : String) : TableChange → String
  | .renameTable newName => newName
  | _ => name

namespace Alteration

/-- The steps of a request leave a table under the name that the changes give it. -/
theorem name_foldl_applyTo {provider : Provider} {changes : List TableChange}
    {steps : List Step} (planned : List.Forall₂ (Planned provider) changes steps)
    (table : MemoryTable) :
    (steps.foldl Step.applyTo table).name =
      ⟨table.name.schema, changes.foldl TableChange.renamed table.name.table⟩ := by
  induction planned generalizing table with
  | nil => rfl
  | @cons change step _ _ first _ ih =>
      have single : (step.applyTo table).name =
          ⟨table.name.schema, TableChange.renamed table.name.table change⟩ := by
        cases first <;> rfl
      rw [List.foldl_cons, ih, single, List.foldl_cons]

end Alteration

namespace Bridge

variable {bridge : Bridge} {store after : MemoryStore}

/-- How an operation that succeeds changes what the store holds.  A purge never succeeds. -/
def Effect (bridge : Bridge) (before after : Contents) : CatalogRequest → Prop
  | .createSchema name _ _ => ∃ parts, bridge.schemaName name = .ok parts ∧
      before.SchemaAdded after parts.schema
  | .dropSchema name cascade => ∃ parts, bridge.schemaName name = .ok parts ∧
      before.SchemaDropped after parts.schema cascade
  | .createTable name _ _ => ∃ parts, bridge.tableName name = .ok parts ∧
      before.TableAdded after parts.schemaTable
  | .alterTable name changes => ∃ parts, bridge.tableName name = .ok parts ∧
      before.TableReplaced after parts.schemaTable
        ⟨parts.schema, changes.foldl TableChange.renamed parts.table⟩
  | .dropTable name => ∃ parts, bridge.tableName name = .ok parts ∧
      before.TableDropped after parts.schemaTable
  | .purgeTable _ => False
  | .listSchemas _ | .loadSchema _ | .schemaExists _ | .listTables _ | .loadTable _
  | .tableExists _ => after = before

theorem changed_eq_ok {σ α : Type} {encode : α → CatalogReply} {outcome : Except Fault (α × σ)}
    {reply : CatalogReply} {working : Option σ}
    (answered : changed encode outcome = .ok (reply, working)) :
    ∃ value left, outcome = .ok (value, left) ∧ reply = encode value ∧ working = some left := by
  obtain ⟨⟨value, left⟩, succeeds, same⟩ := Outcome.map_eq_ok_iff.mp answered
  cases same
  exact ⟨value, left, succeeds, rfl, rfl⟩

theorem asked_eq_ok {σ α : Type} {encode : α → CatalogReply} {outcome : Except Fault α}
    {reply : CatalogReply} {working : Option σ}
    (answered : asked encode outcome = .ok (reply, working)) : working = none := by
  obtain ⟨value, _, same⟩ := Outcome.map_eq_ok_iff.mp answered
  cases same
  rfl

/-- An operation that succeeds on a sound store in memory has its effect, or there was nothing
to drop. -/
theorem serve_effect {request : CatalogRequest} {reply : CatalogReply}
    {working : Option MemoryStore} (sound : store.Sound)
    (workingSound : ∀ after, working = some after → after.Sound)
    (served : bridge.serve (.ok store) request = .ok (reply, working)) :
    reply = .flag false ∨
      bridge.Effect store.contents (working.getD store).contents request := by
  cases request with
  | listSchemas _ | loadSchema _ | schemaExists _ | listTables _ | loadTable _ | tableExists _ =>
      rw [asked_eq_ok served]
      exact Or.inr rfl
  | purgeTable name =>
      obtain ⟨_, served, _⟩ := Outcome.map_eq_ok_iff.mp served
      obtain ⟨_, _, served⟩ := Outcome.bind_eq_ok_iff.mp served
      cases served
  | createSchema name comment properties =>
      obtain ⟨_, after, created, rfl, rfl⟩ := changed_eq_ok served
      obtain ⟨parts, stored, named, fresh, rfl⟩ := createSchema_eq_ok created
      exact Or.inr ⟨parts, named, MemoryStore.schemaAdded stored fresh⟩
  | dropSchema name cascade =>
      obtain ⟨_, after, dropped, rfl, rfl⟩ := changed_eq_ok served
      rcases dropSchema_eq_ok dropped with ⟨rfl, rfl⟩ | ⟨parts, named, present, empty, rfl⟩
      · exact Or.inl rfl
      · exact Or.inr ⟨parts, named, sound.schemaDropped present empty (workingSound _ rfl)⟩
  | createTable name table policy =>
      obtain ⟨_, after, created, rfl, rfl⟩ := changed_eq_ok served
      obtain ⟨parts, stored, named, _, free, storedName, rfl⟩ := createTable_eq_ok created
      have added := sound.tableAdded (workingSound _ rfl) (storedName.symm ▸ free)
      rw [storedName] at added
      exact Or.inr ⟨parts, named, added⟩
  | alterTable name changes =>
      obtain ⟨_, after, altered, rfl, rfl⟩ := changed_eq_ok served
      obtain ⟨parts, steps, id, table, named, planned, found, tableNamed, rfl, _⟩ :=
        alterTable_eq_ok sound altered
      have replaced := sound.replaced found (workingSound _ rfl)
      rw [Alteration.name_foldl_applyTo (Alteration.planned_of_plan planned), tableNamed]
        at replaced
      exact Or.inr ⟨parts, named, replaced⟩
  | dropTable name =>
      obtain ⟨_, after, dropped, rfl, rfl⟩ := changed_eq_ok served
      rcases dropTable_eq_ok sound dropped with
        ⟨rfl, rfl⟩ | ⟨parts, id, table, named, found, tableNamed, rfl⟩
      · exact Or.inl rfl
      · have dropped := sound.tableDropped found (workingSound _ rfl)
        rw [tableNamed] at dropped
        exact Or.inr ⟨parts, named, dropped⟩

theorem eq_of_serve_false {σ : Type} [MetadataStore σ] {store after : σ}
    {request : CatalogRequest}
    (served : bridge.serve (.ok store) request = .ok (.flag false, some after)) :
    after = store := by
  cases request with
  | listSchemas _ | loadSchema _ | schemaExists _ | listTables _ | loadTable _ | tableExists _
  | purgeTable _ => cases asked_eq_ok served
  | createSchema _ _ _ | createTable _ _ _ | alterTable _ _ =>
      obtain ⟨_, _, _, answer, _⟩ := changed_eq_ok served
      cases answer
  | dropSchema name cascade =>
      obtain ⟨dropped, left, served, answer, same⟩ := changed_eq_ok served
      cases answer
      cases same
      obtain ⟨parts, _, served⟩ := Outcome.bind_eq_ok_iff.mp served
      obtain ⟨_, same, served⟩ := Outcome.bind_eq_ok_iff.mp served
      cases same
      split at served
      · obtain ⟨_, _, answer⟩ := Outcome.bind_eq_ok_iff.mp served
        cases answer
      · cases served
        rfl
  | dropTable name =>
      obtain ⟨dropped, left, served, answer, same⟩ := changed_eq_ok served
      cases answer
      cases same
      obtain ⟨parts, _, served⟩ := Outcome.bind_eq_ok_iff.mp served
      obtain ⟨_, same, served⟩ := Outcome.bind_eq_ok_iff.mp served
      cases same
      split at served
      · cases served
        rfl
      · obtain ⟨_, _, answer⟩ := Outcome.bind_eq_ok_iff.mp served
        cases answer

/-- Nothing succeeds when no transaction can be opened. -/
theorem serve_refused {σ : Type} [MetadataStore σ] {refusal : StoreFault}
    {request : CatalogRequest} {answer : CatalogReply × Option σ} :
    bridge.serve (.error refusal) request ≠ .ok answer := by
  intro served
  cases request with
  | listSchemas _ | loadSchema _ | schemaExists _ | dropSchema _ _ | listTables _ | loadTable _
  | tableExists _ | alterTable _ _ | dropTable _ | purgeTable _ =>
      obtain ⟨_, served, _⟩ := Outcome.map_eq_ok_iff.mp served
      obtain ⟨_, _, served⟩ := Outcome.bind_eq_ok_iff.mp served
      cases served
  | createSchema _ _ _ | createTable _ _ _ =>
      obtain ⟨_, served, _⟩ := Outcome.map_eq_ok_iff.mp served
      obtain ⟨_, _, served⟩ := Outcome.bind_eq_ok_iff.mp served
      obtain ⟨_, _, served⟩ := Outcome.bind_eq_ok_iff.mp served
      cases served

end Bridge

namespace Binding

variable {binding next : Binding} {disk nextDisk : Disk} {request : CatalogRequest}
  {reply : CatalogReply} {outcome : Except Fault CatalogReply}

/-- An operation that succeeds is one on the store of the connector, and the copy that it
leaves, if any, becomes the store of the connector. -/
theorem serve_eq_ok (served : binding.serve disk request = (.ok reply, next, nextDisk)) :
    ∃ working,
      binding.bridge.serve (.ok (binding.connector.committed disk)) request =
        .ok (reply, working) ∧
      (working = none → next = binding ∧ nextDisk = disk) ∧
      (∀ store, working = some store →
        next = { binding with connector := (binding.connector.commit disk store).1 } ∧
          nextDisk = (binding.connector.commit disk store).2) := by
  rw [Binding.serve, Connector.begin] at served
  split at served
  · cases served
  · rename_i answered
    cases served
    split at answered
    · exact absurd answered Bridge.serve_refused
    · exact ⟨none, answered, fun _ => ⟨rfl, rfl⟩, by simp⟩
  · rename_i working answered
    cases served
    split at answered
    · exact absurd answered Bridge.serve_refused
    · refine ⟨some working, answered, by simp, ?_⟩
      rintro _ ⟨rfl⟩
      exact ⟨rfl, rfl⟩

/-- An operation succeeds only while the connector is in use. -/
theorem isOpen_of_serve (served : binding.serve disk request = (.ok reply, next, nextDisk)) :
    binding.connector.shutdowns = 0 := by
  by_contra ended
  have isShutDown : binding.connector.isShutDown = true := decide_eq_true ended
  rw [Binding.serve, Connector.begin, if_pos isShutDown] at served
  split at served
  · cases served
  · exact Bridge.serve_refused ‹_›
  · exact Bridge.serve_refused ‹_›

/-- The copy that an operation leaves, if any, is the store of the connector afterwards. -/
theorem committed_serve (served : binding.serve disk request = (.ok reply, next, nextDisk)) :
    ∃ working,
      binding.bridge.serve (.ok (binding.connector.committed disk)) request =
        .ok (reply, working) ∧
      next.bridge = binding.bridge ∧
      next.connector.committed nextDisk = working.getD (binding.connector.committed disk) := by
  have simulation : MetadataStore.Simulation fun store other =>
      store = other ∧ binding.connector.Takes disk store :=
    MetadataStore.Simulation.refl.and fun _ call => Connector.takes_run call
  obtain ⟨working, answered, kept, replaced⟩ := serve_eq_ok served
  refine ⟨working, answered, ?_⟩
  cases working with
  | none =>
      obtain ⟨rfl, rfl⟩ := kept rfl
      exact ⟨rfl, rfl⟩
  | some after =>
      obtain ⟨rfl, rfl⟩ := replaced _ rfl
      obtain ⟨⟨_, _⟩, _, _, related⟩ := Bridge.serve_refines simulation
        ⟨rfl, binding.connector.takes_committed disk⟩ binding.bridge request _ answered
      cases related with
      | some taken => exact ⟨rfl, taken.2⟩

/-- After an operation that succeeds, the store of the connector shows what the operation makes
of the picture before. -/
theorem serve_shows {picture : MemoryStore}
    (shows : (binding.connector.committed disk).Shows picture)
    (served : binding.serve disk request = (.ok reply, next, nextDisk)) :
    ∃ working, binding.bridge.serve (.ok picture) request = .ok (reply, working) ∧
      (next.connector.committed nextDisk).Shows (working.getD picture) := by
  obtain ⟨working, answered, _, committed⟩ := committed_serve served
  obtain ⟨⟨_, after⟩, pictured, rfl, related⟩ :=
    Bridge.serve_refines Store.simulation_shows shows binding.bridge request _ answered
  refine ⟨after, pictured, ?_⟩
  rw [committed]
  cases related with
  | none => exact shows
  | some shown => exact shown

theorem serve_eq_error {fault : Fault}
    (served : binding.serve disk request = (.error fault, next, nextDisk)) :
    next = binding ∧ nextDisk = disk := by
  rw [Binding.serve] at served
  split at served
  · cases served
    exact ⟨rfl, rfl⟩
  · cases served
  · cases served

/-- No operation changes the bridge. -/
theorem bridge_of_serve (served : binding.serve disk request = (outcome, next, nextDisk)) :
    next.bridge = binding.bridge := by
  cases outcome with
  | error fault => rw [(serve_eq_error served).1]
  | ok reply =>
      obtain ⟨_, _, bridge, _⟩ := committed_serve served
      exact bridge

/-- On every reachable store, an operation that fails or answers that there was nothing to drop
leaves the store of the connector as it was, and one that succeeds otherwise has its effect and
no other. -/
theorem serve_frame (reachable : (binding.connector.committed disk).Reachable)
    (served : binding.serve disk request = (outcome, next, nextDisk)) :
    ((∃ fault, outcome = .error fault) ∨ outcome = .ok (.flag false) →
      next.connector.committed nextDisk = binding.connector.committed disk) ∧
    ∀ reply, outcome = .ok reply → reply ≠ .flag false →
      binding.bridge.Effect (binding.connector.committed disk).contents
        (next.connector.committed nextDisk).contents request := by
  constructor
  · rintro (⟨fault, rfl⟩ | rfl)
    · obtain ⟨rfl, rfl⟩ := serve_eq_error served
      rfl
    · obtain ⟨working, answered, _, committed⟩ := committed_serve served
      rw [committed]
      cases working with
      | none => rfl
      | some after => exact Bridge.eq_of_serve_false answered
  · rintro reply rfl present
    obtain ⟨picture, shows⟩ := reachable.exists_shows
    obtain ⟨working, answered, shown⟩ := serve_shows shows served
    have workingSound (after : MemoryStore) (same : working = some after) : after.Sound := by
      subst same
      exact shown.sound
    rw [shows.contents, shown.contents]
    rcases Bridge.serve_effect shows.sound workingSound answered with absent | effect
    · exact absurd absent present
    · exact effect

/-- A hive catalog over a store in memory with one table, as the catalog creates it. -/
def withTable : Binding where
  bridge := { catalog := { metalake := "m", name := "c", provider := "hive" }, generation := 1,
              adapter := .hive }
  connector := {
    name := "c"
    backend := .memory {
      connector := "c"
      schemas := Dictionary.empty.insert "s" .empty
      tables := [(1, ⟨⟨"s", "t"⟩, [{ name := "x", type := .integer }], none,
        Dictionary.empty.insert "format" (.string "ORC")⟩)]
      lastTableId := 1 } }

theorem reachable_withTable : (withTable.connector.committed {}).Reachable :=
  .call (.createTable "s" {
      name := "t", columns := [{ name := "x", type := .integer }]
      properties := Dictionary.empty.insert "format" (.string "ORC") })
    (.call (.createSchema "s" .empty) (.memory "c" none))

/-- Renaming the only table moves it from one name to the other. -/
theorem serve_rename_frame :
    ∃ table next nextDisk,
      withTable.serve {} (.alterTable (.ofTable "m" "c" "s" "t") [.renameTable "u"]) =
        (.ok (.table table), next, nextDisk) ∧
      withTable.bridge.Effect (withTable.connector.committed {}).contents
        (next.connector.committed nextDisk).contents
        (.alterTable (.ofTable "m" "c" "s" "t") [.renameTable "u"]) := by
  obtain ⟨table, next, nextDisk, served⟩ : ∃ table next nextDisk,
      withTable.serve {} (.alterTable (.ofTable "m" "c" "s" "t") [.renameTable "u"]) =
        (.ok (.table table), next, nextDisk) := ⟨_, _, _, rfl⟩
  exact ⟨table, next, nextDisk, served, (serve_frame reachable_withTable served).2 _ rfl nofun⟩

end Binding

end CatalogGateway
