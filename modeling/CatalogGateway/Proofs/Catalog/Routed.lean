import CatalogGateway.Proofs.Catalog.ReadBack
import CatalogGateway.Proofs.Catalog.Tended
import CatalogGateway.Proofs.Name.Parts

/-!
# Stores behind bridges

Stores that the operations of bridges lead to from new ones, where the names of the operations
have no empty parts.  Names that are made of parts or of a text have none.  Tables also get names
from alterations, which refuse an empty one, so nothing in such a store has an empty name.
-/

namespace CatalogGateway

theorem SchemaTable.unnamed_ne {name : SchemaTable} (named : name.table ≠ "") (schema : String) :
    ⟨schema, ""⟩ ≠ name := by
  rintro rfl
  exact named rfl

/-- The name that an operation is given. -/
def CatalogRequest.name : CatalogRequest → QualifiedName
  | .listSchemas name | .createSchema name _ _ | .loadSchema name | .schemaExists name
  | .dropSchema name _ | .listTables name | .loadTable name | .tableExists name
  | .createTable name _ _ | .alterTable name _ | .dropTable name | .purgeTable name => name

/-- The stores that operations with filled names lead to from new ones. -/
inductive Store.Routed : Store → Prop where
  | memory (connector : String) (maxTables : Option Nat) : Routed (.memory { connector, maxTables })
  | relational : Routed (.relational {})
  | served {bridge : Bridge} {store after : Store} {request : CatalogRequest}
      {reply : CatalogReply} (routed : Routed store) (filled : request.name.Filled)
      (served : bridge.serve (.ok store) request = .ok (reply, some after)) : Routed after
  /-- A store that is opened for reading only was written before. -/
  | sealed {store : Metastore} (routed : Routed (.relational store)) : Routed (.sealed ⟨store⟩)

/-- Nothing that is held has an empty name. -/
structure Contents.Filled (contents : Contents) : Prop where
  schemas : contents.schema? "" = none
  tables : ∀ schema, contents.table? ⟨schema, ""⟩ = none

namespace Alteration

theorem ne_empty_of_checkName {table : TableName} {kind : ChangeKind} {name checked : String}
    (accepted : checkName table kind name = .ok checked) : name ≠ "" := by
  rintro rfl
  cases accepted

/-- An alteration that is accepted does not leave a table without a name. -/
theorem renamed_ne_empty {provider : Provider} {table : TableName} {changes : List TableChange}
    {steps : List Step} (planned : plan provider table changes = .ok steps) {name : String}
    (filled : name ≠ "") : changes.foldl TableChange.renamed name ≠ "" := by
  -- Each change is checked by itself, whatever name the changes before it have left.
  have pairs := Outcome.forall₂_of_mapM_eq_ok planned
  clear planned
  induction pairs generalizing name with
  | nil => exact filled
  | @cons change _ _ _ accepted _ ih =>
      apply ih
      cases change with
      | renameTable newName =>
          obtain ⟨_, checked, _⟩ := Outcome.bind_eq_ok_iff.mp accepted
          exact ne_empty_of_checkName (Outcome.mapError_eq_ok_iff.mp checked)
      | _ => exact filled

end Alteration

namespace Bridge

variable {bridge : Bridge} {name : QualifiedName} {request : CatalogRequest}
  {reply : CatalogReply}

theorem schemaName_eq_ok_iff {parts : SchemaName} : bridge.schemaName name = .ok parts ↔
    name = parts.qualified ∧ parts.metalake = bridge.catalog.metalake ∧
      parts.catalog = bridge.catalog.name := by
  simp only [schemaName, Outcome.bind_eq_ok_iff, Outcome.mapError_eq_ok_iff,
    QualifiedName.asSchema_eq_ok_iff]
  constructor
  · rintro ⟨_, checked, rfl⟩
    obtain ⟨_, metalake, catalog⟩ := checkName_eq_ok_iff.mp checked
    exact ⟨rfl, metalake, Option.some.inj catalog⟩
  · rintro ⟨rfl, metalake, catalog⟩
    exact ⟨(), checkName_eq_ok_iff.mpr ⟨rfl, metalake, congrArg some catalog⟩, rfl⟩

theorem schema_ne_empty {parts : SchemaName} (named : bridge.schemaName name = .ok parts)
    (filled : name.Filled) : parts.schema ≠ "" := by
  obtain ⟨rfl, _⟩ := schemaName_eq_ok_iff.mp named
  exact filled _ (by simp [SchemaName.qualified, QualifiedName.ofSchema, QualifiedName.components])

theorem table_ne_empty {parts : TableName} (named : bridge.tableName name = .ok parts)
    (filled : name.Filled) : parts.table ≠ "" := by
  obtain ⟨rfl, _⟩ := tableName_eq_ok_iff.mp named
  exact filled _ (by simp [TableName.qualified, QualifiedName.ofTable, QualifiedName.components])

/-- An operation with a filled name gives nothing an empty name. -/
theorem filled_serve {store after : MemoryStore} (filled : store.contents.Filled)
    (sound : store.Sound) (afterSound : after.Sound) (named : request.name.Filled)
    (served : bridge.serve (.ok store) request = .ok (reply, some after)) :
    after.contents.Filled := by
  -- What an operation changes is named by it, up to the new name of a table.
  have effects := serve_effect sound (fun _ same => Option.some.inj same ▸ afterSound) served
  rcases effects with rfl | effect
  · rw [eq_of_serve_false served]
    exact filled
  · cases request with
    | listSchemas _ | loadSchema _ | schemaExists _ | listTables _ | loadTable _ | tableExists _
    | purgeTable _ => cases asked_eq_ok served
    | createSchema name comment properties =>
        obtain ⟨parts, schemaNamed, added⟩ := effect
        have other := (schema_ne_empty schemaNamed named).symm
        exact ⟨(added.schemas _ other).trans filled.schemas,
          fun schema => (congrFun added.tables _).trans (filled.tables schema)⟩
    | dropSchema name cascade =>
        obtain ⟨parts, schemaNamed, dropped⟩ := effect
        have other := (schema_ne_empty schemaNamed named).symm
        refine ⟨(dropped.schemas _ other).trans filled.schemas, fun schema => ?_⟩
        by_cases within : schema = parts.schema
        · exact dropped.dropped _ within
        · exact (dropped.tables _ within).trans (filled.tables schema)
    | createTable name table policy =>
        obtain ⟨parts, tableNamed, added⟩ := effect
        have other := @SchemaTable.unnamed_ne parts.schemaTable (table_ne_empty tableNamed named)
        exact ⟨(congrFun added.schemas _).trans filled.schemas,
          fun schema => (added.tables _ (other schema)).trans (filled.tables schema)⟩
    | alterTable name changes =>
        obtain ⟨parts, tableNamed, replaced⟩ := effect
        obtain ⟨_, _, altered, _⟩ := changed_eq_ok served
        obtain ⟨others, _, _, _, othersNamed, planned, _⟩ := alterTable_eq_ok sound altered
        cases tableNamed.symm.trans othersNamed
        have oldName := table_ne_empty tableNamed named
        have newName := Alteration.renamed_ne_empty planned oldName
        refine ⟨(congrFun replaced.schemas _).trans filled.schemas, fun schema => ?_⟩
        exact (replaced.tables _ (SchemaTable.unnamed_ne oldName schema)
          (SchemaTable.unnamed_ne newName schema)).trans (filled.tables schema)
    | dropTable name =>
        obtain ⟨parts, tableNamed, dropped⟩ := effect
        have other := @SchemaTable.unnamed_ne parts.schemaTable (table_ne_empty tableNamed named)
        exact ⟨(congrFun dropped.schemas _).trans filled.schemas,
          fun schema => (dropped.tables _ (other schema)).trans (filled.tables schema)⟩

end Bridge

namespace Store.Routed

/-- A store behind bridges shows one in memory in which nothing has an empty name. -/
theorem exists_filled {store : Store} (routed : store.Routed) :
    ∃ picture, store.Shows picture ∧ picture.contents.Filled := by
  induction routed with
  | memory connector maxTables =>
      exact ⟨_, ⟨rfl, .fresh connector maxTables⟩, rfl, fun _ => rfl⟩
  | relational => exact ⟨_, Metastore.Shows.fresh "", rfl, fun _ => rfl⟩
  | served _ named served ih =>
      obtain ⟨picture, shows, filled⟩ := ih
      obtain ⟨next, answered, shown⟩ := Bridge.serve_picture shows served
      exact ⟨next, shown, Bridge.filled_serve filled shows.sound shown.sound named answered⟩
  | «sealed» _ ih => exact ih

end Store.Routed

namespace Binding

variable {binding next : Binding} {disk nextDisk : Disk} {request : CatalogRequest}

/-- The binding and the disk after operations, whether they succeed or fail. -/
def serveAll (binding : Binding) (disk : Disk) : List CatalogRequest → Binding × Disk
  | [] => (binding, disk)
  | request :: rest =>
    let (_, next, nextDisk) := binding.serve disk request
    next.serveAll nextDisk rest

/-- A binding of a catalog is in use, with a store behind bridges. -/
structure InUse (catalog : CatalogDefinition) (binding : Binding) (disk : Disk) : Prop where
  catalog : binding.bridge.catalog = catalog
  isOpen : binding.connector.shutdowns = 0
  routed : (binding.connector.committed disk).Routed

namespace InUse

variable {catalog : CatalogDefinition}

theorem serve {outcome : Except Fault CatalogReply} (inUse : binding.InUse catalog disk)
    (filled : request.name.Filled)
    (served : binding.serve disk request = (outcome, next, nextDisk)) :
    next.InUse catalog nextDisk := by
  cases outcome with
  | error fault =>
      obtain ⟨rfl, rfl⟩ := serve_eq_error served
      exact inUse
  | ok reply =>
      obtain ⟨working, answered, bridge, committed⟩ := committed_serve served
      refine ⟨by rw [bridge, inUse.catalog], isOpen_serve served, ?_⟩
      rw [committed]
      cases working with
      | none => exact inUse.routed
      | some after => exact .served inUse.routed filled answered

theorem serveAll {requests : List CatalogRequest} (inUse : binding.InUse catalog disk)
    (filled : ∀ request ∈ requests, request.name.Filled) :
    (binding.serveAll disk requests).1.InUse catalog (binding.serveAll disk requests).2 := by
  induction requests generalizing binding disk with
  | nil => exact inUse
  | cons request rest ih =>
      obtain ⟨first, others⟩ := List.forall_mem_cons.mp filled
      exact ih (inUse.serve first rfl) others

end InUse

end Binding

end CatalogGateway
