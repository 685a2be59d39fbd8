import CatalogGateway.Proofs.Catalog.Routed
import CatalogGateway.Proofs.Provider.ReadFaults
import CatalogGateway.Proofs.Store.Listings
import CatalogGateway.Proofs.Text.ByteOrder

/-!
# Listings of bridges

What a catalog lists is what there is.  The names in its store are made into names below the one
that is listed, which are refused only if a part is empty, and nothing has such a name in a store
that is used through bridges with the names that callers can make.
-/

namespace CatalogGateway

open MetadataStore Outcome

namespace QualifiedName

/-- The last parts of names ascend by their bytes. -/
def Ascending (names : List QualifiedName) : Prop :=
  names.Pairwise fun first second => Octets.ofText first.last < Octets.ofText second.last

theorem ascending_map_below (name : QualifiedName) {names : List String}
    (ascend : names.Pairwise (· < ·)) :
    Ascending (names.map name.below) := by
  refine List.pairwise_map.mpr (ascend.imp fun less => ?_)
  rw [last_below, last_below]
  exact Octets.ofText_lt_iff.mpr less

end QualifiedName

open QualifiedName

namespace Bridge

variable {bridge : Bridge} {store : Store} {picture : MemoryStore} {name : QualifiedName}

theorem children_eq_ok {names : List String} (filled : name.Filled)
    (shallow : name.depth < maxDepth) (notEmpty : ∀ segment ∈ names, segment ≠ "") :
    children name names = .ok (names.map name.below) := by
  have made : names.mapM name.child = .ok (names.map name.below) :=
    mapM_eq_ok_map name.below fun segment member =>
      child_eq_ok filled shallow (notEmpty segment member)
  rw [children, made]
  rfl

theorem exists_schemaName (checked : bridge.checkName name .schema = .ok ()) :
    ∃ parts, bridge.schemaName name = .ok parts := by
  obtain ⟨metalake, segments⟩ := name
  obtain ⟨kind, sameMetalake, sameCatalog⟩ := checkName_eq_ok_iff.mp checked
  rw [QualifiedName.kind] at kind
  split at kind
  case h_3 catalog schema same =>
    cases same
    exact ⟨⟨metalake, catalog, schema⟩,
      schemaName_eq_ok_iff.mpr ⟨rfl, sameMetalake, Option.some.inj sameCatalog⟩⟩
  all_goals cases kind

theorem schemaExists_of_named {parts : SchemaName} (named : bridge.schemaName name = .ok parts)
    (store : Store) :
    bridge.schemaExists (.ok store) name = .ok (hasSchema store parts.schema) := by
  rw [schemaExists, named]
  rfl

theorem schemaExists_eq_true_iff : bridge.schemaExists (.ok store) name = .ok true ↔
    ∃ parts, bridge.schemaName name = .ok parts ∧ hasSchema store parts.schema = true := by
  simp [schemaExists, enter, bind_eq_ok_iff, pure, Except.pure]

theorem tableExists_eq_true_iff : bridge.tableExists (.ok store) name = .ok true ↔
    ∃ parts, bridge.tableName name = .ok parts ∧
      (tableHandle? store parts.schemaTable).isSome := by
  simp [tableExists, enter, bind_eq_ok_iff, pure, Except.pure]

theorem schema_ne_empty_of_hasSchema {schema : String} (shows : store.Shows picture)
    (filled : picture.contents.Filled) (present : hasSchema store schema = true) : schema ≠ "" := by
  rintro rfl
  rw [shows.hasSchema, Dictionary.contains] at present
  exact absurd filled.schemas (Option.isSome_iff_ne_none.mp present)

theorem table_ne_empty_of_located {name : SchemaTable} (shows : store.Shows picture)
    (filled : picture.contents.Filled) (located : (tableHandle? store name).isSome) :
    name.table ≠ "" := by
  obtain ⟨schema, table⟩ := name
  rintro rfl
  have absent : tableHandle? picture ⟨schema, ""⟩ = none := by
    show Option.map _ (picture.findTable? _) = none
    rw [MemoryStore.findTable?_eq_map, filled.tables]
    rfl
  rw [Store.simulation_shows.tableHandle? shows, absent] at located
  cases located

/-- The schemas of a catalog are listed, each once, and no others. -/
theorem exists_listSchemas (shows : store.Shows picture) (filled : picture.contents.Filled)
    (catalogFilled : bridge.catalog.qualifiedName.Filled) :
    ∃ names, bridge.listSchemas (.ok store) bridge.catalog.qualifiedName = .ok names ∧
      Ascending names ∧
      ∀ name, name ∈ names ↔ bridge.schemaExists (.ok store) name = .ok true := by
  have checked : bridge.checkName bridge.catalog.qualifiedName .catalog = .ok () :=
    checkName_eq_ok_iff.mpr ⟨rfl, rfl, rfl⟩
  have notEmpty (schema : String) (member : schema ∈ schemaNames store) : schema ≠ "" :=
    schema_ne_empty_of_hasSchema shows filled (shows.mem_schemaNames_iff.mp member)
  have listed := children_eq_ok catalogFilled (by decide : 1 < maxDepth) notEmpty
  have ascending := ascending_map_below bridge.catalog.qualifiedName shows.schemaNames_ascend
  refine ⟨_, ?_, ascending, fun name => ?_⟩
  · rw [listSchemas, checked]
    exact listed
  · rw [schemaExists_eq_true_iff, List.mem_map]
    constructor
    · rintro ⟨schema, member, rfl⟩
      exact ⟨⟨_, _, schema⟩, schemaName_eq_ok_iff.mpr ⟨rfl, rfl, rfl⟩,
        shows.mem_schemaNames_iff.mp member⟩
    · rintro ⟨⟨_, _, schema⟩, named, present⟩
      obtain ⟨rfl, rfl, rfl⟩ := schemaName_eq_ok_iff.mp named
      exact ⟨schema, shows.mem_schemaNames_iff.mpr present, rfl⟩

/-- The tables of a schema that there is are listed, each once, and no others. -/
theorem exists_listTables {parts : SchemaName} (shows : store.Shows picture)
    (filled : picture.contents.Filled) (schemaFilled : name.Filled)
    (named : bridge.schemaName name = .ok parts)
    (present : hasSchema store parts.schema = true) :
    ∃ names, bridge.listTables (.ok store) name = .ok names ∧ Ascending names ∧
      ∀ table, table ∈ names ↔
        table.parent? = some name ∧ bridge.tableExists (.ok store) table = .ok true := by
  obtain ⟨tables, listed, ascend, found⟩ := shows.exists_tableNames present
  have notEmpty (table : String) (member : table ∈ tables.map SchemaTable.table) :
      table ≠ "" := by
    obtain ⟨other, inTables, rfl⟩ := List.mem_map.mp member
    exact table_ne_empty_of_located shows filled ((found other).mp inTables).2
  obtain ⟨rfl, sameMetalake, sameCatalog⟩ := schemaName_eq_ok_iff.mp named
  -- Every name of a table that is there can be put below the name of the schema.
  have made := children_eq_ok schemaFilled (by decide : 2 < maxDepth) notEmpty
  refine ⟨_, ?_, ascending_map_below parts.qualified ascend, fun table => ?_⟩
  · rw [listTables, named]
    simp only [enter, requireSchema, present, listed, bind, Except.bind, Except.mapError, if_true]
    exact made
  · have tableNamed (last : String) : bridge.tableName (parts.qualified.below last) =
        .ok ⟨parts.metalake, parts.catalog, parts.schema, last⟩ :=
      tableName_eq_ok_iff.mpr ⟨rfl, sameMetalake, sameCatalog⟩
    rw [tableExists_eq_true_iff, parent?_eq_some_iff, List.mem_map]
    constructor
    · rintro ⟨last, member, rfl⟩
      obtain ⟨⟨schema, _⟩, inTables, rfl⟩ := List.mem_map.mp member
      obtain ⟨rfl, located⟩ := (found _).mp inTables
      exact ⟨⟨_, rfl⟩, _, tableNamed _, located⟩
    · rintro ⟨⟨last, rfl⟩, others, othersNamed, located⟩
      cases (tableNamed last).symm.trans othersNamed
      exact ⟨last, List.mem_map.mpr ⟨_, (found _).mpr ⟨rfl, located⟩, rfl⟩, rfl⟩

theorem listTables_of_absent {parts : SchemaName} (named : bridge.schemaName name = .ok parts)
    (absent : hasSchema store parts.schema = false) :
    bridge.listTables (.ok store) name = .error (.notFound .schema name.display) := by
  rw [listTables, named]
  simp only [enter, requireSchema, absent, bind, Except.bind, Except.mapError]
  rfl

theorem isPresent_of_isUnreadable {fault : StoreFault} (unreadable : Metastore.IsUnreadable fault) :
    (Fault.store fault).IsPresent := by
  obtain ⟨reason, rfl⟩ := unreadable
  exact nofun

/-- A table is there exactly when a load of it is not answered that it is missing. -/
theorem tableExists_eq_true_iff_raises {parts : TableName} (shows : store.Shows picture)
    (named : bridge.tableName name = .ok parts) :
    bridge.tableExists (.ok store) name = .ok true ↔
      Raises Fault.IsPresent (bridge.loadTable (.ok store) name) := by
  have exists_iff : bridge.tableExists (.ok store) name = .ok true ↔
      (tableHandle? store parts.schemaTable).isSome := by
    simp [tableExists_eq_true_iff, named]
  rw [exists_iff, loadTable_of_named named, readTable]
  cases located : tableHandle? store parts.schemaTable with
  | none => exact iff_of_false Bool.false_ne_true fun raises => raises _ rfl rfl
  | some handle =>
      refine iff_of_true rfl ?_
      have described : Raises Fault.IsPresent ((tableMetadata store handle).mapError .store) :=
        .mapError ((shows.raises_tableMetadata located).imp fun _ => isPresent_of_isUnreadable)
      exact described.bind fun table => bridge.adapter.raises_parseTable table

end Bridge

namespace Binding

variable {binding : Binding} {disk : Disk} {catalog : CatalogDefinition}

/-- What a binding lists is what there is, and is listed in order. -/
structure ListsExisting (binding : Binding) (disk : Disk) : Prop where
  schemas : ∃ names,
    (binding.serve disk (.listSchemas binding.bridge.catalog.qualifiedName)).1 =
      .ok (.names names) ∧
    Ascending names ∧
    ∀ name, name ∈ names ↔ (binding.serve disk (.schemaExists name)).1 = .ok (.flag true)
  /-- The tables of a schema are listed if there is the schema, which else is missing. -/
  tables : ∀ schema, schema.Filled → binding.bridge.checkName schema .schema = .ok () →
    ((binding.serve disk (.schemaExists schema)).1 = .ok (.flag false) ∧
      ∃ fault, (binding.serve disk (.listTables schema)).1 = .error fault ∧
        fault.kind = .notFound) ∨
    ((binding.serve disk (.schemaExists schema)).1 = .ok (.flag true) ∧
      ∃ names, (binding.serve disk (.listTables schema)).1 = .ok (.names names) ∧
        Ascending names ∧
        ∀ table, table ∈ names ↔ table.parent? = some schema ∧
          (binding.serve disk (.tableExists table)).1 = .ok (.flag true))
  loads : ∀ name parts, binding.bridge.tableName name = .ok parts →
    ((binding.serve disk (.tableExists name)).1 = .ok (.flag true) ↔
      ∀ fault, (binding.serve disk (.loadTable name)).1 = .error fault → fault.kind ≠ .notFound)

/-- While the connector is in use, a question is answered from its store. -/
theorem answer_of_asked {α : Type} {encode : α → CatalogReply} {outcome : Except Fault α}
    (isOpen : binding.connector.shutdowns = 0) (request : CatalogRequest)
    (asked : binding.bridge.serve (.ok (binding.connector.committed disk)) request =
      Bridge.asked encode outcome) :
    (binding.serve disk request).1 = outcome.map encode := by
  have answers : binding.bridge.serve (.ok (binding.connector.committed disk)) request =
      (outcome.map encode).map fun reply => (reply, none) := by
    rw [asked]
    cases outcome <;> rfl
  rw [serve_of_asked isOpen answers]

theorem flag_eq_ok_iff {outcome : Except Fault Bool} {value : Bool} :
    outcome.map CatalogReply.flag = .ok (.flag value) ↔ outcome = .ok value := by
  simp [map_eq_ok_iff]

/-- A binding in use lists what there is in its store. -/
theorem InUse.listsExisting (inUse : binding.InUse catalog disk)
    (filled : catalog.qualifiedName.Filled) : binding.ListsExisting disk := by
  obtain ⟨rfl, isOpen, routed⟩ := inUse
  obtain ⟨picture, shows, held⟩ := routed.exists_filled
  have schemaExists (name : QualifiedName) (value : Bool) :
      (binding.serve disk (.schemaExists name)).1 = .ok (.flag value) ↔
        binding.bridge.schemaExists (.ok (binding.connector.committed disk)) name = .ok value := by
    rw [answer_of_asked isOpen _ rfl, flag_eq_ok_iff]
  have tableExists (name : QualifiedName) :
      (binding.serve disk (.tableExists name)).1 = .ok (.flag true) ↔
        binding.bridge.tableExists (.ok (binding.connector.committed disk)) name = .ok true := by
    rw [answer_of_asked isOpen _ rfl, flag_eq_ok_iff]
  constructor
  case schemas =>
    obtain ⟨names, listed, ascending, found⟩ := Bridge.exists_listSchemas shows held filled
    refine ⟨names, ?_, ascending, fun name => (found name).trans (schemaExists name true).symm⟩
    rw [answer_of_asked isOpen _ rfl, listed]
    rfl
  case tables =>
    intro schema schemaFilled checked
    obtain ⟨parts, named⟩ := Bridge.exists_schemaName checked
    have answered := Bridge.schemaExists_of_named named (binding.connector.committed disk)
    rw [schemaExists, schemaExists, answered]
    cases present : hasSchema (binding.connector.committed disk) parts.schema with
    | false =>
        refine Or.inl ⟨rfl, .notFound .schema schema.display, ?_, rfl⟩
        rw [answer_of_asked isOpen _ rfl, Bridge.listTables_of_absent named present]
        rfl
    | true =>
        obtain ⟨names, listed, ascending, found⟩ :=
          Bridge.exists_listTables shows held schemaFilled named present
        refine Or.inr ⟨rfl, names, ?_, ascending, fun table => ?_⟩
        · rw [answer_of_asked isOpen _ rfl, listed]
          rfl
        · rw [tableExists, found]
  case loads =>
    intro name parts named
    rw [tableExists, Bridge.tableExists_eq_true_iff_raises shows named,
      answer_of_asked isOpen (.loadTable name) rfl]
    exact forall_congr' fun fault => imp_congr_left map_eq_error_iff.symm

/-- Listings agree with existence after any operations with filled names, whether they succeed or
fail. -/
theorem listsExisting_serveAll {requests : List CatalogRequest}
    (inUse : binding.InUse catalog disk) (catalogFilled : catalog.qualifiedName.Filled)
    (filled : ∀ request ∈ requests, request.name.Filled) :
    (binding.serveAll disk requests).1.ListsExisting (binding.serveAll disk requests).2 :=
  (inUse.serveAll filled).listsExisting catalogFilled

/-- The binding of `withTable` before anything is done. -/
def fresh : Binding :=
  { withTable with connector := { name := "c", backend := .memory { connector := "c" } } }

/-- Operations of several kinds, the fifth of which fails. -/
def severalRequests : List CatalogRequest := [
  .createSchema (.ofSchema "m" "c" "w") none .empty,
  .createSchema (.ofSchema "m" "c" "s") none .empty,
  .createTable (.ofTable "m" "c" "s" "v") { name := "t" } none,
  .createTable (.ofTable "m" "c" "s" "t") { name := "t" } none,
  .createTable (.ofTable "m" "c" "s" "t") { name := "t" } none,
  .alterTable (.ofTable "m" "c" "s" "t") [.renameTable "x", .renameTable "é"],
  .dropSchema (.ofSchema "m" "c" "w") true]

theorem listsExisting_severalRequests :
    (fresh.serveAll {} severalRequests).1.ListsExisting (fresh.serveAll {} severalRequests).2 ∧
      ((fresh.serveAll {} severalRequests).1.serve (fresh.serveAll {} severalRequests).2
        (.listSchemas (.ofCatalog "m" "c"))).1 = .ok (.names [.ofSchema "m" "c" "s"]) ∧
      ((fresh.serveAll {} severalRequests).1.serve (fresh.serveAll {} severalRequests).2
        (.tableExists (.ofTable "m" "c" "s" "é"))).1 = .ok (.flag true) := by
  have inUse : fresh.InUse withTable.bridge.catalog {} := ⟨rfl, rfl, .memory "c" none⟩
  exact ⟨listsExisting_serveAll inUse (by decide) (by decide), rfl, rfl⟩

end Binding

end CatalogGateway
