import CatalogGateway.Proofs.Catalog.Frame
import CatalogGateway.Proofs.Provider.ReturnedProperties
import CatalogGateway.Proofs.Types.Unsupported

/-!
# Rejected changes

A change is rejected for what it says itself: where it looks for a column, what it renames to,
which property it touches, or what it asks a column to hold.  Neither the store nor the other
changes of the request have a part in this, so the plan of a request fails with the fault of the
first change that is rejected by itself.
-/

namespace CatalogGateway

namespace TableChange

/-- The name that a change gives to a table or a column. -/
@[simp]
def newName? : TableChange → Option String
  | renameTable newName | renameColumn _ newName => some newName
  | _ => none

@[simp]
def key? : TableChange → Option String
  | setProperty key _ | removeProperty key => some key
  | _ => none

@[simp]
def type? : TableChange → Option DataType
  | addColumn _ type _ _ _ | updateColumnType _ type => some type
  | _ => none

end TableChange

namespace Alteration

/-- Neither a table nor a column can have this name. -/
def Misnamed (name : String) : Prop :=
  name = "" ∨ '.' ∈ name.toList

/-- No column has this path. -/
def Astray (path : List String) : Prop :=
  path.length ≠ 1 ∨ ∃ name, path = [name] ∧ Misnamed name

/-- The reasons for which a change is rejected. -/
inductive Rejects (provider : Provider) (change : TableChange) : Prop where
  | path {path : List String} (follows : change.path? = some path) (astray : Astray path)
  | name {newName : String} (gives : change.newName? = some newName) (misnamed : Misnamed newName)
  | emptyKey (touches : change.key? = some "")
  /-- The property is part of the layout of the table. -/
  | reservedKey {key : String} (touches : change.key? = some key)
      (reserved : provider.tableConverter.storedKey key ∈ provider.layoutKeys)
  /-- The property is known, and the text stands for no value of its kind. -/
  | value {key text : String} {entry : PropertyEntry} (sets : change = .setProperty key text)
      (known : entry ∈ provider.tableEntries) (named : entry.genericKey = key)
      (unread : ∀ value, ¬ entry.kind.StandsFor text value)
  | type {type node : DataType} (gives : change.type? = some type) (part : node ∈ type.nodes)
      (unsupported : provider.mapping.lacks node = true)

variable {provider : Provider} {table : TableName} {kind : ChangeKind} {change : TableChange}

theorem not_rejects_iff : ¬ Rejects provider change ↔
    (∀ path, change.path? = some path → ¬ Astray path) ∧
    (∀ newName, change.newName? = some newName → ¬ Misnamed newName) ∧
    (∀ key, change.key? = some key →
      key ≠ "" ∧ provider.tableConverter.storedKey key ∉ provider.layoutKeys) ∧
    (∀ key text, change = .setProperty key text → ∀ entry ∈ provider.tableEntries,
      entry.genericKey = key → ∃ value, entry.kind.StandsFor text value) ∧
    ∀ type, change.type? = some type →
      ∀ node ∈ type.nodes, provider.mapping.lacks node = false := by
  constructor
  · intro accepted
    refine ⟨fun _ follows astray => accepted (.path follows astray),
      fun _ gives misnamed => accepted (.name gives misnamed), fun key touches => ⟨?_, ?_⟩,
      fun key text sets entry known named => ?_, fun type gives node part => ?_⟩
    · rintro rfl
      exact accepted (.emptyKey touches)
    · exact fun reserved => accepted (.reservedKey touches reserved)
    · by_contra unread
      exact accepted (.value sets known named (not_exists.mp unread))
    · by_contra supported
      exact accepted (.type gives part ((Bool.not_eq_false _).mp supported))
  · rintro ⟨paths, names, keys, values, types⟩ rejected
    cases rejected with
    | path follows astray => exact paths _ follows astray
    | name gives misnamed => exact names _ gives misnamed
    | emptyKey touches => exact (keys _ touches).1 rfl
    | reservedKey touches reserved => exact (keys _ touches).2 reserved
    | value sets known named unread =>
        obtain ⟨value, stands⟩ := values _ _ sets _ known named
        exact unread value stands
    | type gives part unsupported => exact Bool.eq_false_iff.mp (types _ gives _ part) unsupported

section Checks

theorem exists_checkName_iff {name : String} :
    (∃ checked, (checkName table kind name).mapError Fault.catalog = .ok checked) ↔
      ¬ Misnamed name := by
  rw [Outcome.exists_mapError_eq_ok_iff, checkName, Misnamed]
  split
  · simp_all
  · split <;> simp_all

theorem exists_columnOf_iff {path : List String} :
    (∃ column, (columnOf table kind path).mapError Fault.catalog = .ok column) ↔
      ¬ Astray path := by
  match path with
  | [] => simp [columnOf, Astray]
  | [name] =>
      rw [columnOf, exists_checkName_iff]
      simp [Astray]
  | first :: second :: rest =>
      have longer : Astray (first :: second :: rest) := .inl (by simp)
      simp only [Outcome.exists_mapError_eq_ok_iff, columnOf]
      split <;> simp [longer]

theorem exists_checkKey_iff {key : String} :
    (∃ checked, (checkKey table kind key).mapError Fault.catalog = .ok checked) ↔ key ≠ "" := by
  rw [Outcome.exists_mapError_eq_ok_iff, checkKey]
  split <;> simp_all

theorem exists_toEngine_iff {type : DataType} :
    (∃ stored, (provider.mapping.toEngine type).mapError Fault.type = .ok stored) ↔
      ∀ node ∈ type.nodes, provider.mapping.lacks node = false :=
  Outcome.exists_mapError_eq_ok_iff.trans TypeMapping.exists_toEngine_iff

theorem exists_buildColumn_iff {column : ColumnDefinition} :
    (∃ built, (provider.buildColumn column).mapError Fault.type = .ok built) ↔
      ∀ node ∈ column.type.nodes, provider.mapping.lacks node = false := by
  rw [Outcome.exists_mapError_eq_ok_iff, Provider.buildColumn, Outcome.exists_map_eq_ok_iff,
    TypeMapping.exists_toEngine_iff]

theorem exists_engineKey_iff {key : String} :
    (∃ stored, (provider.tableConverter.engineKey key).mapError Fault.catalog = .ok stored) ↔
      provider.tableConverter.storedKey key ∉ provider.layoutKeys := by
  rw [Outcome.exists_mapError_eq_ok_iff, PropertyConverter.exists_engineKey_iff,
    ← Provider.isReserved_iff, Bool.not_eq_true]

theorem exists_toEngineEntry_iff {key text : String} :
    (∃ entry, (provider.tableConverter.toEngineEntry key text).mapError Fault.catalog =
      .ok entry) ↔
      provider.tableConverter.storedKey key ∉ provider.layoutKeys ∧
        ∀ entry ∈ provider.tableEntries, entry.genericKey = key →
          ∃ value, entry.kind.StandsFor text value := by
  have coherent := Provider.coherent_tableConverter provider
  rw [Outcome.exists_mapError_eq_ok_iff,
    PropertyConverter.exists_toEngineEntry_iff_of_coherent coherent, ← Provider.isReserved_iff,
    Bool.not_eq_true]
  rfl

end Checks

theorem exists_planChange_iff :
    (∃ step, planChange provider table change = .ok step) ↔ ¬ Rejects provider change := by
  rw [not_rejects_iff]
  cases change with
  | renameTable newName =>
      rw [planChange, Outcome.exists_map_eq_ok_iff, exists_checkName_iff]
      simp [TableChange.path?]
  | addColumn path type comment position nullable =>
      -- Whether the column can be built does not depend on the name that its path gives it.
      have built (name : String) : (∃ step,
          ((provider.buildColumn ⟨name, type, comment, nullable, position⟩).mapError Fault.type
            >>= fun column => pure (Step.addColumn column (position.ordinal?.map UInt64.toNat))) =
            .ok step) ↔ ∀ node ∈ type.nodes, provider.mapping.lacks node = false :=
        Outcome.exists_map_eq_ok_iff.trans exists_buildColumn_iff
      rw [planChange, Outcome.exists_bind_eq_ok_iff built, exists_columnOf_iff]
      simp [TableChange.path?]
  | deleteColumn path ifExists =>
      rw [planChange, Outcome.exists_map_eq_ok_iff, exists_columnOf_iff]
      simp [TableChange.path?]
  | renameColumn path newName =>
      rw [planChange, Outcome.exists_both_eq_ok_iff, exists_columnOf_iff, exists_checkName_iff]
      simp [TableChange.path?]
  | updateColumnType path newType =>
      rw [planChange, Outcome.exists_both_eq_ok_iff, exists_columnOf_iff, exists_toEngine_iff]
      simp [TableChange.path?]
  | updateComment newComment =>
      simp [planChange, pure, Except.pure, TableChange.path?]
  | updateColumnComment path newComment =>
      rw [planChange, Outcome.exists_map_eq_ok_iff, exists_columnOf_iff]
      simp [TableChange.path?]
  | setProperty key value =>
      have entered : (∃ step,
          ((provider.tableConverter.toEngineEntry key value).mapError Fault.catalog >>=
            fun entry => pure (Step.setProperty entry.1 entry.2)) = .ok step) ↔ _ :=
        Outcome.exists_map_eq_ok_iff.trans exists_toEngineEntry_iff
      rw [planChange, Outcome.exists_bind_eq_ok_iff fun _ => entered, exists_checkKey_iff]
      simp [TableChange.path?, and_assoc]
  | removeProperty key =>
      rw [planChange, Outcome.exists_bind_eq_ok_iff fun _ => Outcome.exists_map_eq_ok_iff,
        exists_checkKey_iff, exists_engineKey_iff]
      simp [TableChange.path?]

theorem plan_singleton_eq_error_iff {fault : Fault} :
    plan provider table [change] = .error fault ↔
      planChange provider table change = .error fault := by
  rw [plan, List.mapM_cons]
  cases planChange provider table change <;> simp [bind, Except.bind, pure, Except.pure]

theorem exists_planChange_eq_error_iff :
    (∃ fault, planChange provider table change = .error fault) ↔ Rejects provider change := by
  rw [← not_iff_not, ← exists_planChange_iff]
  cases planChange provider table change <;> simp

/-- The first change that is rejected decides the fault of a request. -/
theorem exists_first_rejected {changes : List TableChange}
    (rejected : ∃ change ∈ changes, Rejects provider change) :
    ∃ first change rest fault, changes = first ++ change :: rest ∧
      (∀ earlier ∈ first, ¬ Rejects provider earlier) ∧ Rejects provider change ∧
      plan provider table [change] = .error fault ∧
      plan provider table changes = .error fault := by
  cases planned : plan provider table changes with
  | ok steps =>
      obtain ⟨change, member, rejects⟩ := rejected
      obtain ⟨step, _, accepted⟩ := Outcome.exists_result_of_mapM_eq_ok planned member
      exact absurd rejects (exists_planChange_iff.mp ⟨step, accepted⟩)
  | error fault =>
      obtain ⟨first, change, rest, split, earlier, failed⟩ :=
        Outcome.exists_first_of_mapM_eq_error planned
      exact ⟨first, change, rest, fault, split,
        fun other member => exists_planChange_iff.mp (earlier other member),
        exists_planChange_eq_error_iff.mp ⟨fault, failed⟩, plan_singleton_eq_error_iff.mpr failed,
        rfl⟩

end Alteration

theorem Bridge.alterTable_of_plan_eq_error {σ : Type} [MetadataStore σ] {bridge : Bridge}
    {store : σ} {name : QualifiedName} {parts : TableName} {changes : List TableChange}
    {fault : Fault} (named : bridge.tableName name = .ok parts)
    (failed : Alteration.plan bridge.adapter parts changes = .error fault) :
    bridge.alterTable (.ok store) name changes = .error fault := by
  have applied : Alteration.apply bridge.adapter store parts changes = (.error fault, store) := by
    rw [Alteration.apply, failed]
  rw [alterTable, named]
  change ((Alteration.apply bridge.adapter store parts changes).1 >>= _) = _
  rw [applied]
  rfl

namespace Binding

/-- A change is rejected for what it says itself, and of a request with such changes the first one
decides: the alteration fails with the fault of this change alone, whatever the store holds and
whatever the other changes are, and leaves the store as it was. -/
theorem serve_alterTable_first_rejected {bridge : Bridge} {name : QualifiedName}
    {parts : TableName} (named : bridge.tableName name = .ok parts) :
    (∀ change, (∃ fault, Alteration.plan bridge.adapter parts [change] = .error fault) ↔
      Alteration.Rejects bridge.adapter change) ∧
    ∀ changes, (∃ change ∈ changes, Alteration.Rejects bridge.adapter change) →
      ∃ first change rest fault, changes = first ++ change :: rest ∧
        (∀ earlier ∈ first, ¬ Alteration.Rejects bridge.adapter earlier) ∧
        Alteration.Rejects bridge.adapter change ∧
        Alteration.plan bridge.adapter parts [change] = .error fault ∧
        ∀ (connector : Connector) (disk : Disk), connector.shutdowns = 0 →
          (⟨bridge, connector⟩ : Binding).serve disk (.alterTable name changes) =
            (.error fault, ⟨bridge, connector⟩, disk) := by
  constructor
  · intro change
    simp only [Alteration.plan_singleton_eq_error_iff]
    exact Alteration.exists_planChange_eq_error_iff
  · intro changes rejected
    obtain ⟨first, change, rest, fault, split, accepted, rejects, alone, failed⟩ :=
      Alteration.exists_first_rejected rejected
    refine ⟨first, change, rest, fault, split, accepted, rejects, alone,
      fun connector disk isOpen => ?_⟩
    rw [Binding.serve, Connector.begin_of_inUse isOpen, Bridge.serve,
      Bridge.alterTable_of_plan_eq_error named failed]
    rfl

/-- A request whose third change sets a property of the layout.  The second one could not be
carried out on any table without the column, and the last one is rejected too. -/
def layoutRequest : List TableChange :=
  [.renameTable "u", .deleteColumn ["missing"] false, .setProperty "partitioned_by" "x",
    .renameTable ""]

/-- The answer does not depend on whether there is such a table. -/
theorem serve_layoutRequest :
    withTable.bridge.tableName (.ofTable "m" "c" "s" "t") = .ok ⟨"m", "c", "s", "t"⟩ ∧
      (withTable.serve {} (.alterTable (.ofTable "m" "c" "s" "t") layoutRequest)).1 =
        .error (.catalog (.invalidArgument "partitioned_by"
          "the property is derived from the table layout and cannot be set directly")) ∧
      ((⟨withTable.bridge, .inMemory "c" none⟩ : Binding).serve {}
          (.alterTable (.ofTable "m" "c" "s" "t") layoutRequest)).1 =
        (withTable.serve {} (.alterTable (.ofTable "m" "c" "s" "t") layoutRequest)).1 := by
  have named : withTable.bridge.tableName (.ofTable "m" "c" "s" "t") =
      .ok ⟨"m", "c", "s", "t"⟩ := rfl
  obtain ⟨alone, first⟩ := serve_alterTable_first_rejected named
  have rejected : ∃ change ∈ layoutRequest, Alteration.Rejects withTable.bridge.adapter change :=
    ⟨.setProperty "partitioned_by" "x", by simp [layoutRequest], (alone _).mp ⟨_, rfl⟩⟩
  obtain ⟨_, _, _, fault, _, _, _, _, answers⟩ := first layoutRequest rejected
  have present := answers withTable.connector {} rfl
  have absent := answers (.inMemory "c" none) {} rfl
  refine ⟨named, rfl, ?_⟩
  rw [absent]
  exact (congrArg Prod.fst present).symm

end Binding

end CatalogGateway
