import CatalogGateway.Catalog.Routing
import CatalogGateway.Proofs.Alteration.Simulation

/-!
# Simulation of routed operations

The operations of a bridge use a store through its calls and through alterations.  So if
stores simulate others, whatever a bridge achieves on a store it achieves alike on each store
that the first is related to.
-/

namespace CatalogGateway

variable {σ τ : Type} [MetadataStore σ] [MetadataStore τ] {relation : σ → τ → Prop}
  {store : σ} {other : τ}

open MetadataStore Outcome

namespace Bridge

/-- Equal results, with related stores beside them. -/
def Beside {α : Type} (relation : σ → τ → Prop) (first : α × σ) (second : α × τ) : Prop :=
  first.1 = second.1 ∧ relation first.2 second.2

section Operations

variable (simulation : Simulation relation) (related : relation store other) (bridge : Bridge)

omit [MetadataStore σ] [MetadataStore τ] in
theorem after_refines {α : Type} {outcome : Except StoreFault α × σ}
    {otherOutcome : Except StoreFault α × τ} (repeats : Repeats relation outcome otherOutcome) :
    Refines (Beside relation) (after outcome) (after otherOutcome) :=
  repeats.mapError.refines

include simulation related

theorem requireSchema_eq (schema shown : String) :
    requireSchema store schema shown = requireSchema other schema shown := by
  rw [requireSchema, requireSchema, simulation.hasSchema related]

theorem readTable_refines (shown : String) (name : SchemaTable) :
    Refines Eq (bridge.readTable store shown name) (bridge.readTable other shown name) := by
  rw [readTable, readTable, simulation.tableHandle? related]
  split
  · exact Refines.error
  · rename_i handle _
    have reads := simulation.answer related (.tableMetadata handle) StoreReply.metadata.inj
      rfl rfl
    exact reads.mapError.bind_eq fun _ => Refines.refl _

theorem listSchemas_refines (catalog : QualifiedName) :
    Refines Eq (bridge.listSchemas (.ok store) catalog)
      (bridge.listSchemas (.ok other) catalog) := by
  refine Refines.after fun _ => (Refines.ok related).bind fun store other related => ?_
  rw [simulation.schemaNames related]
  exact Refines.refl _

theorem createSchema_refines (name : QualifiedName) (comment : Option String)
    (properties : Properties) :
    Refines (Beside relation) (bridge.createSchema (.ok store) name comment properties)
      (bridge.createSchema (.ok other) name comment properties) := by
  refine Refines.after fun parts => Refines.after fun stored =>
    (Refines.ok related).bind fun store other related => ?_
  rw [simulation.hasSchema related]
  split
  · exact Refines.error
  · have creates := after_refines
      (simulation.acknowledge related (.createSchema parts.schema stored) rfl rfl)
    exact creates.bind fun _ _ beside => Refines.ok ⟨rfl, beside.2⟩

theorem loadSchema_refines (name : QualifiedName) :
    Refines Eq (bridge.loadSchema (.ok store) name) (bridge.loadSchema (.ok other) name) := by
  refine Refines.after fun parts => (Refines.ok related).bind fun store other related => ?_
  rw [requireSchema_eq simulation related]
  refine Refines.after fun _ => ?_
  have reads := simulation.answer related (.schemaProperties parts.schema)
    StoreReply.properties.inj rfl rfl
  exact reads.mapError.bind_eq fun _ => Refines.refl _

theorem schemaExists_refines (name : QualifiedName) :
    Refines Eq (bridge.schemaExists (.ok store) name) (bridge.schemaExists (.ok other) name) := by
  refine Refines.after fun parts => (Refines.ok related).bind fun store other related => ?_
  rw [simulation.hasSchema related]
  exact Refines.refl _

theorem dropSchema_refines (name : QualifiedName) (cascade : Bool) :
    Refines (Beside relation) (bridge.dropSchema (.ok store) name cascade)
      (bridge.dropSchema (.ok other) name cascade) := by
  refine Refines.after fun parts => (Refines.ok related).bind fun store other related => ?_
  rw [simulation.hasSchema related]
  split
  · have drops := after_refines
      (simulation.acknowledge related (.dropSchema parts.schema cascade) rfl rfl)
    exact drops.bind fun _ _ beside => Refines.ok ⟨rfl, beside.2⟩
  · exact Refines.ok ⟨rfl, related⟩

theorem listTables_refines (schema : QualifiedName) :
    Refines Eq (bridge.listTables (.ok store) schema) (bridge.listTables (.ok other) schema) := by
  refine Refines.after fun parts => (Refines.ok related).bind fun store other related => ?_
  rw [requireSchema_eq simulation related]
  refine Refines.after fun _ => ?_
  have reads := simulation.answer related (.tableNames (some parts.schema))
    StoreReply.tables.inj rfl rfl
  exact reads.mapError.bind_eq fun _ => Refines.refl _

theorem loadTable_refines (name : QualifiedName) :
    Refines Eq (bridge.loadTable (.ok store) name) (bridge.loadTable (.ok other) name) :=
  Refines.after fun _ => (Refines.ok related).bind fun _ _ related =>
    readTable_refines simulation related bridge _ _

theorem tableExists_refines (name : QualifiedName) :
    Refines Eq (bridge.tableExists (.ok store) name) (bridge.tableExists (.ok other) name) := by
  refine Refines.after fun parts => (Refines.ok related).bind fun store other related => ?_
  rw [simulation.tableHandle? related]
  exact Refines.refl _

theorem createTable_refines (name : QualifiedName) (table : TableDefinition)
    (policy : LayoutPolicy) :
    Refines (Beside relation) (bridge.createTable (.ok store) name table policy)
      (bridge.createTable (.ok other) name table policy) := by
  refine Refines.after fun parts => Refines.after fun stored =>
    (Refines.ok related).bind fun store other related => ?_
  rw [requireSchema_eq simulation related, simulation.tableHandle? related]
  refine Refines.after fun _ => ?_
  split
  · exact Refines.error
  · have creates := after_refines (simulation.createTable related parts.schema stored)
    refine creates.bind fun first second beside => ?_
    have reads := readTable_refines simulation beside.2 bridge name.display parts.schemaTable
    exact reads.bind_eq fun _ => Refines.ok ⟨rfl, beside.2⟩

theorem alterTable_refines (name : QualifiedName) (changes : List TableChange) :
    Refines (Beside relation) (bridge.alterTable (.ok store) name changes)
      (bridge.alterTable (.ok other) name changes) := by
  refine Refines.after fun parts => (Refines.ok related).bind fun store other related => ?_
  have applies := Alteration.apply_repeats simulation related bridge.adapter parts changes
  refine applies.result.bind ?_
  rintro renamed _ ⟨rfl, altered⟩
  have reads := readTable_refines simulation altered bridge (QualifiedName.ofTable
    parts.metalake parts.catalog renamed.schema renamed.table).display renamed
  exact reads.bind_eq fun _ => Refines.ok ⟨rfl, altered⟩

theorem dropTable_refines (name : QualifiedName) :
    Refines (Beside relation) (bridge.dropTable (.ok store) name)
      (bridge.dropTable (.ok other) name) := by
  refine Refines.after fun parts => (Refines.ok related).bind fun store other related => ?_
  rw [simulation.tableHandle? related]
  split
  · exact Refines.ok ⟨rfl, related⟩
  · rename_i handle _
    have drops := after_refines (simulation.acknowledge related (.dropTable handle) rfl rfl)
    exact drops.bind fun _ _ beside => Refines.ok ⟨rfl, beside.2⟩

omit simulation related [MetadataStore σ] [MetadataStore τ] in
theorem asked_refines {α : Type} {encode : α → CatalogReply} {outcome otherOutcome : Except Fault α}
    (refines : Refines Eq outcome otherOutcome) :
    Refines (fun first second => first.1 = second.1 ∧ Option.Rel relation first.2 second.2)
      (asked encode outcome) (asked encode otherOutcome) := by
  refine refines.map ?_
  rintro value _ rfl
  exact ⟨rfl, .none⟩

omit simulation related [MetadataStore σ] [MetadataStore τ] in
theorem changed_refines {α : Type} {encode : α → CatalogReply} {outcome : Except Fault (α × σ)}
    {otherOutcome : Except Fault (α × τ)}
    (refines : Refines (Beside relation) outcome otherOutcome) :
    Refines (fun first second => first.1 = second.1 ∧ Option.Rel relation first.2 second.2)
      (changed encode outcome) (changed encode otherOutcome) := by
  refine refines.map ?_
  rintro ⟨value, after⟩ ⟨_, otherAfter⟩ ⟨rfl, results⟩
  exact ⟨rfl, .some results⟩

/-- An operation that succeeds on a store gives the same answer on a related one, and the
copies to commit, if any, are related. -/
theorem serve_refines (request : CatalogRequest) :
    Refines (fun first second => first.1 = second.1 ∧ Option.Rel relation first.2 second.2)
      (bridge.serve (.ok store) request) (bridge.serve (.ok other) request) := by
  cases request with
  | listSchemas catalog =>
      exact asked_refines (listSchemas_refines simulation related bridge catalog)
  | createSchema name comment properties =>
      exact changed_refines
        (createSchema_refines simulation related bridge name comment properties)
  | loadSchema name => exact asked_refines (loadSchema_refines simulation related bridge name)
  | schemaExists name =>
      exact asked_refines (schemaExists_refines simulation related bridge name)
  | dropSchema name cascade =>
      exact changed_refines (dropSchema_refines simulation related bridge name cascade)
  | listTables schema =>
      exact asked_refines (listTables_refines simulation related bridge schema)
  | loadTable name => exact asked_refines (loadTable_refines simulation related bridge name)
  | tableExists name =>
      exact asked_refines (tableExists_refines simulation related bridge name)
  | createTable name table policy =>
      exact changed_refines (createTable_refines simulation related bridge name table _)
  | alterTable name changes =>
      exact changed_refines (alterTable_refines simulation related bridge name changes)
  | dropTable name => exact changed_refines (dropTable_refines simulation related bridge name)
  | purgeTable name => exact asked_refines (Refines.refl _)

end Operations

end Bridge

end CatalogGateway
