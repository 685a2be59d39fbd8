import CatalogGateway.Proofs.Lifecycle.Consistency

/-!
# Resolution after a pass

A desired catalog that is not reported as failed can be resolved after the pass, to a bridge with
its provider and its properties.  It is a bridge of that very catalog unless the pass kept one of
another catalog with the same key: two catalogs are told apart neither by their keys nor by the
comparison of their definitions.
-/

namespace CatalogGateway

/-- A bridge takes all names of a catalog and below. -/
def Bridge.Accepts (bridge : Bridge) (catalog : CatalogDefinition) : Prop :=
  ∀ (name : QualifiedName) (kind : EntityKind), name.require kind = .ok () →
    name.metalake = catalog.metalake → name.catalog? = some catalog.name →
    bridge.checkName name kind = .ok ()

/-- A bridge lies in the place of a catalog. -/
def Bridge.LiesAt (bridge : Bridge) (catalog : CatalogDefinition) : Prop :=
  bridge.catalog.metalake = catalog.metalake ∧ bridge.catalog.name = catalog.name

theorem Bridge.accepts_iff {bridge : Bridge} {catalog : CatalogDefinition} :
    bridge.Accepts catalog ↔ bridge.LiesAt catalog := by
  constructor
  · intro accepts
    have checked : bridge.checkName catalog.qualifiedName .catalog = .ok () :=
      accepts _ _ rfl rfl rfl
    obtain ⟨_, _, inside⟩ := Outcome.bind_eq_ok_iff.mp checked
    obtain ⟨⟨metalake, name⟩, _⟩ := Outcome.ite_error_eq_ok_iff.mp inside
    exact ⟨metalake.symm, (Option.some.inj name).symm⟩
  · rintro ⟨metalake, catalogName⟩ name kind kinded named cataloged
    refine Outcome.bind_eq_ok_iff.mpr ⟨(), Outcome.mapError_eq_ok_iff.mpr kinded, ?_⟩
    exact Outcome.ite_error_eq_ok_iff.mpr
      ⟨⟨named.trans metalake.symm, catalogName ▸ cataloged⟩, rfl⟩

namespace Manager

open Attempt

variable {manager : Manager} {catalogs : List CatalogDefinition} {catalog : CatalogDefinition}

/-- What is published under the key of a catalog agrees with it in all that is compared, but lies
in another place. -/
def Mistakes (manager : Manager) (catalog : CatalogDefinition) : Prop :=
  ∃ bridge, manager.ledger.registry.get? (manager.config.naming.keyOf catalog) = some bridge ∧
    bridge.catalog.sameDefinition catalog = true ∧ ¬ bridge.LiesAt catalog

theorem resolve_eq (manager : Manager) (catalog : CatalogDefinition) :
    manager.resolve catalog.qualifiedName =
      manager.ledger.resolve (manager.config.naming.keyOf catalog) :=
  rfl

/-- A relational catalog that is not reported as failed is the first one with its key. -/
theorem desired_of_notFailed (given : catalog ∈ catalogs)
    (relational : catalog.catalogType = .relational)
    (notFailed : manager.config.naming.keyOf catalog ∉
      (manager.reconcileWith catalogs).1.failed.map Prod.fst) :
    (manager.desired { catalogs }).get? (manager.config.naming.keyOf catalog) = some catalog := by
  refine desired_eq_some_iff.mpr
    (CatalogNaming.first?_eq_some_of_notMem_laterKeys given relational fun later => notFailed ?_)
  refine List.mem_map.mpr ⟨Ledger.duplicate _, (failed_perm manager _).mem_iff.mpr ?_, rfl⟩
  exact List.mem_append_right _ (List.mem_map_of_mem later)

/-- A relational catalog that is not reported as failed resolves to a bridge with its provider
and its properties, which takes the names of the catalog unless the manager mistakes what was
published before for the catalog. -/
theorem resolve_reconcileWith (given : catalog ∈ catalogs)
    (relational : catalog.catalogType = .relational)
    (notFailed : manager.config.naming.keyOf catalog ∉
      (manager.reconcileWith catalogs).1.failed.map Prod.fst) :
    ∃ bridge,
      (manager.reconcileWith catalogs).2.resolve catalog.qualifiedName = .ok bridge ∧
      bridge.catalog.provider = catalog.provider ∧
      bridge.catalog.properties = catalog.properties ∧
      (bridge.LiesAt catalog ↔ ¬ manager.Mistakes catalog) ∧
      (bridge.Accepts catalog ↔ ¬ manager.Mistakes catalog) := by
  have wanted := desired_of_notFailed given relational notFailed
  suffices resolved : ∃ bridge,
      (manager.reconcileWith catalogs).2.ledger.registry.get?
        (manager.config.naming.keyOf catalog) = some bridge ∧
      bridge.catalog.sameDefinition catalog = true ∧
      (bridge.LiesAt catalog ↔ ¬ manager.Mistakes catalog) by
    obtain ⟨bridge, published, same, lies⟩ := resolved
    obtain ⟨⟨provider, _⟩, properties⟩ : (bridge.catalog.provider = catalog.provider ∧
        bridge.catalog.catalogType = catalog.catalogType) ∧
        bridge.catalog.properties = catalog.properties := by
      simpa [CatalogDefinition.sameDefinition] using same
    refine ⟨bridge, ?_, provider, properties, lies, Bridge.accepts_iff.trans lies⟩
    rw [resolve_eq, reconcileWith, config_reconcileSurvey, Ledger.resolve]
    rw [reconcileWith] at published
    rw [published]
  by_cases serves :
      manager.ledger.serves (manager.config.naming.keyOf catalog) catalog = true
  · -- What was published is kept, be it of this catalog or of another one.
    obtain ⟨bridge, published, same⟩ := serves_iff.mp serves
    refine ⟨bridge, get?_reconcileSurvey_of_serves published wanted same, same, ?_⟩
    constructor
    · rintro lies ⟨other, otherPublished, _, elsewhere⟩
      cases published.symm.trans otherPublished
      exact elsewhere lies
    · exact fun notMistaken =>
        by_contra fun elsewhere => notMistaken ⟨bridge, published, same, elsewhere⟩
  · obtain ⟨build, outcome, attempted, keyed⟩ :=
      exists_attempt wanted (Bool.eq_false_iff.mpr serves)
    cases outcome with
    | error fault =>
        refine absurd (List.mem_map.mpr ⟨(build.key, fault),
          (failed_perm manager _).mem_iff.mpr ?_, keyed⟩) notFailed
        refine List.mem_append_left _ (List.mem_append_right _ ?_)
        exact List.mem_map.mpr ⟨(build, fault), mem_failures_iff.mpr attempted, rfl⟩
    | ok binding =>
        have wantedToo := (warranted attempted).wanted
        rw [keyed] at wantedToo
        cases wanted.symm.trans wantedToo
        have isBuilt := ((warranted attempted).yields binding rfl).1
        have notMistaken : ¬ manager.Mistakes build.catalog := by
          rintro ⟨other, otherPublished, same, _⟩
          exact serves (serves_iff.mpr ⟨other, otherPublished, same⟩)
        refine ⟨binding.bridge, keyed ▸ get?_reconcileSurvey_of_built attempted, ?_, ?_⟩
        · simp [CatalogDefinition.sameDefinition, isBuilt]
        · exact iff_of_true ⟨congrArg _ isBuilt, congrArg _ isBuilt⟩ notMistaken

/-- A manager that bridges a catalog in memory under its simple name. -/
def withLake : Manager :=
  (({ config := { naming := .simple } } : Manager).reconcileWith [memoryCatalog "lake" "a"]).2

/-- When the catalog gives way to one of the same name in another metalake, this one is not
reported as failed, but what it resolves to refuses its names. -/
theorem resolve_otherMetalake :
    "a" ∉ (withLake.reconcileWith [memoryCatalog "other" "a"]).1.failed.map Prod.fst ∧
    ∃ bridge,
      (withLake.reconcileWith [memoryCatalog "other" "a"]).2.resolve
        (.ofCatalog "other" "a") = .ok bridge ∧
      bridge.catalog.provider = "memory" ∧ ¬ bridge.LiesAt (memoryCatalog "other" "a") ∧
      ¬ bridge.Accepts (memoryCatalog "other" "a") := by
  have notFailed :
      "a" ∉ (withLake.reconcileWith [memoryCatalog "other" "a"]).1.failed.map Prod.fst := by
    intro failed
    have nothing := ((failed_perm withLake { catalogs := [memoryCatalog "other" "a"] }).map
      Prod.fst).mem_iff.mp failed
    cases nothing
  have mistaken : withLake.Mistakes (memoryCatalog "other" "a") :=
    ⟨_, rfl, rfl, fun lies => absurd lies.1 (by decide)⟩
  obtain ⟨bridge, resolved, provider, _, lies, accepts⟩ :=
    resolve_reconcileWith (List.mem_singleton_self _) rfl notFailed
  exact ⟨notFailed, bridge, resolved, provider, fun holds => lies.mp holds mistaken,
    fun holds => accepts.mp holds mistaken⟩

end Manager

end CatalogGateway
