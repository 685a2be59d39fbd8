import CatalogGateway.Proofs.Lifecycle.Consistency
import CatalogGateway.Proofs.Lifecycle.Steadiness

/-!
# Orders of a pass

A pass is given its catalogs in some order, and may carry out its constructions in another one.
Neither order shows in what the pass reports and leaves: the catalogs are put under their keys
before any of them is numbered, and the report is sorted.
-/

namespace CatalogGateway

namespace CatalogNaming

variable {naming : CatalogNaming} {catalogs others : List CatalogDefinition} {key : String}

theorem relationalKeys_perm (perm : catalogs.Perm others) :
    (naming.relationalKeys catalogs).Perm (naming.relationalKeys others) :=
  (perm.filter _).map _

theorem repeatedKeys_eq_nil {seen keys : List String} (distinct : keys.Nodup)
    (fresh : ∀ key ∈ keys, key ∉ seen) : repeatedKeys seen keys = [] := by
  induction keys generalizing seen with
  | nil => rfl
  | cons key rest ih =>
      obtain ⟨notInRest, distinct⟩ := List.nodup_cons.mp distinct
      rw [repeatedKeys, if_neg (fresh key List.mem_cons_self)]
      refine ih distinct fun other member isSeen => ?_
      rcases List.mem_cons.mp isSeen with rfl | isSeen
      · exact notInRest member
      · exact fresh other (List.mem_cons_of_mem _ member) isSeen

theorem laterKeys_eq_nil (distinct : (naming.relationalKeys catalogs).Nodup) :
    naming.laterKeys catalogs = [] :=
  repeatedKeys_eq_nil distinct fun _ _ => List.not_mem_nil

/-- When no two relational catalogs have the same key, the one with a key is the first one. -/
theorem first?_eq_some_iff (distinct : (naming.relationalKeys catalogs).Nodup)
    {catalog : CatalogDefinition} : naming.first? catalogs key = some catalog ↔
      catalog ∈ catalogs ∧ catalog.catalogType = .relational ∧ naming.keyOf catalog = key := by
  refine ⟨of_first?_eq_some, ?_⟩
  rintro ⟨member, relational, rfl⟩
  exact first?_eq_some_of_notMem_laterKeys member relational (by simp [laterKeys_eq_nil distinct])

theorem first?_eq_of_perm (perm : catalogs.Perm others)
    (distinct : (naming.relationalKeys catalogs).Nodup) (key : String) :
    naming.first? catalogs key = naming.first? others key := by
  apply Option.ext
  intro catalog
  rw [first?_eq_some_iff distinct,
    first?_eq_some_iff ((relationalKeys_perm perm).nodup_iff.mp distinct), perm.mem_iff]

end CatalogNaming

namespace Ledger

variable {naming : CatalogNaming} {catalogs others : List CatalogDefinition}

theorem select_eq_of_perm (perm : catalogs.Perm others)
    (distinct : (naming.relationalKeys catalogs).Nodup) :
    select naming catalogs .empty = select naming others .empty := by
  have otherDistinct := (CatalogNaming.relationalKeys_perm perm).nodup_iff.mp distinct
  refine Prod.ext (Dictionary.ext_get? fun key => ?_) ?_
  · rw [get?_desired, get?_desired, CatalogNaming.first?_eq_of_perm perm distinct]
  · rw [select_faults, select_faults, CatalogNaming.laterKeys_eq_nil distinct,
      CatalogNaming.laterKeys_eq_nil otherDistinct]

/-- Two results of a pass are the same but for the connectors that were built. -/
structure Alike (first second : PassResult) : Prop where
  ledger : first.ledger = second.ledger
  report : first.report = second.report

theorem alike_settle {first second : PassResult} (alike : Alike first second) (build : Build)
    {outcome other : Except Fault Binding}
    (same : outcome.map Binding.bridge = other.map Binding.bridge) :
    Alike (settle first build outcome) (settle second build other) := by
  obtain ⟨firstLedger, firstReport, _⟩ := first
  obtain ⟨secondLedger, secondReport, _⟩ := second
  obtain ⟨rfl, rfl⟩ := alike
  cases outcome with
  | error fault =>
      have failed := Outcome.map_eq_error_iff.mp same.symm
      rw [failed]
      exact ⟨rfl, rfl⟩
  | ok binding =>
      obtain ⟨otherBinding, rfl, bridge⟩ := Outcome.map_eq_ok_iff.mp same.symm
      exact ⟨by simp only [settle, bridge], rfl⟩

theorem alike_foldl_settle (builds : List Build) {outcomes others : List (Except Fault Binding)}
    (same : outcomes.map (·.map Binding.bridge) = others.map (·.map Binding.bridge))
    {first second : PassResult} (alike : Alike first second) :
    Alike ((builds.zip outcomes).foldl (fun result (build, outcome) => settle result build outcome)
        first)
      ((builds.zip others).foldl (fun result (build, outcome) => settle result build outcome)
        second) := by
  induction builds generalizing outcomes others first second with
  | nil => exact alike
  | cons build rest ih =>
      cases outcomes with
      | nil =>
          rw [List.map_nil, eq_comm, List.map_eq_nil_iff] at same
          rw [same]
          exact alike
      | cons outcome outcomes =>
          obtain ⟨other, others, rfl, sameHead, sameRest⟩ := List.map_eq_cons_iff.mp same.symm
          exact ih sameRest.symm (alike_settle alike build sameHead.symm)

theorem alike_endPass (ledger : Ledger) (opened : OpenPass)
    {outcomes others : List (Except Fault Binding)}
    (same : outcomes.map (·.map Binding.bridge) = others.map (·.map Binding.bridge)) :
    Alike (ledger.endPass opened outcomes) (ledger.endPass opened others) := by
  have settled := alike_foldl_settle opened.builds same
    (⟨rfl, rfl⟩ : Alike { ledger, report := opened.report, built := [] } _)
  constructor
  · simp only [endPass, settled.ledger]
  · simp only [endPass, settled.ledger, settled.report]

end Ledger

namespace Manager

variable {manager : Manager} {catalogs others : List CatalogDefinition}
  {report : ReconcileReport} {ledger : Ledger}

/-- These are the outcomes of constructions that were carried out in some order. -/
def CarriesOut (manager : Manager) (disk : Disk) (builds : List Build)
    (outcomes : List (Except Fault Binding)) : Prop :=
  outcomes.length = builds.length ∧
    ∃ order : List Build, (builds.zip outcomes).Perm (order.zip (manager.constructAll disk order).1)

/-- A pass that is given a list of catalogs may report this and leave this ledger, as the
constructions may be carried out in any order. -/
def MayEnd (manager : Manager) (catalogs : List CatalogDefinition) (report : ReconcileReport)
    (ledger : Ledger) : Prop :=
  let begun := manager.beginPass { catalogs }
  ∃ opened outcomes, begun.underWay = some opened ∧
    begun.CarriesOut begun.disk opened.builds outcomes ∧
    (begun.ledger.endPass opened outcomes).report = report ∧
    (begun.ledger.endPass opened outcomes).ledger = ledger

theorem length_constructAll (builds : List Build) (disk : Disk) :
    (manager.constructAll disk builds).1.length = builds.length :=
  (yields_constructAll builds).length_eq.symm

theorem mayEnd_reconcileWith (manager : Manager) (catalogs : List CatalogDefinition) :
    manager.MayEnd catalogs (manager.reconcileWith catalogs).1
      (manager.reconcileWith catalogs).2.ledger := by
  let begun := manager.beginPass { catalogs }
  let opened := (manager.ledger.beginPass manager.config.naming { catalogs }).1
  have left := congrArg PassResult.ledger (Ledger.endPass_eq begun.ledger opened
    (begun.constructAll begun.disk opened.builds).1)
  exact ⟨opened, (begun.constructAll begun.disk opened.builds).1, rfl,
    ⟨length_constructAll _ _, opened.builds, .refl _⟩, rfl,
    left.trans (ledger_reconcileSurvey manager { catalogs }).symm⟩

theorem beginPass_eq_of_perm (perm : catalogs.Perm others)
    (distinct : (manager.config.naming.relationalKeys catalogs).Nodup) :
    manager.beginPass { catalogs } = manager.beginPass { catalogs := others } := by
  simp only [beginPass, Ledger.beginPass, Ledger.select_eq_of_perm perm distinct]

theorem CarriesOut.bridges {builds : List Build} {disk : Disk}
    {outcomes : List (Except Fault Binding)} (carriedOut : manager.CarriesOut disk builds outcomes)
    (steady : ∀ build ∈ builds, manager.providers.Steady build.catalog) :
    outcomes.map (·.map Binding.bridge) = builds.map manager.expected := by
  obtain ⟨sameLength, order, perm⟩ := carriedOut
  -- Each construction had some disk, but it is not known which.
  have pairs : List.Forall₂ (fun build outcome => outcome.map Binding.bridge =
      manager.expected build) builds outcomes := by
    refine List.forall₂_iff_zip.mpr ⟨sameLength.symm, fun {build outcome} paired => ?_⟩
    obtain ⟨other, rfl⟩ := exists_construct_eq (perm.mem_iff.mp paired)
    exact bridge_construct (steady build (List.of_mem_zip paired).1) other
  exact List.forall₂_eq_eq_eq ▸
    List.forall₂_map_left_iff.mpr (List.forall₂_map_right_iff.mpr pairs.flip)

/-- The order of steady constructions does not show in what a pass reports and leaves. -/
theorem MayEnd.unique {otherReport : ReconcileReport} {otherLedger : Ledger}
    (steady : manager.SteadyFor { catalogs }) (ends : manager.MayEnd catalogs report ledger)
    (otherEnds : manager.MayEnd catalogs otherReport otherLedger) :
    report = otherReport ∧ ledger = otherLedger := by
  obtain ⟨opened, outcomes, begun, carriedOut, rfl, rfl⟩ := ends
  obtain ⟨other, otherOutcomes, otherBegun, otherCarriedOut, rfl, rfl⟩ := otherEnds
  obtain rfl : opened = other := Option.some.inj (begun.symm.trans otherBegun)
  have allSteady : ∀ build ∈ opened.builds, manager.providers.Steady build.catalog := by
    cases begun
    intro build called
    exact steady.of_desired (Dictionary.get?_eq_some_iff.mpr (Ledger.mem_buildsFor called).1)
  have alike := Ledger.alike_endPass (manager.beginPass { catalogs }).ledger opened
    ((carriedOut.bridges allSteady).trans (otherCarriedOut.bridges allSteady).symm)
  exact ⟨alike.report, alike.ledger⟩

/-- Neither the order in which a pass is given catalogs with different keys shows in what it
reports and leaves, nor, if their factories are steady, the order of the constructions. -/
theorem reconcileWith_of_perm (perm : catalogs.Perm others)
    (distinct : (manager.config.naming.relationalKeys catalogs).Nodup) :
    manager.reconcileWith others = manager.reconcileWith catalogs ∧
      (manager.SteadyFor { catalogs } → ∀ report ledger, manager.MayEnd others report ledger →
        report = (manager.reconcileWith catalogs).1 ∧
          ledger = (manager.reconcileWith catalogs).2.ledger) := by
  have begun := beginPass_eq_of_perm perm distinct
  constructor
  · rw [reconcileWith, reconcileWith, reconcileSurvey, reconcileSurvey, begun]
  · intro steady report ledger ends
    have ends : manager.MayEnd catalogs report ledger := by
      rw [MayEnd, begun]
      exact ends
    exact ends.unique steady (mayEnd_reconcileWith manager catalogs)

/-- A catalog that fails to be reloaded, one that stays as it is, a new one, and one that is of
another kind and has the key of the new one. -/
def mixedCatalogs : List CatalogDefinition := [
  { memoryCatalog "lake" "a" with
    properties := Dictionary.empty.insert ConnectorFactory.maxTablesKey "-1" },
  memoryCatalog "lake" "b", memoryCatalog "lake" "c",
  { memoryCatalog "lake" "c" with catalogType := .messaging }]

theorem reconcileWith_mixedCatalogs :
    afterFirst.reconcileWith mixedCatalogs.reverse = afterFirst.reconcileWith mixedCatalogs ∧
      ∀ report ledger, afterFirst.MayEnd mixedCatalogs.reverse report ledger →
        ledger.registry.get? "lake.c" = some {
          catalog := memoryCatalog "lake" "c", generation := 4, adapter := .memory
          policy := afterFirst.config.layoutPolicy } := by
  have distinct : (afterFirst.config.naming.relationalKeys mixedCatalogs).Nodup := by
    rw [config_afterFirst]
    decide
  have steady : afterFirst.SteadyFor { catalogs := mixedCatalogs } :=
    .of_memory providers_afterFirst (by decide)
  obtain ⟨same, ends⟩ := reconcileWith_of_perm mixedCatalogs.reverse_perm.symm distinct
  refine ⟨same, fun report ledger mayEnd => ?_⟩
  rw [(ends steady report ledger mayEnd).2]
  rfl

end Manager

end CatalogGateway
