import CatalogGateway.Proofs.Lifecycle.Consistency
import CatalogGateway.Proofs.Lifecycle.Steadiness

/-!
# Repeated passes

A pass that is repeated at once finds nothing to do.  What was built is served now, so that it is
not called for again, and what failed is tried again and fails for the same reason, which leaves
everything as it is.
-/

namespace CatalogGateway

namespace Attempt

/-- The reason why the construction of a catalog fails, if it does, under a key. -/
def faultOf (key : String) : Except Fault Provider → Option (String × Fault)
  | .ok _ => none
  | .error fault => some (key, fault)

theorem faults_eq_filterMap (attempts : List Attempt) :
    faults attempts = attempts.filterMap fun attempt =>
      faultOf attempt.1.key (attempt.2.map fun binding => binding.bridge.adapter) := by
  induction attempts with
  | nil => rfl
  | cons attempt rest ih =>
      obtain ⟨build, fault | binding⟩ := attempt
      · exact congrArg _ ih
      · exact ih

end Attempt

namespace Manager

open Attempt

variable {manager other : Manager} {survey : Survey} {catalog : CatalogDefinition} {key : String}
  {build : Build} {outcome : Except Fault Binding}

theorem desired_reconcileSurvey (manager : Manager) (survey : Survey) :
    (manager.reconcileSurvey survey).2.desired survey = manager.desired survey := by
  rw [desired, desired, config_reconcileSurvey]

theorem map_adapter_of_map_bridge {expected : Except Fault Bridge}
    (same : outcome.map Binding.bridge = expected) :
    outcome.map (fun binding => binding.bridge.adapter) = expected.map Bridge.adapter := by
  subst same
  cases outcome <;> rfl

theorem map_adapter_expected (manager : Manager) (build : Build) :
    (manager.expected build).map Bridge.adapter = manager.verdict build.catalog := by
  rw [expected]
  cases manager.verdict build.catalog <;> rfl

/-- Managers with the same configuration and factories come to the same verdicts, whatever they
have on their disks. -/
theorem verdict_congr (config : other.config = manager.config)
    (providers : other.providers = manager.providers)
    (steady : manager.providers.Steady catalog) :
    other.verdict catalog = manager.verdict catalog := by
  have constructs : other.construct other.disk catalog 0 =
      manager.construct other.disk catalog 0 := by
    simp only [construct, outlasts, config, providers]
    rfl
  let build : Build := ⟨"", catalog, 0, false⟩
  have steady : manager.providers.Steady build.catalog := steady
  have bridges := bridge_construct steady other.disk
  rw [verdict, constructs, map_adapter_of_map_bridge bridges, map_adapter_expected]

namespace SteadyFor

theorem next (steady : manager.SteadyFor survey) :
    (manager.reconcileSurvey survey).2.SteadyFor survey := by
  intro catalog given
  rw [providers_reconcileSurvey]
  exact steady catalog given

theorem verdict_reconcileSurvey (steady : manager.SteadyFor survey)
    (wanted : (manager.desired survey).get? key = some catalog) :
    (manager.reconcileSurvey survey).2.verdict catalog = manager.verdict catalog :=
  verdict_congr (config_reconcileSurvey manager survey) (providers_reconcileSurvey manager survey)
    (steady.of_desired wanted)

theorem verdict_attempt (steady : manager.SteadyFor survey)
    (attempted : (build, outcome) ∈ manager.attempts survey) :
    outcome.map (fun binding => binding.bridge.adapter) = manager.verdict build.catalog :=
  (map_adapter_of_map_bridge (steady.bridge_attempt attempted)).trans
    (map_adapter_expected manager build)

/-- After a pass each desired catalog is served that was served before or can be built. -/
theorem serves_reconcileSurvey (steady : manager.SteadyFor survey)
    (wanted : (manager.desired survey).get? key = some catalog) :
    (manager.reconcileSurvey survey).2.ledger.serves key catalog = true ↔
      manager.ledger.serves key catalog = true ∨
        ∃ adapter, manager.verdict catalog = .ok adapter := by
  by_cases served : manager.ledger.serves key catalog = true
  · obtain ⟨bridge, published, same⟩ := serves_iff.mp served
    have stays := get?_reconcileSurvey_of_serves published wanted same
    exact iff_of_true (serves_iff.mpr ⟨bridge, stays, same⟩) (.inl served)
  · obtain ⟨build, outcome, attempted, rfl⟩ :=
      exists_attempt wanted (Bool.eq_false_iff.mpr served)
    obtain rfl : build.catalog = catalog :=
      Option.some.inj ((warranted attempted).wanted.symm.trans wanted)
    have verdict := steady.verdict_attempt attempted
    cases outcome with
    | ok binding =>
        have published := get?_reconcileSurvey_of_built attempted
        have isBuilt := ((warranted attempted).yields binding rfl).1
        have same : binding.bridge.catalog.sameDefinition build.catalog = true := by
          simp [CatalogDefinition.sameDefinition, isBuilt]
        exact iff_of_true (serves_iff.mpr ⟨_, published, same⟩) (.inr ⟨_, verdict.symm⟩)
    | error fault =>
        have stays := get?_reconcileSurvey_of_failed attempted
        refine iff_of_false (fun serves => served ?_) ?_
        · rw [serves_iff, stays] at serves
          exact serves_iff.mpr serves
        · rintro (serves | ⟨adapter, accepted⟩)
          · exact served serves
          · cases verdict.trans accepted

/-- What is attempted again failed before, and fails for the same reason. -/
theorem attempt_again (steady : manager.SteadyFor survey)
    (attempted : (build, outcome) ∈ (manager.reconcileSurvey survey).2.attempts survey) :
    ∃ first fault, (first, .error fault) ∈ manager.attempts survey ∧ first.key = build.key ∧
      outcome = .error fault := by
  have again := warranted attempted
  have wanted := again.wanted
  rw [desired_reconcileSurvey] at wanted
  have notServed : ¬ (manager.ledger.serves build.key build.catalog = true ∨
      ∃ adapter, manager.verdict build.catalog = .ok adapter) := by
    rw [← steady.serves_reconcileSurvey wanted, again.notServed]
    exact Bool.false_ne_true
  rw [not_or] at notServed
  obtain ⟨first, before, attemptedBefore, keyed⟩ :=
    exists_attempt wanted (Bool.eq_false_iff.mpr notServed.1)
  have wantedBefore := (warranted attemptedBefore).wanted
  rw [keyed, wanted] at wantedBefore
  have sameCatalog : first.catalog = build.catalog := (Option.some.inj wantedBefore).symm
  have verdictBefore := steady.verdict_attempt attemptedBefore
  have verdict := steady.next.verdict_attempt attempted
  rw [steady.verdict_reconcileSurvey wanted, ← sameCatalog, ← verdictBefore] at verdict
  cases before with
  | ok binding => exact absurd ⟨_, (sameCatalog ▸ verdictBefore).symm⟩ notServed.2
  | error fault => exact ⟨first, fault, attemptedBefore, keyed, Outcome.map_eq_error_iff.mp verdict⟩

theorem not_built_again (steady : manager.SteadyFor survey) {binding : Binding} :
    (build, .ok binding) ∉ (manager.reconcileSurvey survey).2.attempts survey := by
  intro attempted
  obtain ⟨_, _, _, _, failed⟩ := steady.attempt_again attempted
  cases failed

/-- The faults of a pass are the verdicts on the desired catalogs that are not served. -/
theorem faults_attempts (steady : manager.SteadyFor survey) :
    faults (manager.attempts survey) =
      (manager.desired survey).entries.filterMap fun entry =>
        if manager.ledger.serves entry.1 entry.2 then none
        else faultOf entry.1 (manager.verdict entry.2) := by
  have catalogs : ((manager.attempts survey).map fun attempt =>
      (attempt.1.key, attempt.1.catalog)) =
        (manager.desired survey).entries.filter fun entry =>
          !manager.ledger.serves entry.1 entry.2 := by
    rw [← Ledger.map_entry_buildsFor, ← map_fst_attempts, List.map_map]
    rfl
  calc faults (manager.attempts survey)
      = (manager.attempts survey).filterMap fun attempt =>
          faultOf attempt.1.key (manager.verdict attempt.1.catalog) := by
        rw [faults_eq_filterMap]
        exact List.filterMap_congr fun attempt attempted => by
          rw [steady.verdict_attempt attempted]
    _ = ((manager.desired survey).entries.filter fun entry =>
          !manager.ledger.serves entry.1 entry.2).filterMap fun entry =>
            faultOf entry.1 (manager.verdict entry.2) := by
        rw [← catalogs, List.filterMap_map]
        rfl
    _ = _ := by
        rw [List.filterMap_filter]
        exact List.filterMap_congr fun entry _ => by
          cases manager.ledger.serves entry.1 entry.2 <;> rfl

theorem faults_again (steady : manager.SteadyFor survey) :
    faults ((manager.reconcileSurvey survey).2.attempts survey) =
      faults (manager.attempts survey) := by
  rw [steady.faults_attempts, steady.next.faults_attempts, desired_reconcileSurvey]
  refine List.filterMap_congr fun ⟨key, catalog⟩ member => ?_
  have wanted : (manager.desired survey).get? key = some catalog :=
    Dictionary.get?_eq_some_iff.mpr member
  have serves := steady.serves_reconcileSurvey wanted
  rw [steady.verdict_reconcileSurvey wanted]
  cases verdict : manager.verdict catalog with
  | ok adapter => simp [faultOf]
  | error fault =>
      simp only [verdict, reduceCtorEq, exists_false, or_false] at serves
      simp only [serves]

end SteadyFor

theorem slot_reconcileSurvey_of_failed {fault : Fault}
    (attempted : (build, .error fault) ∈ manager.attempts survey) :
    (manager.reconcileSurvey survey).2.ledger.slot build.key =
      ⟨manager.ledger.registry.get? build.key,
        if manager.ledger.registry.contains build.key then .active else .absent⟩ := by
  have fate := fate_reconcileSurvey manager survey build.key
  generalize (manager.reconcileSurvey survey).2.ledger.slot build.key = slot at fate
  cases fate with
  | built built sameKey => exact nomatch congrArg Prod.snd (attempt_unique built attempted sameKey)
  | failed _ _ => rfl
  | kept notAttempted _ => exact absurd rfl (notAttempted _ attempted)
  | dropped _ leaves =>
      rw [outlives_of_desired (warranted attempted).wanted] at leaves
      cases leaves

/-- What is published after a pass outlives the pass when it is repeated. -/
theorem outlives_again {bridge : Bridge}
    (published : (manager.reconcileSurvey survey).2.ledger.registry.get? key = some bridge) :
    (manager.reconcileSurvey survey).2.outlives survey key bridge = true := by
  have same : (manager.reconcileSurvey survey).2.outlives survey key bridge =
      manager.outlives survey key bridge := by
    rw [outlives, outlives, desired_reconcileSurvey]
  have holds : ((manager.reconcileSurvey survey).2.ledger.slot key).bridge? = some bridge :=
    published
  have fate := fate_reconcileSurvey manager survey key
  rw [same]
  generalize (manager.reconcileSurvey survey).2.ledger.slot key = slot at fate holds
  cases fate with
  | built attempted keyed => exact outlives_of_desired (keyed ▸ (warranted attempted).wanted) _
  | failed attempted keyed => exact outlives_of_desired (keyed ▸ (warranted attempted).wanted) _
  | kept _ stays => exact stays bridge holds
  | dropped _ _ => cases holds

theorem SteadyFor.slot_again (steady : manager.SteadyFor survey) (key : String) :
    ((manager.reconcileSurvey survey).2.reconcileSurvey survey).2.ledger.slot key =
      (manager.reconcileSurvey survey).2.ledger.slot key := by
  have fate := fate_reconcileSurvey (manager.reconcileSurvey survey).2 survey key
  generalize ((manager.reconcileSurvey survey).2.reconcileSurvey survey).2.ledger.slot key =
    slot at fate
  cases fate with
  | built attempted _ => exact absurd attempted steady.not_built_again
  | failed attempted keyed =>
      obtain ⟨first, fault, attemptedBefore, sameKey, _⟩ := steady.attempt_again attempted
      have left := slot_reconcileSurvey_of_failed attemptedBefore
      rw [sameKey, keyed] at left
      have stays : (manager.reconcileSurvey survey).2.ledger.registry.get? key =
          manager.ledger.registry.get? key := congrArg Slot.bridge? left
      rw [left, Dictionary.contains, Dictionary.contains, stays]
  | kept _ _ => rfl
  | dropped published leaves =>
      rw [outlives_again published] at leaves
      cases leaves

/-- A second pass does nothing that shows: it reports what was published by the first one as
unchanged and what failed as failed, and leaves what is published and all states. -/
structure Repeats (first second : ReconcileReport) (after final : Ledger) : Prop where
  created : second.created = []
  reloaded : second.reloaded = []
  dropped : second.dropped = []
  unchanged : second.unchanged.Perm (first.created ++ first.reloaded ++ first.unchanged)
  failed : second.failed = first.failed
  published : final.registry = after.registry
  states (key : String) : final.stateOf key = after.stateOf key

/-- A pass over any survey settles at once, if the factories are steady. -/
theorem SteadyFor.repeats (steady : manager.SteadyFor survey) :
    Repeats (manager.reconcileSurvey survey).1
      ((manager.reconcileSurvey survey).2.reconcileSurvey survey).1
      (manager.reconcileSurvey survey).2.ledger
      ((manager.reconcileSurvey survey).2.reconcileSurvey survey).2.ledger := by
  have created :
      ((manager.reconcileSurvey survey).2.reconcileSurvey survey).1.created = [] := by
    refine List.eq_nil_iff_forall_not_mem.mpr fun key member => ?_
    obtain ⟨_, _, attempted, _⟩ := mem_created_iff.mp member
    exact steady.not_built_again attempted
  have reloaded :
      ((manager.reconcileSurvey survey).2.reconcileSurvey survey).1.reloaded = [] := by
    refine List.eq_nil_iff_forall_not_mem.mpr fun key member => ?_
    obtain ⟨_, _, attempted, _⟩ := mem_reloaded_iff.mp member
    exact steady.not_built_again attempted
  refine ⟨created, reloaded, ?dropped, ?unchanged, ?failed, ?published, ?states⟩
  case dropped =>
    refine List.eq_nil_iff_forall_not_mem.mpr fun key member => ?_
    obtain ⟨bridge, published, leaves⟩ := mem_dropped_report_iff.mp member
    rw [outlives_again published] at leaves
    cases leaves
  case unchanged =>
    -- Both reports account for the desired keys, and only the failed ones are left out of it.
    have first := partition_report manager survey
    have second := partition_report (manager.reconcileSurvey survey).2 survey
    rw [created, reloaded, desired_reconcileSurvey, steady.faults_again] at second
    exact (List.perm_append_right_iff _).mp (second.trans first.symm)
  case failed =>
    rw [report_reconcileSurvey (manager.reconcileSurvey survey).2, report_reconcileSurvey manager,
      config_reconcileSurvey, steady.faults_again]
    rfl
  case published =>
    exact Dictionary.ext_get? fun key => (Ledger.slot_eq_slot_iff.mp (steady.slot_again key)).1
  case states => exact fun key => (Ledger.slot_eq_slot_iff.mp (steady.slot_again key)).2

/-- A pass over a list of catalogs settles at once, if the factories are steady. -/
theorem repeats_reconcileWith {catalogs : List CatalogDefinition}
    (steady : manager.SteadyFor { catalogs }) :
    Repeats (manager.reconcileWith catalogs).1
      ((manager.reconcileWith catalogs).2.reconcileWith catalogs).1
      (manager.reconcileWith catalogs).2.ledger
      ((manager.reconcileWith catalogs).2.reconcileWith catalogs).2.ledger :=
  steady.repeats

/-- A catalog that fails to be reloaded, a new one, another one with its key, and one that is of
another kind. -/
def disputedCatalogs : List CatalogDefinition := [
  { memoryCatalog "lake" "a" with
    properties := Dictionary.empty.insert ConnectorFactory.maxTablesKey "-1" },
  memoryCatalog "lake" "c",
  { memoryCatalog "lake" "c" with
    properties := Dictionary.empty.insert ConnectorFactory.maxTablesKey "5" },
  { memoryCatalog "lake" "d" with catalogType := .fileset }]

theorem repeats_disputedCatalogs :
    let first := afterFirst.reconcileWith disputedCatalogs
    let second := first.2.reconcileWith disputedCatalogs
    Repeats first.1 second.1 first.2.ledger second.2.ledger ∧
      second.2.ledger.stateOf "lake.a" = .active ∧ second.2.ledger.stateOf "lake.b" = .dropped ∧
      second.2.ledger.registry.get? "lake.c" = some {
        catalog := memoryCatalog "lake" "c", generation := 4, adapter := .memory
        policy := afterFirst.config.layoutPolicy } := by
  have steady : afterFirst.SteadyFor { catalogs := disputedCatalogs } :=
    .of_memory providers_afterFirst (by decide)
  exact ⟨repeats_reconcileWith steady, rfl, rfl, rfl⟩

end Manager

end CatalogGateway
