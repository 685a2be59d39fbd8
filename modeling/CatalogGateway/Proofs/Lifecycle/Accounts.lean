import CatalogGateway.Proofs.Lifecycle.Fates

/-!
# The report of a pass

The report of a pass accounts for each desired key once, says what was dropped, and tells with
what was published before what is published afterwards.
-/

namespace CatalogGateway

namespace ReconcileReport

variable {keys : List String}

theorem mergeSort_ascending {α : Type} (keyOf : α → String) (entries : List α) :
    (entries.mergeSort fun first second => decide (keyOf first ≤ keyOf second)).Pairwise
      fun first second => keyOf first ≤ keyOf second := by
  have ordered := List.pairwise_mergeSort
    (fun (first second third : α) (below : decide (keyOf first ≤ keyOf second) = true)
        (above : decide (keyOf second ≤ keyOf third) = true) => decide_eq_true
      (String.le_trans (of_decide_eq_true below) (of_decide_eq_true above)))
    (fun first second => by simpa using String.le_total (keyOf first) (keyOf second)) entries
  exact ordered.imp of_decide_eq_true

theorem sortKeys_perm (keys : List String) : (sortKeys keys).Perm keys :=
  List.mergeSort_perm _ _

/-- Different keys ascend strictly once they are sorted. -/
theorem sortKeys_ascending (distinct : keys.Nodup) : (sortKeys keys).Pairwise (· < ·) := by
  have ordered : (sortKeys keys).Pairwise (· ≤ ·) := mergeSort_ascending id keys
  refine (ordered.and ((sortKeys_perm keys).nodup_iff.mpr distinct)).imp ?_
  rintro first second ⟨below, different⟩
  exact String.not_le.mp fun above => different (String.le_antisymm below above)

end ReconcileReport

namespace Manager

open Attempt

variable {manager : Manager} {survey : Survey} {key : String}

theorem serves_iff {catalog : CatalogDefinition} :
    manager.ledger.serves key catalog = true ↔ ∃ bridge,
      manager.ledger.registry.get? key = some bridge ∧
        bridge.catalog.sameDefinition catalog = true := by
  rw [Ledger.serves]
  split
  · rename_i bridge published
    simp [published]
  · rename_i absent
    simp [absent]

theorem mem_servedKeys_iff : key ∈ manager.servedKeys survey ↔ ∃ bridge catalog,
    manager.ledger.registry.get? key = some bridge ∧
      manager.config.naming.first? survey.catalogs key = some catalog ∧
      bridge.catalog.sameDefinition catalog = true := by
  simp only [servedKeys, List.mem_map, List.mem_filter, Prod.exists, exists_and_right,
    exists_eq_right, ← Dictionary.get?_eq_some_iff, desired_eq_some_iff, serves_iff]
  constructor
  · rintro ⟨catalog, wanted, bridge, published, same⟩
    exact ⟨bridge, catalog, published, wanted, same⟩
  · rintro ⟨bridge, catalog, published, wanted, same⟩
    exact ⟨catalog, wanted, bridge, published, same⟩

/-- The desired keys are those of the attempts and those that are served already. -/
theorem keys_desired_perm : (manager.servedKeys survey ++
    (manager.attempts survey).map fun attempt => attempt.1.key).Perm
      (manager.desired survey).keys := by
  rw [keys_attempts, servedKeys, ← List.map_append]
  exact (List.filter_append_perm _ _).map Prod.fst

section Reported

variable (manager : Manager) (survey : Survey)

theorem created_perm : (manager.reconcileSurvey survey).1.created.Perm
    (keysBuilt (manager.attempts survey) false) := by
  rw [report_reconcileSurvey]
  exact ReconcileReport.sortKeys_perm _

theorem reloaded_perm : (manager.reconcileSurvey survey).1.reloaded.Perm
    (keysBuilt (manager.attempts survey) true) := by
  rw [report_reconcileSurvey]
  exact ReconcileReport.sortKeys_perm _

theorem unchanged_perm : (manager.reconcileSurvey survey).1.unchanged.Perm
    (manager.servedKeys survey) := by
  rw [report_reconcileSurvey]
  exact ReconcileReport.sortKeys_perm _

theorem dropped_perm : (manager.reconcileSurvey survey).1.dropped.Perm
    (manager.dropped survey) := by
  rw [report_reconcileSurvey]
  exact ReconcileReport.sortKeys_perm _

theorem failed_perm : (manager.reconcileSurvey survey).1.failed.Perm
    (survey.failed ++ faults (manager.attempts survey) ++
      (manager.config.naming.laterKeys survey.catalogs).map Ledger.duplicate) := by
  rw [report_reconcileSurvey]
  refine (List.mergeSort_perm _ _).trans ?_
  rw [Ledger.select_faults, List.append_assoc, List.append_assoc]
  exact List.perm_append_comm.append_left _

theorem ascending_report (keys : List String)
    (listed : keys ∈ [(manager.reconcileSurvey survey).1.created,
      (manager.reconcileSurvey survey).1.reloaded, (manager.reconcileSurvey survey).1.dropped,
      (manager.reconcileSurvey survey).1.unchanged]) : keys.Pairwise (· < ·) := by
  have built (reload : Bool) : (keysBuilt (manager.attempts survey) reload).Nodup :=
    (keys_successes_nodup keys_attempts_nodup).sublist (List.filter_sublist.map _)
  have served : (manager.servedKeys survey).Nodup :=
    (manager.desired survey).keys_nodup.sublist (List.filter_sublist.map _)
  rw [report_reconcileSurvey] at listed
  simp only [ReconcileReport.sorted, List.mem_cons, List.not_mem_nil, or_false] at listed
  rcases listed with rfl | rfl | rfl | rfl
  · exact ReconcileReport.sortKeys_ascending (built false)
  · exact ReconcileReport.sortKeys_ascending (built true)
  · exact ReconcileReport.sortKeys_ascending (Ledger.droppedKeys_nodup _)
  · exact ReconcileReport.sortKeys_ascending served

theorem failedAscending_report :
    (manager.reconcileSurvey survey).1.failed.Pairwise fun first second => first.1 ≤ second.1 := by
  rw [report_reconcileSurvey]
  exact ReconcileReport.mergeSort_ascending Prod.fst _

/-- Each desired key is created, reloaded, unchanged or of a construction that failed, and no key
is so twice. -/
theorem partition_report :
    ((manager.reconcileSurvey survey).1.created ++ (manager.reconcileSurvey survey).1.reloaded ++
      (manager.reconcileSurvey survey).1.unchanged ++
      (faults (manager.attempts survey)).map Prod.fst).Perm (manager.desired survey).keys := by
  refine List.Perm.trans ?_ keys_desired_perm
  refine List.Perm.trans ?_ ((keys_perm _).append_left _)
  rw [← List.append_assoc]
  have built := ((created_perm manager survey).append (reloaded_perm manager survey)).trans
    (keysBuilt_perm _)
  exact ((built.append (unchanged_perm manager survey)).trans List.perm_append_comm).append_right _

variable {manager survey}

theorem mem_created_iff : key ∈ (manager.reconcileSurvey survey).1.created ↔
    ∃ build binding, (build, .ok binding) ∈ manager.attempts survey ∧ build.reload = false ∧
      build.key = key :=
  (created_perm manager survey).mem_iff.trans mem_keysBuilt_iff

theorem mem_reloaded_iff : key ∈ (manager.reconcileSurvey survey).1.reloaded ↔
    ∃ build binding, (build, .ok binding) ∈ manager.attempts survey ∧ build.reload = true ∧
      build.key = key :=
  (reloaded_perm manager survey).mem_iff.trans mem_keysBuilt_iff

theorem mem_dropped_report_iff : key ∈ (manager.reconcileSurvey survey).1.dropped ↔
    ∃ bridge, manager.ledger.registry.get? key = some bridge ∧
      manager.outlives survey key bridge = false :=
  (dropped_perm manager survey).mem_iff.trans mem_dropped_iff

/-- The keys published after a pass are those published before that are not dropped, and those
created. -/
theorem mem_published_reconcileSurvey_iff :
    key ∈ (manager.reconcileSurvey survey).2.ledger.registry.keys ↔
      key ∈ manager.ledger.registry.keys ∧
        key ∉ (manager.reconcileSurvey survey).1.dropped ∨
      key ∈ (manager.reconcileSurvey survey).1.created := by
  have stays {attempt : Attempt} (attempted : attempt ∈ manager.attempts survey) :
      attempt.1.key ∉ (manager.reconcileSurvey survey).1.dropped := fun isDropped =>
    not_dropped_of_desired (warranted attempted).wanted
      ((dropped_perm manager survey).mem_iff.mp isDropped)
  have after : key ∈ (manager.reconcileSurvey survey).2.ledger.registry.keys ↔
      ((manager.reconcileSurvey survey).2.ledger.slot key).bridge?.isSome = true :=
    Dictionary.contains_iff.symm
  have fate := fate_reconcileSurvey manager survey key
  rw [after, ← Dictionary.contains_iff, mem_created_iff]
  generalize (manager.reconcileSurvey survey).2.ledger.slot key = slot at fate
  cases fate with
  | @built build binding attempted keyed =>
      refine iff_of_true rfl ?_
      subst keyed
      cases reload : build.reload with
      | false => exact .inr ⟨build, binding, attempted, reload, rfl⟩
      | true =>
          exact .inl ⟨(warranted attempted).reload ▸ reload, stays attempted⟩
  | @failed build fault attempted keyed =>
      subst keyed
      constructor
      · exact fun present => .inl ⟨present, stays attempted⟩
      · rintro (⟨present, _⟩ | ⟨other, binding, built, _, sameKey⟩)
        · exact present
        · exact nomatch congrArg Prod.snd (attempt_unique built attempted sameKey)
  | kept notAttempted outlives =>
      constructor
      · intro present
        refine .inl ⟨present, ?_⟩
        rw [mem_dropped_report_iff]
        rintro ⟨bridge, published, leaves⟩
        rw [outlives bridge published] at leaves
        cases leaves
      · rintro (⟨present, _⟩ | ⟨build, binding, attempted, _, keyed⟩)
        · exact present
        · exact absurd keyed (notAttempted _ attempted)
  | @dropped bridge published leaves =>
      have isDropped := mem_dropped_report_iff.mpr ⟨bridge, published, leaves⟩
      refine iff_of_false Bool.noConfusion ?_
      rintro (⟨_, notDropped⟩ | ⟨build, binding, attempted, _, rfl⟩)
      · exact notDropped isDropped
      · exact stays attempted isDropped

end Reported

/-- How a report accounts for a pass over a list of catalogs. -/
structure Accounts (manager : Manager) (catalogs : List CatalogDefinition)
    (report : ReconcileReport) (next : Manager) : Prop where
  /-- The keys of the relational catalogs are those in the three lists and those whose
  construction failed. -/
  complete (key : String) : key ∈ report.created ++ report.reloaded ++ report.unchanged ++
      (faults (manager.attempts { catalogs })).map Prod.fst ↔
    key ∈ manager.config.naming.relationalKeys catalogs
  /-- No key is there twice. -/
  disjoint : (report.created ++ report.reloaded ++ report.unchanged ++
    (faults (manager.attempts { catalogs })).map Prod.fst).Nodup
  createdAreNew : report.created.Disjoint manager.ledger.registry.keys
  restWerePublished : report.reloaded ++ report.unchanged ⊆ manager.ledger.registry.keys
  /-- What is served by what is published for the first catalog with the key is unchanged. -/
  unchanged (key : String) : key ∈ report.unchanged ↔ ∃ bridge catalog,
    manager.ledger.registry.get? key = some bridge ∧
      manager.config.naming.first? catalogs key = some catalog ∧
      bridge.catalog.provider = catalog.provider ∧
      bridge.catalog.catalogType = catalog.catalogType ∧
      bridge.catalog.properties = catalog.properties
  dropped (key : String) : key ∈ report.dropped ↔
    key ∈ manager.ledger.registry.keys ∧ key ∉ manager.config.naming.relationalKeys catalogs
  failed : report.failed.Perm (faults (manager.attempts { catalogs }) ++
    (manager.config.naming.laterKeys catalogs).map Ledger.duplicate)
  ascending : ∀ keys ∈ [report.created, report.reloaded, report.dropped, report.unchanged],
    keys.Pairwise (· < ·)
  failedAscending : report.failed.Pairwise fun first second => first.1 ≤ second.1
  published (key : String) : key ∈ next.ledger.registry.keys ↔
    key ∈ manager.ledger.registry.keys ∧ key ∉ report.dropped ∨ key ∈ report.created

theorem outlives_given_iff {catalogs : List CatalogDefinition} {bridge : Bridge} :
    manager.outlives { catalogs } key bridge = false ↔
      key ∉ manager.config.naming.relationalKeys catalogs := by
  rw [← Ledger.contains_desired_iff]
  simp [outlives, Ledger.isKept, desired]

/-- The report of a pass over a list of catalogs accounts for it. -/
theorem accounts_reconcileWith (manager : Manager) (catalogs : List CatalogDefinition) :
    manager.Accounts catalogs (manager.reconcileWith catalogs).1
      (manager.reconcileWith catalogs).2 where
  complete key := by
    rw [reconcileWith, (partition_report manager { catalogs }).mem_iff,
      ← Ledger.contains_desired_iff, Dictionary.contains_iff]
    rfl
  disjoint := (partition_report manager { catalogs }).nodup_iff.mpr (Dictionary.keys_nodup _)
  createdAreNew := by
    intro key created published
    obtain ⟨build, binding, attempted, reload, rfl⟩ := mem_created_iff.mp created
    rw [← Dictionary.contains_iff, ← (warranted attempted).reload, reload] at published
    cases published
  restWerePublished := by
    intro key listed
    rcases List.mem_append.mp listed with reloaded | unchanged
    · obtain ⟨build, binding, attempted, reload, rfl⟩ := mem_reloaded_iff.mp reloaded
      exact Dictionary.contains_iff.mp ((warranted attempted).reload ▸ reload)
    · obtain ⟨bridge, _, published, _⟩ :=
        mem_servedKeys_iff.mp ((unchanged_perm manager _).mem_iff.mp unchanged)
      exact Dictionary.contains_iff.mp (Option.isSome_of_eq_some published)
  unchanged key := by
    rw [reconcileWith, (unchanged_perm manager _).mem_iff, mem_servedKeys_iff]
    simp [CatalogDefinition.sameDefinition, and_assoc]
  dropped key := by
    rw [reconcileWith, mem_dropped_report_iff, ← Dictionary.contains_iff, Dictionary.contains,
      Option.isSome_iff_exists]
    simp only [outlives_given_iff, exists_and_right]
  failed := failed_perm manager { catalogs }
  ascending := ascending_report manager { catalogs }
  failedAscending := failedAscending_report manager { catalogs }
  published _ := mem_published_reconcileSurvey_iff

end Manager

end CatalogGateway
