import CatalogGateway.Proofs.Lifecycle.Consistency
import CatalogGateway.Proofs.Lifecycle.Surveys
import CatalogGateway.Proofs.Service.Coherence

/-!
# Catalogs kept through failures of the metadata service

A failure of the metadata service neither drops nor replaces what is published.  A published
catalog is dropped only if the service says that it is not there or not relational, or if its
metalake is not visited.
-/

namespace CatalogGateway

namespace MetadataService

/-- The catalogs that a service lists in a metalake lie in it, and the definition that it gives of
one of them is that of the catalog. -/
structure Faithful (service : MetadataService) (metalakes : List String) : Prop where
  inside : ∀ metalake ∈ metalakes, ∀ name, service.Lists metalake name → name.metalake = metalake
  described : ∀ metalake ∈ metalakes, ∀ name, service.Lists metalake name →
    ∀ catalog, service.loadCatalog name = .ok catalog → catalog.qualifiedName = name

/-- A service that is asked about some metalakes does not have a catalog as a relational one. -/
inductive Disowns (service : MetadataService) (metalakes : List String)
    (catalog : CatalogDefinition) : Prop where
  | notVisited (elsewhere : catalog.metalake ∉ metalakes)
  | notFound {fault : Fault} (listing : service.listCatalogs catalog.metalake = .error fault)
      (missing : fault.kind = .notFound)
  | notListed {names : List QualifiedName}
      (listing : service.listCatalogs catalog.metalake = .ok names)
      (absent : catalog.qualifiedName ∉ names)
  | notRelational {definition : CatalogDefinition}
      (lists : service.Lists catalog.metalake catalog.qualifiedName)
      (loading : service.loadCatalog catalog.qualifiedName = .ok definition)
      (other : definition.catalogType ≠ .relational)

variable {service : MetadataService} {metalakes : List String} {catalog : CatalogDefinition}

theorem not_disowns_of_withholds (visited : catalog.metalake ∈ metalakes)
    (withholds : service.Withholds catalog.metalake) : ¬ service.Disowns metalakes catalog := by
  obtain ⟨fault, failed, kind⟩ := withholds
  intro disowned
  cases disowned with
  | notVisited elsewhere => exact elsewhere visited
  | notFound listing missing =>
      cases failed.symm.trans listing
      exact kind missing
  | notListed listing _ => cases failed.symm.trans listing
  | notRelational lists _ _ =>
      obtain ⟨names, listing, _⟩ := lists
      cases failed.symm.trans listing

theorem not_disowns_of_notLoaded {fault : Fault} (visited : catalog.metalake ∈ metalakes)
    (lists : service.Lists catalog.metalake catalog.qualifiedName)
    (failed : service.loadCatalog catalog.qualifiedName = .error fault) :
    ¬ service.Disowns metalakes catalog := by
  obtain ⟨names, listed, member⟩ := lists
  intro disowned
  cases disowned with
  | notVisited elsewhere => exact elsewhere visited
  | notFound listing _ => cases listed.symm.trans listing
  | notListed listing absent =>
      cases listed.symm.trans listing
      exact absent member
  | notRelational _ loading _ => cases failed.symm.trans loading

end MetadataService

namespace MemoryService

variable {service : MemoryService}

/-- A service in memory is faithful, whatever it fails to answer. -/
theorem faithful_questions (keyed : service.Keyed) (metalakes : List String) :
    service.questions.Faithful metalakes where
  inside metalake _ name lists := by
    obtain ⟨_, listing, member⟩ := lists
    obtain ⟨catalog, _, inside, rfl⟩ := (mem_of_listCatalogs_iff keyed listing).mp member
    exact inside
  described metalake _ name lists catalog loading := by
    obtain ⟨_, listing, member⟩ := lists
    obtain ⟨listed, held, _, rfl⟩ := (mem_of_listCatalogs_iff keyed listing).mp member
    by_cases works : listed.fullName ∈ service.failingCatalogs
    · have broken : listed.qualifiedName.display ∈ service.failingCatalogs := works
      obtain ⟨_, failed, _⟩ := loadCatalog_of_broken broken
      cases failed.symm.trans loading
    · cases (loadCatalog_of_holds held works).symm.trans loading
      rfl

end MemoryService

namespace Manager

variable {manager : Manager} {service : MetadataService} {metalakes : List String}
  {key : String} {bridge : Bridge}

/-- No catalog that is listed in some metalakes has the key of another one that is published. -/
def KeepsApart (manager : Manager) (service : MetadataService) (metalakes : List String) : Prop :=
  ∀ key bridge, manager.ledger.registry.get? key = some bridge →
    ∀ metalake ∈ metalakes, ∀ name, service.Lists metalake name →
      manager.config.naming.key name.metalake name.last = key →
        name = bridge.catalog.qualifiedName

/-- A bridge is published after a pass as it was before, with its connector. -/
def StillPublishes (manager next : Manager) (key : String) (bridge : Bridge) : Prop :=
  next.ledger.registry.get? key = some bridge ∧ next.binding? bridge = manager.binding? bridge

/-- The survey of a pass over some metalakes. -/
def surveyOver (manager : Manager) (service : MetadataService) (metalakes : List String) : Survey :=
  Survey.ofMetalakes manager.config.naming service metalakes

section Published

variable (faithful : service.Faithful metalakes) (apart : manager.KeepsApart service metalakes)
  (published : manager.ledger.registry.get? key = some bridge)
  (placed : manager.config.naming.keyOf bridge.catalog = key)

include faithful apart published in
/-- A catalog that is listed and has the key of a published one is that very catalog. -/
theorem eq_of_listed {metalake : String} {name : QualifiedName} (visited : metalake ∈ metalakes)
    (lists : service.Lists metalake name)
    (keyed : manager.config.naming.key name.metalake name.last = key) :
    name = bridge.catalog.qualifiedName ∧ metalake = bridge.catalog.metalake := by
  obtain rfl := apart key bridge published metalake visited name lists keyed
  exact ⟨rfl, (faithful.inside metalake visited _ lists).symm⟩

include faithful apart published placed

theorem desired_surveyOver_iff :
    (manager.desired (manager.surveyOver service metalakes)).contains key = true ↔
      bridge.catalog.metalake ∈ metalakes ∧
        service.Lists bridge.catalog.metalake bridge.catalog.qualifiedName ∧
        ∃ definition, service.loadCatalog bridge.catalog.qualifiedName = .ok definition ∧
          definition.catalogType = .relational := by
  rw [desired, Ledger.contains_desired_iff, CatalogNaming.mem_relationalKeys_iff]
  simp only [surveyOver, Survey.mem_catalogs_ofMetalakes_iff]
  constructor
  · rintro ⟨definition, ⟨metalake, visited, name, lists, loading⟩, relational, keyed⟩
    obtain rfl := faithful.described metalake visited name lists definition loading
    obtain ⟨same, rfl⟩ := eq_of_listed faithful apart published visited lists keyed
    rw [same] at lists loading
    exact ⟨visited, lists, definition, loading, relational⟩
  · rintro ⟨visited, lists, definition, loading, relational⟩
    have same := faithful.described _ visited _ lists definition loading
    refine ⟨definition, ⟨_, visited, _, lists, loading⟩, relational, ?_⟩
    rw [← placed]
    exact congrArg (fun name : QualifiedName =>
      manager.config.naming.key name.metalake name.last) same

theorem retainedKey_surveyOver_iff :
    key ∈ (manager.surveyOver service metalakes).retained.keys ↔
      bridge.catalog.metalake ∈ metalakes ∧
        service.Lists bridge.catalog.metalake bridge.catalog.qualifiedName ∧
        ∃ fault, service.loadCatalog bridge.catalog.qualifiedName = .error fault := by
  rw [surveyOver, Survey.mem_retainedKeys_ofMetalakes_iff]
  constructor
  · rintro ⟨metalake, visited, name, lists, fault, loading, keyed⟩
    obtain ⟨rfl, rfl⟩ := eq_of_listed faithful apart published visited lists keyed
    exact ⟨visited, lists, fault, loading⟩
  · rintro ⟨visited, lists, fault, loading⟩
    exact ⟨_, visited, _, lists, fault, loading, placed⟩

/-- A published catalog outlives a pass unless the service disowns it. -/
theorem outlives_surveyOver_iff :
    manager.outlives (manager.surveyOver service metalakes) key bridge = false ↔
      service.Disowns metalakes bridge.catalog := by
  have metalakeKept : bridge.catalog.metalake ∈
      (manager.surveyOver service metalakes).retained.metalakes ↔
        bridge.catalog.metalake ∈ metalakes ∧ service.Withholds bridge.catalog.metalake :=
    Survey.mem_retainedMetalakes_ofMetalakes_iff
  simp only [outlives, Ledger.isKept, Bool.or_eq_false_iff]
  simp only [← Bool.not_eq_true, List.contains_iff_mem, metalakeKept,
    desired_surveyOver_iff faithful apart published placed,
    retainedKey_surveyOver_iff faithful apart published placed]
  constructor
  · rintro ⟨⟨notDesired, notRetained⟩, notWithheld⟩
    by_cases visited : bridge.catalog.metalake ∈ metalakes
    · cases listing : service.listCatalogs bridge.catalog.metalake with
      | error fault =>
          by_cases missing : fault.kind = .notFound
          · exact .notFound listing missing
          · exact absurd ⟨visited, fault, listing, missing⟩ notWithheld
      | ok names =>
          by_cases listed : bridge.catalog.qualifiedName ∈ names
          · have lists : service.Lists bridge.catalog.metalake bridge.catalog.qualifiedName :=
              ⟨names, listing, listed⟩
            cases loading : service.loadCatalog bridge.catalog.qualifiedName with
            | error fault => exact absurd ⟨visited, lists, fault, loading⟩ notRetained
            | ok definition =>
                refine .notRelational lists loading fun relational => notDesired ?_
                exact ⟨visited, lists, definition, loading, relational⟩
          · exact .notListed listing listed
    · exact .notVisited visited
  · intro disowned
    cases disowned with
    | notVisited elsewhere => simp [elsewhere]
    | notFound listing missing =>
        simp [MetadataService.Lists, MetadataService.Withholds, listing, missing]
    | notListed listing absent =>
        simp [MetadataService.Lists, MetadataService.Withholds, listing, absent]
    | notRelational lists loading other =>
        obtain ⟨names, listing, _⟩ := lists
        simp [MetadataService.Withholds, listing, loading, other]

end Published

section Passes

variable {survey : Survey}

/-- What is neither desired nor dropped is left alone. -/
theorem stillPublishes_of_notDesired
    (consistent : manager.ledger.Consistent manager.config.naming)
    (published : manager.ledger.registry.get? key = some bridge)
    (notDesired : ¬ (manager.desired survey).contains key = true)
    (stays : ¬ manager.outlives survey key bridge = false) :
    manager.StillPublishes (manager.reconcileSurvey survey).2 key bridge := by
  have fate := fate_reconcileSurvey manager survey key
  have notAttempted {build : Build} {outcome : Except Fault Binding}
      (attempted : (build, outcome) ∈ manager.attempts survey) : build.key ≠ key := by
    rintro rfl
    exact notDesired (Option.isSome_of_eq_some (warranted attempted).wanted)
  have same : (manager.reconcileSurvey survey).2.ledger.registry.get? key = some bridge := by
    -- The fates are told apart by the slot that they end in, which is no variable yet.
    generalize left : (manager.reconcileSurvey survey).2.ledger.slot key = slot at fate
    have found : (manager.reconcileSurvey survey).2.ledger.registry.get? key = slot.bridge? :=
      congrArg Slot.bridge? left
    rw [found]
    cases fate with
    | built attempted keyed => exact absurd keyed (notAttempted attempted)
    | failed attempted keyed => exact absurd keyed (notAttempted attempted)
    | kept _ _ => exact published
    | @dropped other otherPublished leaves =>
        obtain rfl := Option.some.inj (published.symm.trans otherPublished)
        exact absurd leaves stays
  exact ⟨same, binding?_reconcileSurvey consistent published same⟩

theorem get?_reconcileSurvey_eq_none_iff
    (published : manager.ledger.registry.get? key = some bridge) :
    (manager.reconcileSurvey survey).2.ledger.registry.get? key = none ↔
      key ∈ (manager.reconcileSurvey survey).1.dropped := by
  have before : key ∈ manager.ledger.registry.keys :=
    Dictionary.contains_iff.mp (Option.isSome_of_eq_some published)
  have after : (manager.reconcileSurvey survey).2.ledger.registry.get? key = none ↔
      key ∉ (manager.reconcileSurvey survey).2.ledger.registry.keys := by
    rw [← Dictionary.contains_iff, Dictionary.contains, Bool.not_eq_true,
      Option.isSome_eq_false_iff, Option.isNone_iff_eq_none]
  -- A key that was published is reloaded, so that only a drop can have taken it away.
  have created (isCreated : key ∈ (manager.reconcileSurvey survey).1.created) : False := by
    obtain ⟨build, binding, attempted, reload, rfl⟩ := mem_created_iff.mp isCreated
    have known := (warranted attempted).reload
    rw [reload, Dictionary.contains, published] at known
    cases known
  rw [after, mem_published_reconcileSurvey_iff]
  constructor
  · intro gone
    exact Classical.byContradiction fun notDropped => gone (.inl ⟨before, notDropped⟩)
  · rintro isDropped (⟨_, notDropped⟩ | isCreated)
    · exact notDropped isDropped
    · exact created isCreated

/-- A pass that cannot learn of the metalakes does nothing. -/
theorem reconcile_eq (manager : Manager) (service : MetadataService) :
    manager.reconcile (some service) = match service.visited manager.config with
      | .error fault => (.error fault, manager)
      | .ok metalakes =>
          (.ok (manager.reconcileSurvey (manager.surveyOver service metalakes)).1,
            (manager.reconcileSurvey (manager.surveyOver service metalakes)).2) := by
  rw [reconcile, Manager.survey, Survey.ask_eq]
  cases service.visited manager.config <;> rfl

/-- What a pass makes of a published catalog, as the service answers. -/
structure Retains (manager : Manager) (service : MetadataService) (metalakes : List String)
    (key : String) (bridge : Bridge) (report : ReconcileReport) (next : Manager) : Prop where
  withheld : bridge.catalog.metalake ∈ metalakes → service.Withholds bridge.catalog.metalake →
    manager.StillPublishes next key bridge
  notLoaded : ∀ fault, bridge.catalog.metalake ∈ metalakes →
    service.Lists bridge.catalog.metalake bridge.catalog.qualifiedName →
    service.loadCatalog bridge.catalog.qualifiedName = .error fault →
      manager.StillPublishes next key bridge ∧ (key, fault) ∈ report.failed
  dropped : key ∈ report.dropped ↔ service.Disowns metalakes bridge.catalog
  gone : next.ledger.registry.get? key = none ↔ service.Disowns metalakes bridge.catalog

/-- A pass fails with the service when this cannot list the metalakes, and nothing changes.
Otherwise it keeps every published catalog whose metalake cannot be listed or which cannot be
loaded, and of the other ones it drops those that the service disowns. -/
theorem retains_reconcile {earlier : List Bridge} (reached : Reached earlier manager)
    (service : MetadataService) :
    (manager.config.metalakes = [] → ∀ fault, service.listMetalakes = .error fault →
      manager.reconcile (some service) = (.error fault, manager)) ∧
    ∀ metalakes, service.visited manager.config = .ok metalakes → service.Faithful metalakes →
      manager.KeepsApart service metalakes →
      ∃ report, (manager.reconcile (some service)).1 = .ok report ∧
        ∀ key bridge, manager.ledger.registry.get? key = some bridge →
          manager.Retains service metalakes key bridge report
            (manager.reconcile (some service)).2 := by
  have consistent := reached.consistent.1
  constructor
  · intro all fault failed
    rw [reconcile_eq, MetadataService.visited, all, if_pos List.isEmpty_nil, failed]
  · intro metalakes visited faithful apart
    rw [reconcile_eq, visited]
    refine ⟨_, rfl, fun key bridge published => ?_⟩
    have placed := consistent.placed published
    have leaves := outlives_surveyOver_iff faithful apart published placed
    have wanted := desired_surveyOver_iff faithful apart published placed
    have dropped :
        key ∈ (manager.reconcileSurvey (manager.surveyOver service metalakes)).1.dropped ↔
          service.Disowns metalakes bridge.catalog := by
      rw [mem_dropped_report_iff, ← leaves]
      constructor
      · rintro ⟨other, otherPublished, left⟩
        cases published.symm.trans otherPublished
        exact left
      · exact fun left => ⟨bridge, published, left⟩
    refine ⟨fun inMetalakes withholds => ?_, fun fault inMetalakes lists loading => ⟨?_, ?_⟩,
      dropped, (get?_reconcileSurvey_eq_none_iff published).trans dropped⟩
    · apply stillPublishes_of_notDesired consistent published
      · rw [wanted]
        rintro ⟨_, ⟨names, listing, _⟩, _⟩
        obtain ⟨fault, failed, _⟩ := withholds
        cases failed.symm.trans listing
      · rw [leaves]
        exact MetadataService.not_disowns_of_withholds inMetalakes withholds
    · apply stillPublishes_of_notDesired consistent published
      · rw [wanted]
        rintro ⟨_, _, definition, loaded, _⟩
        cases loading.symm.trans loaded
      · rw [leaves]
        exact MetadataService.not_disowns_of_notLoaded inMetalakes lists loading
    · -- The failures of the survey are reported beside those of the builds.
      rw [(failed_perm manager _).mem_iff, List.mem_append, List.mem_append]
      exact .inl (.inl (Survey.mem_failed_ofMetalakes_iff.mpr
        ⟨_, inMetalakes, _, lists, loading, placed⟩))

/-- Catalogs in two metalakes. -/
def threeCatalogs : PassRequest :=
  .given [memoryCatalog "lake" "a", memoryCatalog "lake" "b", memoryCatalog "sea" "c"]

/-- The manager after the three catalogs have been created. -/
def afterThree : Manager :=
  (({} : Manager).pass threeCatalogs).2

/-- A service that cannot load the first catalog, does not know the second one, and cannot list
the metalake of the third one. -/
def failingService : MemoryService :=
  (((({} : MemoryService).putCatalog (memoryCatalog "lake" "a")).addMetalake "sea").failLoading
    "lake" "a").failListing "sea"

theorem keyed_failingService : failingService.Keyed :=
  MemoryService.keyed_after [.putCatalog (memoryCatalog "lake" "a"), .addMetalake "sea",
    .failLoading "lake" "a", .failListing "sea"]

/-- Of the three catalogs only the one that the service does not know is dropped. -/
theorem retains_failingService : ∃ first third report,
    afterThree.ledger.registry.get? "lake.a" = some first ∧
    afterThree.ledger.registry.get? "sea.c" = some third ∧
    (afterThree.reconcile (some failingService.questions)).1 = .ok report ∧
    afterThree.StillPublishes (afterThree.reconcile (some failingService.questions)).2
      "lake.a" first ∧
    (∃ fault, ("lake.a", fault) ∈ report.failed) ∧
    afterThree.StillPublishes (afterThree.reconcile (some failingService.questions)).2
      "sea.c" third ∧
    "lake.b" ∈ report.dropped := by
  have start : Reached [] ({} : Manager) := .fresh rfl
  have reached : Reached (({} : Manager).builtBy threeCatalogs) afterThree :=
    start.pass threeCatalogs
  have faithful := MemoryService.faithful_questions keyed_failingService ["lake", "sea"]
  have onlyFirst {metalake : String} {name : QualifiedName} (visited : metalake ∈ ["lake", "sea"])
      (lists : failingService.questions.Lists metalake name) : name = .ofCatalog "lake" "a" := by
    obtain ⟨names, listing, member⟩ := lists
    rcases List.mem_pair.mp visited with rfl | rfl
    · cases listing
      exact List.mem_singleton.mp member
    · cases listing
  have apart : afterThree.KeepsApart failingService.questions ["lake", "sea"] := by
    intro key bridge published metalake visited name lists keyed
    obtain rfl := onlyFirst visited lists
    subst keyed
    cases published
    rfl
  obtain ⟨report, reported, retains⟩ :=
    (retains_reconcile reached failingService.questions).2 _ rfl faithful apart
  have lists : failingService.questions.Lists "lake" (.ofCatalog "lake" "a") :=
    ⟨_, rfl, List.mem_cons_self⟩
  have firstKept := retains "lake.a" _ rfl
  have secondKept := retains "lake.b" _ rfl
  have thirdKept := retains "sea.c" _ rfl
  obtain ⟨stays, failed⟩ := firstKept.notLoaded _ (by decide) lists rfl
  refine ⟨_, _, report, rfl, rfl, reported, stays, ⟨_, failed⟩, ?_, ?_⟩
  · exact thirdKept.withheld (by decide) ⟨_, rfl, by decide⟩
  · exact secondKept.dropped.mpr (.notListed rfl (by decide))

end Passes

end Manager

end CatalogGateway
