import CatalogGateway.Proofs.Lifecycle.Constructions
import CatalogGateway.Proofs.Lifecycle.Selection
import CatalogGateway.Proofs.Lifecycle.Settlement
import Mathlib.Data.List.Nodup

/-!
# Fates of keys

What a whole pass does, key by key.  A key of an attempt that succeeds has a new bridge, one of
an attempt that fails keeps what it had, and the others keep what they had or are dropped.
-/

namespace CatalogGateway

/-- What a ledger has under a key. -/
structure Slot where
  bridge? : Option Bridge
  state : CatalogState

def Ledger.slot (ledger : Ledger) (key : String) : Slot :=
  ⟨ledger.registry.get? key, ledger.stateOf key⟩

theorem Ledger.slot_eq_slot_iff {ledger other : Ledger} {key : String} :
    ledger.slot key = other.slot key ↔
      ledger.registry.get? key = other.registry.get? key ∧
        ledger.stateOf key = other.stateOf key := by
  rw [Ledger.slot, Ledger.slot, Slot.mk.injEq]

namespace Manager

open Attempt

variable {manager : Manager} {survey : Survey} {key : String} {build : Build}
  {outcome : Except Fault Binding} {catalog : CatalogDefinition}

/-- The catalogs that a pass is to publish, under their keys. -/
def desired (manager : Manager) (survey : Survey) : Dictionary CatalogDefinition :=
  (Ledger.select manager.config.naming survey.catalogs .empty).1

/-- The constructions of a pass with their outcomes. -/
def attempts (manager : Manager) (survey : Survey) : List Attempt :=
  let begun := manager.beginPass survey
  begun.builds.zip (begun.constructAll begun.disk begun.builds).1

/-- Whether a published bridge outlives a pass. -/
def outlives (manager : Manager) (survey : Survey) (key : String) (bridge : Bridge) : Bool :=
  Ledger.isKept (manager.desired survey) survey.retained key bridge

/-- What a pass may make of what there is under a key. -/
inductive Fate (manager : Manager) (survey : Survey) (key : String) : Slot → Prop where
  | built {build : Build} {binding : Binding}
      (attempted : (build, .ok binding) ∈ manager.attempts survey) (keyed : build.key = key) :
      Fate manager survey key ⟨some binding.bridge, .active⟩
  | failed {build : Build} {fault : Fault}
      (attempted : (build, .error fault) ∈ manager.attempts survey) (keyed : build.key = key) :
      Fate manager survey key ⟨manager.ledger.registry.get? key,
        if manager.ledger.registry.contains key then .active else .absent⟩
  | kept (notAttempted : ∀ attempt ∈ manager.attempts survey, attempt.1.key ≠ key)
      (stays : ∀ bridge, manager.ledger.registry.get? key = some bridge →
        manager.outlives survey key bridge = true) :
      Fate manager survey key (manager.ledger.slot key)
  | dropped {bridge : Bridge} (published : manager.ledger.registry.get? key = some bridge)
      (leaves : manager.outlives survey key bridge = false) :
      Fate manager survey key ⟨none, .dropped⟩

theorem yields_attempts :
    List.Forall₂ Yields (manager.ledger.buildsFor (manager.desired survey).entries)
      ((manager.beginPass survey).constructAll (manager.beginPass survey).disk
        (manager.beginPass survey).builds).1 :=
  yields_constructAll _

theorem map_fst_attempts : (manager.attempts survey).map Prod.fst =
    manager.ledger.buildsFor (manager.desired survey).entries :=
  List.map_fst_zip (Nat.le_of_eq yields_attempts.length_eq)

theorem keys_attempts : ((manager.attempts survey).map fun attempt => attempt.1.key) =
    ((manager.desired survey).entries.filter fun entry =>
      !manager.ledger.serves entry.1 entry.2).map Prod.fst := by
  rw [← Ledger.map_key_buildsFor, ← map_fst_attempts, List.map_map]
  rfl

theorem keys_attempts_nodup :
    ((manager.attempts survey).map fun attempt => attempt.1.key).Nodup :=
  keys_attempts ▸ (manager.desired survey).keys_nodup.sublist (List.filter_sublist.map _)

theorem attempt_unique {first second : Attempt} (firstMember : first ∈ manager.attempts survey)
    (secondMember : second ∈ manager.attempts survey) (sameKey : first.1.key = second.1.key) :
    first = second :=
  List.inj_on_of_nodup_map keys_attempts_nodup firstMember secondMember sameKey

theorem desired_eq_some_iff : (manager.desired survey).get? key = some catalog ↔
    manager.config.naming.first? survey.catalogs key = some catalog := by
  rw [desired, Ledger.get?_desired]

/-- A desired catalog that is not served calls for an attempt, which gives a fault or a bridge of
the catalog. -/
structure Warranted (manager : Manager) (survey : Survey) (build : Build)
    (outcome : Except Fault Binding) : Prop where
  wanted : (manager.desired survey).get? build.key = some build.catalog
  notServed : manager.ledger.serves build.key build.catalog = false
  reload : build.reload = manager.ledger.registry.contains build.key
  yields : Yields build outcome

theorem warranted (attempted : (build, outcome) ∈ manager.attempts survey) :
    manager.Warranted survey build outcome := by
  have called : build ∈ manager.ledger.buildsFor (manager.desired survey).entries :=
    map_fst_attempts ▸ List.mem_map.mpr ⟨_, attempted, rfl⟩
  obtain ⟨member, notServed, reload⟩ := Ledger.mem_buildsFor called
  exact ⟨Dictionary.get?_eq_some_iff.mpr member, notServed, reload,
    List.forall₂_zip yields_attempts attempted⟩

theorem exists_attempt (wanted : (manager.desired survey).get? key = some catalog)
    (notServed : manager.ledger.serves key catalog = false) :
    ∃ build outcome, (build, outcome) ∈ manager.attempts survey ∧ build.key = key := by
  have called : key ∈ (manager.attempts survey).map fun attempt => attempt.1.key := by
    rw [keys_attempts]
    exact List.mem_map.mpr ⟨(key, catalog), List.mem_filter.mpr
      ⟨Dictionary.get?_eq_some_iff.mp wanted, by simp [notServed]⟩, rfl⟩
  obtain ⟨⟨build, outcome⟩, attempted, keyed⟩ := List.mem_map.mp called
  exact ⟨build, outcome, attempted, keyed⟩

/-- The ledger of a pass whose constructions have ended, before anything is dropped. -/
def settledLedger (manager : Manager) (survey : Survey) : Ledger :=
  (manager.beginPass survey).ledger.settled (manager.attempts survey)

/-- The keys that a pass drops. -/
def dropped (manager : Manager) (survey : Survey) : List String :=
  Ledger.droppedKeys (manager.settledLedger survey).registry
    (manager.ledger.beginPass manager.config.naming survey).1

/-- The keys of the desired catalogs that are served already. -/
def servedKeys (manager : Manager) (survey : Survey) : List String :=
  ((manager.desired survey).entries.filter fun entry =>
    manager.ledger.serves entry.1 entry.2).map Prod.fst

/-- Counting connectors that were made or shut down changes nothing but the counts. -/
theorem foldl_count (step : Manager → Binding → Manager)
    (counts : ∀ manager binding, ∃ tallies, step manager binding = { manager with tallies })
    (bindings : List Binding) (manager : Manager) :
    ∃ tallies, bindings.foldl step manager = { manager with tallies } := by
  induction bindings generalizing manager with
  | nil => exact ⟨manager.tallies, rfl⟩
  | cons binding rest ih =>
      obtain ⟨_, counted⟩ := counts manager binding
      rw [List.foldl_cons, counted]
      exact ih _

/-- A release keeps what is in use. -/
theorem exists_release_eq (manager : Manager) :
    ∃ disk tallies, manager.release = { manager with
      disk, tallies
      bindings := manager.bindings.filter fun binding =>
        manager.isInUse binding.bridge.generation } := by
  rw [release, List.partition_eq_filter_filter]
  obtain ⟨tallies, counted⟩ := foldl_count
    (fun current binding => current.countShutDown binding.bridge.catalog.provider 1)
    (fun _ _ => ⟨_, rfl⟩) _ _
  exact ⟨_, tallies, counted⟩

/-- A manager at the end of a pass, before the release of what is no longer in use. -/
def unreleased (manager : Manager) (survey : Survey) : Manager :=
  let begun := manager.beginPass survey
  let built := (successes (manager.attempts survey)).map Prod.snd
  { built.foldl (fun current binding => current.countCreated binding.bridge.catalog.provider)
      begun with
    ledger := (manager.dropped survey).foldl Ledger.drop (manager.settledLedger survey)
    bindings := manager.bindings ++ built
    disk := (begun.constructAll begun.disk begun.builds).2
    underWay := none }

theorem reconcileSurvey_eq_release (manager : Manager) (survey : Survey) :
    (manager.reconcileSurvey survey).2 = (manager.unreleased survey).release := by
  let begun := manager.beginPass survey
  let ended := begun.constructAll begun.disk begun.builds
  let result := begun.ledger.endPass
    (manager.ledger.beginPass manager.config.naming survey).1 ended.1
  have settled : result = _ := Ledger.endPass_eq _ _ _
  have left : (manager.reconcileSurvey survey).2 = release
      { result.built.foldl (fun current binding =>
          current.countCreated binding.bridge.catalog.provider) begun with
        ledger := result.ledger
        bindings := begun.bindings ++ result.built
        disk := ended.2
        underWay := none } := rfl
  rw [settled] at left
  exact left

theorem exists_unreleased_eq (manager : Manager) (survey : Survey) :
    ∃ disk tallies, manager.unreleased survey = { manager with
      ledger := (manager.dropped survey).foldl Ledger.drop (manager.settledLedger survey)
      disk, tallies
      bindings := manager.bindings ++ (successes (manager.attempts survey)).map Prod.snd
      underWay := none } := by
  obtain ⟨tallies, counted⟩ := foldl_count
    (fun current binding => current.countCreated binding.bridge.catalog.provider)
    (fun _ _ => ⟨_, rfl⟩) ((successes (manager.attempts survey)).map Prod.snd)
    (manager.beginPass survey)
  rw [unreleased, counted]
  exact ⟨_, tallies, rfl⟩

/-- What a pass leaves of a manager: nothing but the ledger decides which bindings are kept. -/
theorem exists_reconcileSurvey_eq (manager : Manager) (survey : Survey) :
    ∃ disk tallies,
      let ledger := (manager.dropped survey).foldl Ledger.drop (manager.settledLedger survey)
      (manager.reconcileSurvey survey).2 = { manager with
        ledger, disk, tallies
        bindings := (manager.bindings ++
          (successes (manager.attempts survey)).map Prod.snd).filter fun binding =>
            { manager with ledger }.isInUse binding.bridge.generation
        underWay := none } := by
  obtain ⟨_, _, counted⟩ := exists_unreleased_eq manager survey
  obtain ⟨disk, tallies, released⟩ := exists_release_eq (manager.unreleased survey)
  rw [reconcileSurvey_eq_release, released, counted]
  exact ⟨disk, tallies, rfl⟩

theorem ledger_reconcileSurvey (manager : Manager) (survey : Survey) :
    (manager.reconcileSurvey survey).2.ledger =
      (manager.dropped survey).foldl Ledger.drop (manager.settledLedger survey) := by
  obtain ⟨_, _, left⟩ := exists_reconcileSurvey_eq manager survey
  rw [left]

/-- The bindings after a pass are those before and those built, as far as they are in use. -/
theorem bindings_reconcileSurvey (manager : Manager) (survey : Survey) :
    (manager.reconcileSurvey survey).2.bindings =
      (manager.bindings ++ (successes (manager.attempts survey)).map Prod.snd).filter
        fun binding =>
          (manager.reconcileSurvey survey).2.isInUse binding.bridge.generation := by
  obtain ⟨_, _, left⟩ := exists_reconcileSurvey_eq manager survey
  rw [left]
  rfl

theorem config_reconcileSurvey (manager : Manager) (survey : Survey) :
    (manager.reconcileSurvey survey).2.config = manager.config := by
  obtain ⟨_, _, left⟩ := exists_reconcileSurvey_eq manager survey
  rw [left]

theorem providers_reconcileSurvey (manager : Manager) (survey : Survey) :
    (manager.reconcileSurvey survey).2.providers = manager.providers := by
  obtain ⟨_, _, left⟩ := exists_reconcileSurvey_eq manager survey
  rw [left]

theorem report_reconcileSurvey (manager : Manager) (survey : Survey) :
    (manager.reconcileSurvey survey).1 = ReconcileReport.sorted {
      created := keysBuilt (manager.attempts survey) false
      reloaded := keysBuilt (manager.attempts survey) true
      dropped := manager.dropped survey
      unchanged := manager.servedKeys survey
      failed := survey.failed ++
        (Ledger.select manager.config.naming survey.catalogs .empty).2 ++
        faults (manager.attempts survey) } :=
  congrArg PassResult.report (Ledger.endPass_eq _ _ _)

theorem outlives_of_desired (wanted : (manager.desired survey).get? key = some catalog)
    (bridge : Bridge) : manager.outlives survey key bridge = true := by
  simp [outlives, Ledger.isKept, Dictionary.contains, wanted]

theorem get?_settled_of_built {binding : Binding}
    (attempted : (build, .ok binding) ∈ manager.attempts survey) :
    (manager.settledLedger survey).registry.get? build.key = some binding.bridge := by
  have distinct : ((published (manager.attempts survey)).map Prod.fst).Nodup := by
    rw [published, List.map_map]
    exact keys_successes_nodup keys_attempts_nodup
  have found : (published (manager.attempts survey)).lookup build.key = some binding.bridge :=
    (Dictionary.lookup_eq_some_iff distinct).mpr
      (mem_published_iff.mpr ⟨build, binding, attempted, rfl, rfl⟩)
  rw [settledLedger, Ledger.settled, Dictionary.get?_insertMany distinct, found, Option.some_or]

theorem get?_settled_of_notBuilt
    (notBuilt : ∀ build binding, (build, .ok binding) ∈ manager.attempts survey →
      build.key ≠ key) :
    (manager.settledLedger survey).registry.get? key = manager.ledger.registry.get? key := by
  have absent : key ∉ (published (manager.attempts survey)).map Prod.fst := by
    intro member
    obtain ⟨⟨_, bridge⟩, isPublished, rfl⟩ := List.mem_map.mp member
    obtain ⟨build, binding, attempted, keyed, _⟩ := mem_published_iff.mp isPublished
    exact notBuilt build binding attempted keyed
  rw [settledLedger, Ledger.settled, Dictionary.get?_insertMany_of_notMem absent, beginPass]
  exact congrArg (Dictionary.get? · key) Ledger.registry_announce

theorem stateOf_settled_of_attempted {attempt : Attempt}
    (attempted : attempt ∈ manager.attempts survey) :
    (manager.settledLedger survey).stateOf attempt.1.key = attempt.state := by
  have distinct : (((manager.attempts survey).map fun attempt =>
      (attempt.1.key, attempt.state)).map Prod.fst).Nodup := by
    rw [List.map_map]
    exact keys_attempts_nodup
  have found := (Dictionary.lookup_eq_some_iff distinct).mpr
    (List.mem_map.mpr ⟨attempt, attempted, rfl⟩)
  rw [settledLedger, Ledger.settled, Ledger.stateOf, Dictionary.get?_insertMany distinct, found]
  rfl

theorem stateOf_settled_of_notAttempted
    (notAttempted : ∀ attempt ∈ manager.attempts survey, attempt.1.key ≠ key) :
    (manager.settledLedger survey).stateOf key = manager.ledger.stateOf key := by
  have absent : key ∉ ((manager.attempts survey).map fun attempt =>
      (attempt.1.key, attempt.state)).map Prod.fst := by
    rw [List.map_map]
    intro member
    obtain ⟨attempt, attempted, keyed⟩ := List.mem_map.mp member
    exact notAttempted attempt attempted keyed
  have notCalled : key ∉ (manager.ledger.buildsFor (manager.desired survey).entries).map
      Build.key := by
    rw [← map_fst_attempts, List.map_map]
    intro member
    obtain ⟨attempt, attempted, keyed⟩ := List.mem_map.mp member
    exact notAttempted attempt attempted keyed
  rw [settledLedger, Ledger.settled, Ledger.stateOf, Dictionary.get?_insertMany_of_notMem absent]
  exact Ledger.stateOf_announce notCalled

/-- A key is dropped if what was published under it does not outlive the pass. -/
theorem mem_dropped_iff : key ∈ manager.dropped survey ↔
    ∃ bridge, manager.ledger.registry.get? key = some bridge ∧
      manager.outlives survey key bridge = false := by
  rw [dropped, Ledger.mem_droppedKeys_iff]
  by_cases built : ∃ build binding, (build, .ok binding) ∈ manager.attempts survey ∧
      build.key = key
  · -- What was built is desired, so both sides fail.
    obtain ⟨build, binding, attempted, rfl⟩ := built
    have stays (published : Bridge → Prop) :
        ¬ ∃ bridge, published bridge ∧ manager.outlives survey build.key bridge = false := by
      rintro ⟨bridge, _, leaves⟩
      rw [outlives_of_desired (warranted attempted).wanted] at leaves
      cases leaves
    exact iff_of_false (stays _) (stays _)
  · push Not at built
    rw [get?_settled_of_notBuilt built]
    rfl

theorem not_dropped_of_desired (wanted : (manager.desired survey).get? key = some catalog) :
    key ∉ manager.dropped survey := by
  rw [mem_dropped_iff]
  rintro ⟨bridge, _, leaves⟩
  rw [outlives_of_desired wanted] at leaves
  cases leaves

theorem get?_reconcileSurvey_of_built {binding : Binding}
    (attempted : (build, .ok binding) ∈ manager.attempts survey) :
    (manager.reconcileSurvey survey).2.ledger.registry.get? build.key = some binding.bridge := by
  have stays := not_dropped_of_desired (warranted attempted).wanted
  rw [ledger_reconcileSurvey, Ledger.get?_foldl_drop, if_neg stays,
    get?_settled_of_built attempted]

/-- Under a desired key for which nothing was built stays what was published. -/
theorem get?_reconcileSurvey_of_notBuilt
    (wanted : (manager.desired survey).get? key = some catalog)
    (notBuilt : ∀ build binding, (build, .ok binding) ∈ manager.attempts survey →
      build.key ≠ key) :
    (manager.reconcileSurvey survey).2.ledger.registry.get? key =
      manager.ledger.registry.get? key := by
  rw [ledger_reconcileSurvey, Ledger.get?_foldl_drop, if_neg (not_dropped_of_desired wanted),
    get?_settled_of_notBuilt notBuilt]

/-- A pass makes of each key one of its fates. -/
theorem fate_reconcileSurvey (manager : Manager) (survey : Survey) (key : String) :
    manager.Fate survey key ((manager.reconcileSurvey survey).2.ledger.slot key) := by
  rw [ledger_reconcileSurvey, Ledger.slot, Ledger.get?_foldl_drop, Ledger.stateOf_foldl_drop]
  by_cases leaves : key ∈ manager.dropped survey
  · obtain ⟨bridge, published, notKept⟩ := mem_dropped_iff.mp leaves
    rw [if_pos leaves, if_pos leaves]
    exact .dropped published notKept
  · rw [if_neg leaves, if_neg leaves]
    -- The attempt at a key is the only one, so its outcome decides.
    by_cases attempted : ∃ attempt ∈ manager.attempts survey, attempt.1.key = key
    · obtain ⟨⟨build, outcome⟩, attempted, rfl⟩ := attempted
      rw [stateOf_settled_of_attempted attempted]
      cases outcome with
      | ok binding =>
          rw [get?_settled_of_built attempted]
          exact .built attempted rfl
      | error fault =>
          rw [get?_settled_of_notBuilt fun other binding built sameKey =>
            nomatch congrArg Prod.snd (attempt_unique built attempted sameKey)]
          have fate : manager.Fate survey build.key _ := .failed attempted rfl
          rwa [← (warranted attempted).reload] at fate
    · push Not at attempted
      rw [stateOf_settled_of_notAttempted attempted,
        get?_settled_of_notBuilt fun build binding built => attempted _ built]
      refine .kept attempted fun bridge published => ?_
      rw [mem_dropped_iff, not_exists] at leaves
      simpa [published] using leaves bridge

end Manager

end CatalogGateway
