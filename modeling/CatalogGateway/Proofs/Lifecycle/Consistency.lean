import CatalogGateway.Proofs.Lifecycle.Accounts

/-!
# Consistency of ledgers

Passes of any number and kind, with constructions that fail or succeed, leave the registry, the
states and the counter of constructions in agreement.  What a pass builds is newer than anything
built before, and what it leaves alone stays the very same.
-/

namespace CatalogGateway

/-- The registry, the states and the counter of a ledger agree. -/
structure Ledger.Consistent (naming : CatalogNaming) (ledger : Ledger) : Prop where
  /-- The active keys are those with something published. -/
  active (key : String) : ledger.stateOf key = .active ↔
    ∃ bridge, ledger.registry.get? key = some bridge
  /-- Nothing is under way. -/
  settled (key : String) : ledger.stateOf key = .active ∨ ledger.stateOf key = .absent ∨
    ledger.stateOf key = .dropped
  placed {key : String} {bridge : Bridge} (published : ledger.registry.get? key = some bridge) :
    naming.keyOf bridge.catalog = key
  counted {key : String} {bridge : Bridge} (published : ledger.registry.get? key = some bridge) :
    bridge.generation ≤ ledger.generation
  /-- No two keys have bridges of the same construction. -/
  distinct {key other : String} {bridge second : Bridge}
    (published : ledger.registry.get? key = some bridge)
    (otherPublished : ledger.registry.get? other = some second)
    (sameGeneration : bridge.generation = second.generation) : key = other

/-- What a pass is asked to bring the published catalogs in line with. -/
inductive PassRequest where
  | given (catalogs : List CatalogDefinition)
  | asked (service : Option MetadataService)

namespace Manager

open Attempt

variable {manager : Manager} {survey : Survey} {key : String} {build : Build}
  {binding : Binding}

/-- The survey that a pass starts from, if there is one. -/
def surveyFor (manager : Manager) : PassRequest → Except Fault Survey
  | .given catalogs => .ok { catalogs }
  | .asked service => manager.survey service

/-- Carry out a pass. -/
def pass (manager : Manager) : PassRequest → Except Fault ReconcileReport × Manager
  | .given catalogs => ((.ok (manager.reconcileWith catalogs).1),
      (manager.reconcileWith catalogs).2)
  | .asked service => manager.reconcile service

theorem pass_eq (manager : Manager) (request : PassRequest) :
    manager.pass request = match manager.surveyFor request with
      | .error fault => (.error fault, manager)
      | .ok survey => (.ok (manager.reconcileSurvey survey).1,
          (manager.reconcileSurvey survey).2) := by
  cases request with
  | given catalogs => rfl
  | asked service => rfl

/-- The bridges that a pass over a survey builds. -/
def builtFrom (manager : Manager) (survey : Survey) : List Bridge :=
  (successes (manager.attempts survey)).map fun success => success.2.bridge

/-- The bridges that a pass builds. -/
def builtBy (manager : Manager) (request : PassRequest) : List Bridge :=
  match manager.surveyFor request with
  | .error _ => []
  | .ok survey => manager.builtFrom survey

/-- A pass calls for a replacement of what is published under a key, and its construction
fails. -/
def FailsToReload (manager : Manager) (request : PassRequest) (key : String) : Prop :=
  ∃ survey build fault, manager.surveyFor request = .ok survey ∧
    (build, .error fault) ∈ manager.attempts survey ∧ build.reload = true ∧ build.key = key

/-- A manager after passes, with the bridges that they built.  Anything but what is published
may change between them, so that any construction of the next pass may fail. -/
inductive Reached : List Bridge → Manager → Prop where
  | fresh {manager : Manager} (unused : manager.ledger = {}) : Reached [] manager
  | pass {earlier : List Bridge} {manager : Manager} (reached : Reached earlier manager)
      (request : PassRequest) :
      Reached (earlier ++ manager.builtBy request) (manager.pass request).2
  | meanwhile {earlier : List Bridge} {manager next : Manager}
      (reached : Reached earlier manager) (ledger : next.ledger = manager.ledger)
      (naming : next.config.naming = manager.config.naming) : Reached earlier next

theorem generation_reconcileSurvey : (manager.reconcileSurvey survey).2.ledger.generation =
    (manager.ledger.announce
      (manager.ledger.buildsFor (manager.desired survey).entries)).generation := by
  rw [ledger_reconcileSurvey, Ledger.generation_foldl_drop]
  rfl

theorem generation_le_reconcileSurvey :
    manager.ledger.generation ≤ (manager.reconcileSurvey survey).2.ledger.generation := by
  rw [generation_reconcileSurvey]
  exact Ledger.le_generation_announce Ledger.generations_buildsFor List.mem_cons_self

/-- What is built is newer than the counter before, and counted afterwards. -/
theorem generation_of_built (built : (build, .ok binding) ∈ manager.attempts survey) :
    manager.ledger.generation < binding.bridge.generation ∧
      binding.bridge.generation ≤ (manager.reconcileSurvey survey).2.ledger.generation := by
  have called : build.generation ∈ (manager.ledger.buildsFor
      (manager.desired survey).entries).map Build.generation := by
    rw [← map_fst_attempts]
    exact List.mem_map_of_mem (List.mem_map.mpr ⟨_, built, rfl⟩)
  rw [((warranted built).yields binding rfl).2, generation_reconcileSurvey]
  exact ⟨(List.pairwise_cons.mp Ledger.generations_buildsFor).1 _ called,
    Ledger.le_generation_announce Ledger.generations_buildsFor (List.mem_cons_of_mem _ called)⟩

theorem attempt_unique_generation {first second : Attempt}
    (firstMember : first ∈ manager.attempts survey)
    (secondMember : second ∈ manager.attempts survey)
    (sameGeneration : first.1.generation = second.1.generation) : first = second := by
  have distinct : ((manager.attempts survey).map fun attempt => attempt.1.generation).Nodup := by
    have ascend : ((manager.ledger.buildsFor (manager.desired survey).entries).map
        Build.generation).Pairwise (· < ·) :=
      (List.pairwise_cons.mp Ledger.generations_buildsFor).2
    rw [← map_fst_attempts, List.map_map] at ascend
    exact ascend.imp Nat.ne_of_lt
  exact List.inj_on_of_nodup_map distinct firstMember secondMember sameGeneration

/-- What is published after a pass was built in it or published before. -/
theorem origin_of_published {bridge : Bridge}
    (published : (manager.reconcileSurvey survey).2.ledger.registry.get? key = some bridge) :
    (∃ build binding, (build, .ok binding) ∈ manager.attempts survey ∧ build.key = key ∧
      binding.bridge = bridge) ∨ manager.ledger.registry.get? key = some bridge := by
  have fate := fate_reconcileSurvey manager survey key
  generalize same : (manager.reconcileSurvey survey).2.ledger.slot key = slot at fate
  have held : slot.bridge? = some bridge := same ▸ published
  cases fate with
  | built attempted keyed => exact .inl ⟨_, _, attempted, keyed, Option.some.inj held⟩
  | failed _ _ => exact .inr held
  | kept _ _ => exact .inr held
  | dropped _ _ => cases held

/-- A key is active with something published, or at rest with nothing. -/
theorem Fate.atRest {slot : Slot} (fate : manager.Fate survey key slot)
    (consistent : manager.ledger.Consistent manager.config.naming) :
    (slot.state = .active ↔ ∃ bridge, slot.bridge? = some bridge) ∧
      (slot.state = .active ∨ slot.state = .absent ∨ slot.state = .dropped) := by
  cases fate with
  | built _ _ => exact ⟨iff_of_true rfl ⟨_, rfl⟩, .inl rfl⟩
  | failed _ _ =>
      by_cases published : manager.ledger.registry.contains key = true
      · rw [if_pos published]
        exact ⟨iff_of_true rfl (Option.isSome_iff_exists.mp published), .inl rfl⟩
      · rw [if_neg published]
        exact ⟨iff_of_false nofun fun held => published (Option.isSome_iff_exists.mpr held),
          .inr (.inl rfl)⟩
  | kept _ _ => exact ⟨consistent.active key, consistent.settled key⟩
  | dropped _ _ => exact ⟨iff_of_false nofun nofun, .inr (.inr rfl)⟩

/-- A pass leaves a ledger consistent. -/
theorem consistent_reconcileSurvey
    (consistent : manager.ledger.Consistent manager.config.naming) (survey : Survey) :
    (manager.reconcileSurvey survey).2.ledger.Consistent manager.config.naming where
  active key := ((fate_reconcileSurvey manager survey key).atRest consistent).1
  settled key := ((fate_reconcileSurvey manager survey key).atRest consistent).2
  placed published := by
    rcases origin_of_published published with ⟨build, binding, built, rfl, rfl⟩ | before
    · rw [((warranted built).yields binding rfl).1]
      exact (CatalogNaming.of_first?_eq_some
        (desired_eq_some_iff.mp (warranted built).wanted)).2.2
    · exact consistent.placed before
  counted published := by
    rcases origin_of_published published with ⟨build, binding, built, rfl, rfl⟩ | before
    · exact (generation_of_built built).2
    · exact Nat.le_trans (consistent.counted before) generation_le_reconcileSurvey
  distinct published otherPublished sameGeneration := by
    rcases origin_of_published published with ⟨build, binding, built, rfl, rfl⟩ | before
    · rcases origin_of_published otherPublished with
        ⟨build', binding', built', rfl, rfl⟩ | otherBefore
      · have generation := ((warranted built).yields binding rfl).2
        have generation' := ((warranted built').yields binding' rfl).2
        have same := attempt_unique_generation built built'
          (generation.symm.trans (sameGeneration.trans generation'))
        rw [(Prod.mk.inj same).1]
      · have newer := (generation_of_built built).1
        have older := consistent.counted otherBefore
        omega
    · rcases origin_of_published otherPublished with
        ⟨build', binding', built', rfl, rfl⟩ | otherBefore
      · have newer := (generation_of_built built').1
        have older := consistent.counted before
        omega
      · exact consistent.distinct before otherBefore sameGeneration

/-- What is published before and after a pass keeps its connector. -/
theorem binding?_reconcileSurvey {bridge : Bridge}
    (consistent : manager.ledger.Consistent manager.config.naming)
    (published : manager.ledger.registry.get? key = some bridge)
    (stays : (manager.reconcileSurvey survey).2.ledger.registry.get? key = some bridge) :
    (manager.reconcileSurvey survey).2.binding? bridge = manager.binding? bridge := by
  have inUse : (manager.reconcileSurvey survey).2.isInUse bridge.generation = true := by
    rw [isInUse, List.any_append, Bool.or_eq_true]
    exact .inl (List.any_eq_true.mpr ⟨bridge, List.mem_map_of_mem
      (Dictionary.get?_eq_some_iff.mp stays), decide_eq_true rfl⟩)
  -- What was built is newer, and so not what is looked for.
  have notBuilt : (((successes (manager.attempts survey)).map Prod.snd).find? fun binding =>
      binding.bridge.generation = bridge.generation) = none := by
    rw [List.find?_eq_none]
    intro binding member
    obtain ⟨⟨build, _⟩, succeeded, rfl⟩ := List.mem_map.mp member
    have newer := (generation_of_built (mem_successes_iff.mp succeeded)).1
    have older := consistent.counted published
    simp only [decide_eq_true_eq]
    omega
  have sought : (fun binding : Binding => decide
      ((manager.reconcileSurvey survey).2.isInUse binding.bridge.generation = true ∧
        decide (binding.bridge.generation = bridge.generation) = true)) =
      fun binding => decide (binding.bridge.generation = bridge.generation) := by
    funext binding
    by_cases same : binding.bridge.generation = bridge.generation
    · simp [same, inUse]
    · simp [same]
  rw [binding?, bindings_reconcileSurvey, List.find?_filter, sought, List.find?_append, notBuilt,
    Option.or_none, binding?]

theorem Reached.consistent {earlier : List Bridge} (reached : Reached earlier manager) :
    manager.ledger.Consistent manager.config.naming ∧
      ∀ bridge ∈ earlier, bridge.generation ≤ manager.ledger.generation := by
  -- The bound on what was built earlier goes through each pass with the counter.
  induction reached with
  | @fresh manager unused =>
      rw [unused]
      refine ⟨⟨fun _ => iff_of_false nofun nofun, fun _ => .inr (.inl rfl), nofun, nofun, nofun⟩,
        nofun⟩
  | @pass earlier manager reached request ih =>
      obtain ⟨consistent, counted⟩ := ih
      rw [pass_eq, builtBy]
      cases manager.surveyFor request with
      | error fault =>
          rw [List.append_nil]
          exact ⟨consistent, counted⟩
      | ok survey =>
          refine ⟨config_reconcileSurvey manager survey ▸
            consistent_reconcileSurvey consistent survey, fun bridge member => ?_⟩
          rcases List.mem_append.mp member with before | built
          · exact Nat.le_trans (counted bridge before) generation_le_reconcileSurvey
          · obtain ⟨⟨build, binding⟩, succeeded, rfl⟩ := List.mem_map.mp built
            exact (generation_of_built (mem_successes_iff.mp succeeded)).2
  | @meanwhile earlier manager next reached ledger naming ih =>
      rw [ledger, naming]
      exact ih

theorem get?_reconcileSurvey_of_failed {fault : Fault}
    (attempted : (build, .error fault) ∈ manager.attempts survey) :
    (manager.reconcileSurvey survey).2.ledger.registry.get? build.key =
      manager.ledger.registry.get? build.key :=
  get?_reconcileSurvey_of_notBuilt (warranted attempted).wanted fun _ _ built sameKey =>
    nomatch congrArg Prod.snd (attempt_unique built attempted sameKey)

theorem get?_reconcileSurvey_of_serves {bridge : Bridge} {catalog : CatalogDefinition}
    (published : manager.ledger.registry.get? key = some bridge)
    (wanted : (manager.desired survey).get? key = some catalog)
    (serves : bridge.catalog.sameDefinition catalog = true) :
    (manager.reconcileSurvey survey).2.ledger.registry.get? key = some bridge := by
  rw [← published]
  refine get?_reconcileSurvey_of_notBuilt wanted ?_
  rintro build binding attempted rfl
  cases wanted.symm.trans (warranted attempted).wanted
  have notServed := (warranted attempted).notServed
  rw [serves_iff.mpr ⟨bridge, published, serves⟩] at notServed
  cases notServed

/-- After any passes, one more pass leaves the ledger consistent, builds nothing but what is
newer than all that was built before, and keeps what it fails to reload or reports unchanged,
with its connector. -/
theorem consistent_pass {earlier : List Bridge} (reached : Reached earlier manager)
    (request : PassRequest) :
    (manager.pass request).2.ledger.Consistent (manager.pass request).2.config.naming ∧
    (∀ bridge ∈ manager.builtBy request, ∀ old ∈ earlier,
      old.generation < bridge.generation) ∧
    ∀ key, manager.FailsToReload request key ∨
        (∃ report, (manager.pass request).1 = .ok report ∧ key ∈ report.unchanged) →
      ∃ bridge, manager.ledger.registry.get? key = some bridge ∧
        (manager.pass request).2.ledger.registry.get? key = some bridge ∧
        (manager.pass request).2.binding? bridge = manager.binding? bridge := by
  obtain ⟨consistent, counted⟩ := reached.consistent
  refine ⟨(reached.pass request).consistent.1, ?_, ?_⟩
  · intro bridge built old before
    rw [builtBy] at built
    cases surveyed : manager.surveyFor request with
    | error fault =>
        rw [surveyed] at built
        cases built
    | ok survey =>
        rw [surveyed] at built
        obtain ⟨⟨build, binding⟩, succeeded, rfl⟩ := List.mem_map.mp built
        exact Nat.lt_of_le_of_lt (counted old before)
          (generation_of_built (mem_successes_iff.mp succeeded)).1
  · intro key keeps
    rw [pass_eq] at keeps ⊢
    cases surveyed : manager.surveyFor request with
    | error fault =>
        rw [surveyed] at keeps
        rcases keeps with ⟨_, _, _, surveyedToo, _⟩ | ⟨_, reported, _⟩
        · cases surveyed.symm.trans surveyedToo
        · cases reported
    | ok survey =>
        rw [surveyed] at keeps
        rcases keeps with ⟨_, build, fault, surveyedToo, attempted, reload, rfl⟩ |
          ⟨_, ⟨rfl⟩, unchanged⟩
        · cases surveyed.symm.trans surveyedToo
          obtain ⟨bridge, published⟩ :=
            Option.isSome_iff_exists.mp ((warranted attempted).reload ▸ reload)
          have stays := (get?_reconcileSurvey_of_failed attempted).trans published
          exact ⟨bridge, published, stays, binding?_reconcileSurvey consistent published stays⟩
        · obtain ⟨bridge, catalog, published, first, serves⟩ :=
            mem_servedKeys_iff.mp ((unchanged_perm manager survey).mem_iff.mp unchanged)
          have stays := get?_reconcileSurvey_of_serves published
            (desired_eq_some_iff.mpr first) serves
          exact ⟨bridge, published, stays, binding?_reconcileSurvey consistent published stays⟩

/-- A catalog in memory. -/
def memoryCatalog (metalake name : String) : CatalogDefinition where
  metalake := metalake
  name := name
  provider := "memory"

/-- Two catalogs are new. -/
def firstRequest : PassRequest :=
  .given [memoryCatalog "lake" "a", memoryCatalog "lake" "b"]

/-- One of the two catalogs has got a limit that cannot be read, and a third one is new. -/
def secondRequest : PassRequest :=
  .given [
    { memoryCatalog "lake" "a" with
      properties := Dictionary.empty.insert ConnectorFactory.maxTablesKey "-1" },
    memoryCatalog "lake" "b", memoryCatalog "lake" "c"]

/-- The manager after the two catalogs have been created. -/
def afterFirst : Manager :=
  (({} : Manager).pass firstRequest).2

theorem config_afterFirst : afterFirst.config = {} :=
  config_reconcileSurvey {} _

theorem providers_afterFirst : afterFirst.providers = .defaults :=
  providers_reconcileSurvey {} _

/-- A catalog fails to be reloaded while another one is created. -/
theorem consistent_failedReload :
    Reached (({} : Manager).builtBy firstRequest) afterFirst ∧
    afterFirst.FailsToReload secondRequest "lake.a" ∧
    (afterFirst.pass secondRequest).2.ledger.Consistent
      (afterFirst.pass secondRequest).2.config.naming ∧
    (∀ bridge ∈ afterFirst.builtBy secondRequest,
      ∀ old ∈ ({} : Manager).builtBy firstRequest, old.generation < bridge.generation) ∧
    ∃ bridge, afterFirst.ledger.registry.get? "lake.a" = some bridge ∧
      (afterFirst.pass secondRequest).2.ledger.registry.get? "lake.a" = some bridge := by
  have start : Reached [] ({} : Manager) := .fresh rfl
  have reached : Reached (({} : Manager).builtBy firstRequest) afterFirst :=
    start.pass firstRequest
  have failed : afterFirst.FailsToReload secondRequest "lake.a" :=
    ⟨_, _, _, rfl, .head _, rfl, rfl⟩
  obtain ⟨consistent, newer, keeps⟩ := consistent_pass reached secondRequest
  obtain ⟨bridge, before, after, _⟩ := keeps "lake.a" (.inl failed)
  exact ⟨reached, failed, consistent, newer, bridge, before, after⟩

end Manager

end CatalogGateway
