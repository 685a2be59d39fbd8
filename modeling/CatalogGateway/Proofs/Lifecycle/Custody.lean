import CatalogGateway.Proofs.Catalog.ReadBack
import CatalogGateway.Proofs.Lifecycle.Releases

/-!
# Custody of connectors

Passes and callers take turns at a manager.  After each of their steps every bridge that was ever
built either has its connector, and is published or held, or has been given up, which was counted
as a shutdown.
-/

namespace CatalogGateway

/-- A pass, or what a caller does between passes. -/
inductive LifecycleStep where
  | pass (request : PassRequest)
  /-- Resolve a key and hold what is published, under a label. -/
  | hold (key label : String)
  | letGo (label : String)
  /-- Carry out an operation on a catalog that is held. -/
  | use (label : String) (request : CatalogRequest)

open Bridge (countOf)

namespace Manager

open Attempt

variable {manager : Manager} {built ended : List Bridge} {provider key : String} {bridge : Bridge}

/-- Carry out an operation on the catalog that is held under a label, if there is one. -/
def use (manager : Manager) (label : String) (request : CatalogRequest) : Manager :=
  match (manager.held.get? label).bind manager.binding? with
  | none => manager
  | some binding =>
    let (_, next, disk) := binding.serve manager.disk request
    manager.putBack next disk

/-- The manager after a step. -/
def take (manager : Manager) : LifecycleStep → Manager
  | .pass request => (manager.pass request).2
  | .hold key label =>
    match manager.hold key label with
    | .error _ => manager
    | .ok next => next
  | .letGo label => (manager.letGo label).2
  | .use label request => manager.use label request

/-- The bridges that a step builds. -/
def builtIn (manager : Manager) : LifecycleStep → List Bridge
  | .pass request => manager.builtBy request
  | .hold _ _ | .letGo _ | .use _ _ => []

/-- The bridges that have a connector and have none after a step. -/
def endedIn (manager : Manager) (step : LifecycleStep) : List Bridge :=
  (manager.bound ++ manager.builtIn step).filter fun bridge =>
    bridge ∉ (manager.take step).bound

/-- A manager that steps lead to from a new one, with the bridges that were built and those whose
connectors are gone. -/
inductive Ran : List Bridge → List Bridge → Manager → Prop where
  | fresh (config : LifecycleConfig) (providers : ProviderRegistry) (disk : Disk) :
      Ran [] [] { config, providers, disk }
  | step {built ended : List Bridge} {manager : Manager} (ran : Ran built ended manager)
      (step : LifecycleStep) :
      Ran (built ++ manager.builtIn step) (ended ++ manager.endedIn step) (manager.take step)

theorem Ran.exists_foldl (ran : Ran built ended manager) (steps : List LifecycleStep) :
    ∃ built ended, Ran built ended (steps.foldl take manager) := by
  induction steps generalizing built ended manager with
  | nil => exact ⟨built, ended, ran⟩
  | cons step rest ih => exact ih (ran.step step)

/-- What was built is accounted for, and so are the connectors made and shut down. -/
structure Custody (built ended : List Bridge) (manager : Manager) : Prop where
  reached : Reached built manager
  /-- The connector of what was built is there or gone. -/
  account : (manager.bound ++ ended).Perm built
  distinct : (built.map Bridge.generation).Nodup
  /-- What is published or held has its connector. -/
  covered : manager.used ⊆ manager.bound
  tallies (provider : String) :
    manager.tally provider = ⟨countOf provider built, countOf provider ended⟩

/-- Nothing has its connector but what is published or held. -/
structure Owned (built ended : List Bridge) (manager : Manager) : Prop
    extends Custody built ended manager where
  needed : manager.bound ⊆ manager.used

namespace Custody

theorem eq_of_generation (custody : Custody built ended manager) {first second : Bridge}
    (isBound : first ∈ manager.bound) (otherBound : second ∈ manager.bound)
    (same : first.generation = second.generation) : first = second :=
  List.inj_on_of_nodup_map custody.distinct
    (custody.account.mem_iff.mp (List.mem_append_left _ isBound))
    (custody.account.mem_iff.mp (List.mem_append_left _ otherBound)) same

/-- A release gives up what is not used, and nothing else. -/
theorem release (custody : Custody built ended manager) :
    Owned built (ended ++ manager.unused) manager.release where
  reached := custody.reached.meanwhile manager.ledger_release
    (congrArg LifecycleConfig.naming manager.config_release)
  account := by
    have moved : (manager.release.bound ++ (ended ++ manager.unused)).Perm
        (manager.release.bound ++ manager.unused ++ ended) := by
      rw [List.append_assoc]
      exact List.perm_append_comm.append_left _
    exact moved.trans ((manager.bound_release_perm.append_right _).trans custody.account)
  distinct := custody.distinct
  covered := by
    intro bridge isUsed
    rw [used_release] at isUsed
    rw [bound_release, List.mem_filter, isInUse_iff]
    exact ⟨custody.covered isUsed, bridge, isUsed, rfl⟩
  tallies provider := by
    rw [tally_release, custody.tallies, Bridge.countOf_append]
    rfl
  needed := by
    intro bridge stays
    rw [bound_release, List.mem_filter, isInUse_iff] at stays
    obtain ⟨isBound, other, isUsed, same⟩ := stays
    rw [used_release, ← custody.eq_of_generation (custody.covered isUsed) isBound same]
    exact isUsed

end Custody

theorem filter_notMem_release (manager : Manager) :
    (manager.bound.filter fun bridge => bridge ∉ manager.release.bound) = manager.unused := by
  refine List.filter_congr fun bridge isBound => ?_
  rw [bound_release]
  simp [isBound]

theorem Owned.step_release {next : Manager} {step : LifecycleStep}
    (custody : Custody (built ++ manager.builtIn step) ended next)
    (bound : next.bound = manager.bound ++ manager.builtIn step)
    (taken : manager.take step = next.release) :
    Owned (built ++ manager.builtIn step) (ended ++ manager.endedIn step) (manager.take step) := by
  rw [endedIn, ← bound, taken, filter_notMem_release]
  exact custody.release

theorem Owned.step_bound {step : LifecycleStep} (owned : Owned built ended (manager.take step))
    (nothing : manager.builtIn step = []) (bound : (manager.take step).bound = manager.bound) :
    Owned (built ++ manager.builtIn step) (ended ++ manager.endedIn step) (manager.take step) := by
  have none : manager.endedIn step = [] := by
    rw [endedIn, nothing, bound, List.append_nil, List.filter_eq_nil_iff]
    simp
  rwa [none, nothing, List.append_nil, List.append_nil]

section Passes

variable {survey : Survey} {request : PassRequest}

theorem bound_unreleased (manager : Manager) (survey : Survey) :
    (manager.unreleased survey).bound = manager.bound ++ manager.builtFrom survey := by
  obtain ⟨_, _, left⟩ := exists_unreleased_eq manager survey
  rw [left, bound, List.map_append, List.map_map]
  rfl

theorem held_reconcileSurvey (manager : Manager) (survey : Survey) :
    (manager.reconcileSurvey survey).2.held = manager.held := by
  obtain ⟨_, _, left⟩ := exists_reconcileSurvey_eq manager survey
  rw [left]

theorem used_unreleased (manager : Manager) (survey : Survey) :
    (manager.unreleased survey).used = (manager.reconcileSurvey survey).2.used := by
  rw [reconcileSurvey_eq_release, used_release]

theorem mem_builtFrom_iff : bridge ∈ manager.builtFrom survey ↔
    ∃ build binding, (build, .ok binding) ∈ manager.attempts survey ∧
      binding.bridge = bridge := by
  simp [builtFrom, mem_successes_iff]

/-- A pass builds no two bridges under one number. -/
theorem generations_builtFrom_nodup (manager : Manager) (survey : Survey) :
    ((manager.builtFrom survey).map Bridge.generation).Nodup := by
  have distinct : ((successes (manager.attempts survey)).map fun success =>
      success.1.key).Nodup := keys_successes_nodup keys_attempts_nodup
  rw [builtFrom, List.map_map]
  refine (distinct.of_map _).map_on ?_
  rintro ⟨build, binding⟩ succeeded ⟨other, second⟩ otherSucceeded same
  have attempted := mem_successes_iff.mp succeeded
  have otherAttempted := mem_successes_iff.mp otherSucceeded
  have generation := ((warranted attempted).yields binding rfl).2
  have otherGeneration := ((warranted otherAttempted).yields second rfl).2
  have one := attempt_unique_generation attempted otherAttempted
    (generation.symm.trans (same.trans otherGeneration))
  cases one
  rfl

/-- At the end of a pass all that was built and all that was there is accounted for. -/
theorem Custody.unreleased (custody : Custody built ended manager)
    (surveyed : manager.surveyFor request = .ok survey) :
    Custody (built ++ manager.builtFrom survey) ended (manager.unreleased survey) where
  reached := by
    have passed := custody.reached.pass request
    rw [builtBy, pass_eq, surveyed] at passed
    refine passed.meanwhile ?_ ?_
    · rw [reconcileSurvey_eq_release, ledger_release]
    · rw [reconcileSurvey_eq_release, config_release]
  account := by
    rw [bound_unreleased, List.append_assoc]
    have moved : (manager.bound ++ (manager.builtFrom survey ++ ended)).Perm
        (manager.bound ++ ended ++ manager.builtFrom survey) := by
      rw [List.append_assoc]
      exact List.perm_append_comm.append_left _
    exact moved.trans (custody.account.append_right _)
  distinct := by
    obtain ⟨_, counted⟩ := custody.reached.consistent
    rw [List.map_append, List.nodup_append]
    refine ⟨custody.distinct, generations_builtFrom_nodup manager survey, ?_⟩
    -- The ledger has counted the numbers of all that was built, and builds under later ones.
    intro generation before other isNew same
    obtain ⟨old, wasBuilt, rfl⟩ := List.mem_map.mp before
    obtain ⟨new, isBuilt, rfl⟩ := List.mem_map.mp isNew
    obtain ⟨build, binding, attempted, rfl⟩ := mem_builtFrom_iff.mp isBuilt
    have newer := (generation_of_built attempted).1
    have older := counted old wasBuilt
    omega
  covered := by
    intro bridge isUsed
    rw [used_unreleased, used, List.mem_append, held_reconcileSurvey] at isUsed
    rw [bound_unreleased, List.mem_append]
    rcases isUsed with isPublished | isHeld
    · obtain ⟨key, published⟩ := Dictionary.mem_values_iff.mp isPublished
      rcases origin_of_published published with ⟨build, binding, attempted, _, same⟩ | before
      · exact Or.inr (mem_builtFrom_iff.mpr ⟨build, binding, attempted, same⟩)
      · exact Or.inl (custody.covered (List.mem_append_left _
          (Dictionary.mem_values_iff.mpr ⟨key, before⟩)))
    · exact Or.inl (custody.covered (List.mem_append_right _ isHeld))
  tallies provider := by
    rw [tally_unreleased, custody.tallies, Bridge.countOf_append]
    rfl

end Passes

section Callers

/-- What callers hold may change as long as it has its connectors. -/
theorem Custody.hold (custody : Custody built ended manager) {held : Dictionary Bridge}
    (covered : held.values ⊆ manager.bound) : Custody built ended { manager with held } where
  reached := custody.reached.meanwhile rfl rfl
  account := custody.account
  distinct := custody.distinct
  covered := List.append_subset.mpr
    ⟨(List.append_subset.mp custody.covered).1, covered⟩
  tallies := custody.tallies

theorem Custody.held_subset (custody : Custody built ended manager) :
    manager.held.values ⊆ manager.bound :=
  (List.append_subset.mp custody.covered).2

theorem Owned.step_held (owned : Owned built ended manager) {step : LifecycleStep}
    {held : Dictionary Bridge} (covered : held.values ⊆ manager.bound)
    (nothing : manager.builtIn step = [])
    (taken : manager.take step = release { manager with held }) :
    Owned (built ++ manager.builtIn step) (ended ++ manager.endedIn step) (manager.take step) := by
  have custody := owned.toCustody.hold covered
  rw [← List.append_nil built, ← nothing] at custody
  have bound : manager.bound = manager.bound ++ manager.builtIn step := by
    rw [nothing, List.append_nil]
  exact step_release custody bound taken

/-- An operation neither changes a bridge nor ends the use of its connector. -/
theorem kept_serve (binding : Binding) (disk : Disk) (request : CatalogRequest) :
    (binding.serve disk request).2.1.bridge = binding.bridge ∧
      (binding.serve disk request).2.1.connector.shutdowns = binding.connector.shutdowns := by
  rcases served : binding.serve disk request with ⟨fault | reply, next, nextDisk⟩
  · obtain ⟨rfl, _⟩ := Binding.serve_eq_error served
    exact ⟨rfl, rfl⟩
  · exact ⟨Binding.bridge_of_serve served,
      (Binding.isOpen_serve served).trans (Binding.isOpen_of_serve served).symm⟩

theorem of_binding?_eq_some {binding : Binding} (found : manager.binding? bridge = some binding) :
    binding ∈ manager.bindings ∧ manager.binding? binding.bridge = some binding := by
  have same : binding.bridge.generation = bridge.generation := by
    simpa using List.find?_some found
  refine ⟨List.mem_of_find?_eq_some found, ?_⟩
  rw [binding?, same]
  exact found

/-- To put back a binding whose connector is in use as it was changes no counts and no bridges. -/
theorem Custody.putBack (custody : Custody built ended manager) {binding next : Binding}
    (found : manager.binding? binding.bridge = some binding)
    (sameBridge : next.bridge = binding.bridge)
    (sameShutdowns : next.connector.shutdowns = binding.connector.shutdowns) (disk : Disk) :
    (manager.putBack next disk).bound = manager.bound ∧
      Custody built ended (manager.putBack next disk) := by
  have member := (of_binding?_eq_some found).1
  -- A binding under the same number is of the same bridge, so no other one is replaced.
  have bounds : (manager.putBack next disk).bound = manager.bound := by
    simp only [Manager.putBack, bound, List.map_map]
    refine List.map_congr_left fun present isThere => ?_
    by_cases same : present.bridge.generation = next.bridge.generation
    · have isBound : present.bridge ∈ manager.bound := List.mem_map_of_mem isThere
      rw [sameBridge] at same
      rw [Function.comp_apply, if_pos (sameBridge ▸ same), sameBridge]
      exact (custody.eq_of_generation isBound (List.mem_map_of_mem member) same).symm
    · rw [Function.comp_apply, if_neg same]
  have tallies (provider : String) :
      (manager.putBack next disk).tally provider = manager.tally provider := by
    refine (manager.tally_countShutDown next.bridge.catalog.provider provider _).trans ?_
    rw [sameBridge, found, Option.elim_some, sameShutdowns, Nat.sub_self]
    split <;> rfl
  exact ⟨bounds, {
    reached := custody.reached.meanwhile rfl rfl
    account := bounds ▸ custody.account
    distinct := custody.distinct
    covered := bounds ▸ custody.covered
    tallies := fun provider => (tallies provider).trans (custody.tallies provider) }⟩

theorem Custody.use (custody : Custody built ended manager) (label : String)
    (request : CatalogRequest) :
    (manager.use label request).bound = manager.bound ∧
      Custody built ended (manager.use label request) := by
  rw [Manager.use]
  split
  · exact ⟨rfl, custody⟩
  · rename_i binding found
    obtain ⟨_, _, found⟩ := Option.bind_eq_some_iff.mp found
    obtain ⟨sameBridge, sameShutdowns⟩ := kept_serve binding manager.disk request
    exact custody.putBack (of_binding?_eq_some found).2 sameBridge sameShutdowns _

theorem used_use (manager : Manager) (label : String) (request : CatalogRequest) :
    (manager.use label request).used = manager.used := by
  rw [use]
  split <;> rfl

end Callers

theorem Owned.step_pass (owned : Owned built ended manager) (request : PassRequest) :
    Owned (built ++ manager.builtIn (.pass request)) (ended ++ manager.endedIn (.pass request))
      (manager.take (.pass request)) := by
  cases surveyed : manager.surveyFor request with
  | error fault =>
      have stays : manager.take (.pass request) = manager := by
        rw [take, pass_eq, surveyed]
      have nothing : manager.builtIn (.pass request) = [] := by
        rw [builtIn, builtBy, surveyed]
      exact step_bound (stays.symm ▸ owned) nothing (by rw [stays])
  | ok survey =>
      have builds : manager.builtIn (.pass request) = manager.builtFrom survey := by
        rw [builtIn, builtBy, surveyed]
      have taken : manager.take (.pass request) = (manager.unreleased survey).release := by
        rw [take, pass_eq, surveyed, ← reconcileSurvey_eq_release]
      refine step_release ?_ (builds ▸ manager.bound_unreleased survey) taken
      exact builds ▸ owned.toCustody.unreleased surveyed

theorem Owned.step_hold (owned : Owned built ended manager) (key label : String) :
    Owned (built ++ manager.builtIn (.hold key label))
      (ended ++ manager.endedIn (.hold key label)) (manager.take (.hold key label)) := by
  cases resolved : manager.ledger.resolve key with
  | error fault =>
      have stays : manager.take (.hold key label) = manager := by
        rw [take, Manager.hold, resolved]
        rfl
      exact step_bound (stays.symm ▸ owned) rfl (by rw [stays])
  | ok bridge =>
      have taken : manager.take (.hold key label) =
          release { manager with held := manager.held.insert label bridge } := by
        rw [take, Manager.hold, resolved]
        rfl
      have published : bridge ∈ manager.ledger.registry.values := by
        rw [Ledger.resolve] at resolved
        split at resolved
        · cases resolved
          exact Dictionary.mem_values_iff.mpr ⟨key, ‹_›⟩
        · cases resolved
      have isBound : bridge ∈ manager.bound := owned.covered (List.mem_append_left _ published)
      have covered : (manager.held.insert label bridge).values ⊆ manager.bound :=
        List.Subset.trans (Dictionary.values_insert_subset _ _ _)
          (List.cons_subset.mpr ⟨isBound, owned.toCustody.held_subset⟩)
      exact owned.step_held covered rfl taken

/-- A step keeps everything accounted for. -/
theorem Owned.step (owned : Owned built ended manager) (step : LifecycleStep) :
    Owned (built ++ manager.builtIn step) (ended ++ manager.endedIn step)
      (manager.take step) := by
  -- What changes the registry or the callers ends in a release, which restores `needed`.
  cases step with
  | pass request => exact owned.step_pass request
  | hold key label => exact owned.step_hold key label
  | letGo label =>
      have covered : (manager.held.erase label).values ⊆ manager.bound :=
        List.Subset.trans (Dictionary.values_erase_subset _ _) owned.toCustody.held_subset
      exact owned.step_held covered rfl rfl
  | use label request =>
      obtain ⟨bound, custody⟩ := owned.toCustody.use label request
      refine step_bound ⟨custody, ?_⟩ rfl bound
      show (manager.use label request).bound ⊆ (manager.use label request).used
      rw [bound, used_use]
      exact owned.needed

theorem Ran.owned (ran : Ran built ended manager) : Owned built ended manager := by
  induction ran with
  | fresh config providers disk =>
      exact {
        reached := .fresh rfl
        account := .nil
        distinct := List.nodup_nil
        covered := List.Subset.refl _
        tallies := fun _ => rfl
        needed := List.Subset.refl _ }
  | step _ step ih => exact ih.step step

end Manager

end CatalogGateway
