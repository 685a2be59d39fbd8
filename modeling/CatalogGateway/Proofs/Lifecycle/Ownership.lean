import CatalogGateway.Proofs.Lifecycle.Custody
import CatalogGateway.Proofs.Lifecycle.Steadiness

/-!
# Ownership of connectors

A bridge that is built goes from the pass that builds it to the registry, and to the callers that
hold it.  Whatever order passes and callers come in, its connector is shut down once, when neither
the registry nor a caller has the bridge any more.
-/

namespace CatalogGateway

open Bridge (countOf)

namespace Manager

open Attempt

variable {manager : Manager} {built ended : List Bridge} {provider key : String} {bridge : Bridge}

/-- What a pass drops or reloads is not published under its key any more. -/
theorem not_published_of_replaced {survey : Survey}
    (consistent : manager.ledger.Consistent manager.config.naming)
    (published : manager.ledger.registry.get? key = some bridge)
    (replaced : key ∈ (manager.reconcileSurvey survey).1.dropped ∨
      key ∈ (manager.reconcileSurvey survey).1.reloaded) :
    (manager.reconcileSurvey survey).2.ledger.registry.get? key ≠ some bridge := by
  intro stays
  rcases replaced with isDropped | isReloaded
  · have leaves := (dropped_perm manager survey).mem_iff.mp isDropped
    rw [ledger_reconcileSurvey, Ledger.get?_foldl_drop, if_pos leaves] at stays
    cases stays
  · obtain ⟨build, binding, attempted, _, rfl⟩ := mem_reloaded_iff.mp isReloaded
    rw [get?_reconcileSurvey_of_built attempted] at stays
    cases stays
    have newer := (generation_of_built attempted).1
    have older := consistent.counted published
    omega

/-- What is published after a pass and was there before was published under the same key. -/
theorem eq_of_published_reconcileSurvey {survey : Survey} {other : String}
    (consistent : manager.ledger.Consistent manager.config.naming)
    (published : manager.ledger.registry.get? key = some bridge)
    (stays : (manager.reconcileSurvey survey).2.ledger.registry.get? other = some bridge) :
    other = key := by
  rcases origin_of_published stays with ⟨build, binding, attempted, _, rfl⟩ | before
  · have newer := (generation_of_built attempted).1
    have older := consistent.counted published
    omega
  · exact consistent.distinct before published rfl

/-- By the end of a pass the connector of what it drops or reloads is gone, unless a caller holds
the catalog. -/
theorem Owned.ends_replaced (owned : Owned built ended manager) {request : PassRequest}
    {report : ReconcileReport} (passed : (manager.pass request).1 = .ok report)
    (replaced : key ∈ report.dropped ∨ key ∈ report.reloaded) :
    ∃ bridge, manager.ledger.registry.get? key = some bridge ∧
      (bridge ∉ manager.held.values → bridge ∈ manager.endedIn (.pass request)) := by
  have consistent := owned.reached.consistent.1
  have after := owned.step (.pass request)
  rw [pass_eq] at passed
  split at passed
  · cases passed
  · rename_i survey surveyed
    cases passed
    obtain ⟨bridge, published⟩ : ∃ bridge, manager.ledger.registry.get? key = some bridge := by
      rcases replaced with isDropped | isReloaded
      · obtain ⟨bridge, published, _⟩ := mem_dropped_report_iff.mp isDropped
        exact ⟨bridge, published⟩
      · obtain ⟨build, _, attempted, isReload, rfl⟩ := mem_reloaded_iff.mp isReloaded
        rw [(warranted attempted).reload] at isReload
        exact Option.isSome_iff_exists.mp isReload
    refine ⟨bridge, published, fun notHeld => List.mem_filter.mpr ⟨?_, decide_eq_true ?_⟩⟩
    · have isUsed : bridge ∈ manager.used :=
        List.mem_append_left _ (Dictionary.mem_values_iff.mpr ⟨key, published⟩)
      exact List.mem_append_left _ (owned.covered isUsed)
    · -- What has its connector after the pass is published or held then.
      intro isBound
      have taken : manager.take (.pass request) = (manager.reconcileSurvey survey).2 := by
        rw [take, pass_eq, surveyed]
      have isUsed := after.needed isBound
      rw [taken, used, held_reconcileSurvey, List.mem_append] at isUsed
      rcases isUsed with isPublished | isHeld
      · obtain ⟨other, stays⟩ := Dictionary.mem_values_iff.mp isPublished
        obtain rfl := eq_of_published_reconcileSurvey consistent published stays
        exact not_published_of_replaced consistent published replaced stays
      · exact notHeld isHeld

section Tracked

variable {delay : Option Duration}

theorem providers_take (manager : Manager) (step : LifecycleStep) :
    (manager.take step).providers = manager.providers := by
  cases step with
  | pass request =>
      rw [take, pass_eq]
      split
      · rfl
      · exact providers_reconcileSurvey manager _
  | hold key label =>
      rw [take, Manager.hold]
      cases manager.ledger.resolve key with
      | error fault => rfl
      | ok bridge => exact providers_release _
  | letGo label => exact providers_release _
  | use label request =>
      rw [take, use]
      split <;> rfl

theorem providers_foldl_take (manager : Manager) (steps : List LifecycleStep) :
    (steps.foldl take manager).providers = manager.providers := by
  induction steps generalizing manager with
  | nil => rfl
  | cons step rest ih => rw [List.foldl_cons, ih, providers_take]

/-- A plain factory makes connectors that are in use. -/
theorem isOpen_attempt {survey : Survey} {build : Build} {binding : Binding}
    (attempted : (build, .ok binding) ∈ manager.attempts survey)
    (tracked : manager.providers.get? build.catalog.provider = some (.plain delay)) :
    binding.connector.shutdowns = 0 := by
  obtain ⟨disk, made⟩ := exists_construct_eq attempted
  have begun : (manager.beginPass survey).providers = manager.providers := rfl
  rw [construct] at made
  split at made
  · cases made
  · obtain ⟨_, created, rfl⟩ := Outcome.map_eq_ok_iff.mp made.symm
    rw [ProviderRegistry.create, begun, tracked] at created
    cases created
    rfl

theorem mem_bindings_release (manager : Manager) {binding : Binding}
    (member : binding ∈ manager.release.bindings) : binding ∈ manager.bindings := by
  obtain ⟨_, _, released⟩ := exists_release_eq manager
  rw [released] at member
  exact (List.mem_filter.mp member).1

theorem mem_putBack {binding next : Binding} {disk : Disk}
    (member : binding ∈ (manager.putBack next disk).bindings) :
    binding = next ∨ binding ∈ manager.bindings := by
  obtain ⟨present, isThere, rfl⟩ := List.mem_map.mp member
  split
  · exact Or.inl rfl
  · exact Or.inr isThere

theorem of_mem_bindings_reconcileSurvey {survey : Survey} {binding : Binding}
    (member : binding ∈ (manager.reconcileSurvey survey).2.bindings) :
    binding ∈ manager.bindings ∨ ∃ build, (build, .ok binding) ∈ manager.attempts survey := by
  rw [bindings_reconcileSurvey] at member
  rcases List.mem_append.mp (List.mem_filter.mp member).1 with before | isNew
  · exact Or.inl before
  · obtain ⟨⟨build, _⟩, succeeded, rfl⟩ := List.mem_map.mp isNew
    exact Or.inr ⟨build, mem_successes_iff.mp succeeded⟩

theorem exists_of_mem_bindings_use {label : String} {request : CatalogRequest} {binding : Binding}
    (member : binding ∈ (manager.use label request).bindings) :
    ∃ before ∈ manager.bindings, binding.bridge = before.bridge ∧
      binding.connector.shutdowns = before.connector.shutdowns := by
  rw [use] at member
  split at member
  · exact ⟨binding, member, rfl, rfl⟩
  · rename_i used found
    obtain ⟨_, _, found⟩ := Option.bind_eq_some_iff.mp found
    rcases mem_putBack member with rfl | isThere
    · exact ⟨used, (of_binding?_eq_some found).1, kept_serve used manager.disk request⟩
    · exact ⟨binding, isThere, rfl, rfl⟩

/-- A connector that is there after a step is in use. -/
theorem isOpen_take (tracked : manager.providers.get? provider = some (.plain delay))
    (isOpen : ∀ binding ∈ manager.bindings, binding.bridge.catalog.provider = provider →
      binding.connector.shutdowns = 0)
    (step : LifecycleStep) (binding : Binding) (member : binding ∈ (manager.take step).bindings)
    (own : binding.bridge.catalog.provider = provider) : binding.connector.shutdowns = 0 := by
  cases step with
  | pass request =>
      rw [take, pass_eq] at member
      split at member
      · exact isOpen binding member own
      · rcases of_mem_bindings_reconcileSurvey member with before | ⟨build, attempted⟩
        · exact isOpen binding before own
        · rw [((warranted attempted).yields _ rfl).1] at own
          exact isOpen_attempt attempted (own ▸ tracked)
  | hold key label =>
      rw [take, Manager.hold] at member
      cases resolved : manager.ledger.resolve key with
      | error fault =>
          rw [resolved] at member
          exact isOpen binding member own
      | ok bridge =>
          rw [resolved] at member
          exact isOpen binding (mem_bindings_release
            { manager with held := manager.held.insert label bridge } member) own
  | letGo label =>
      exact isOpen binding (mem_bindings_release
        { manager with held := manager.held.erase label } member) own
  | use label request =>
      obtain ⟨before, isThere, sameBridge, sameShutdowns⟩ := exists_of_mem_bindings_use member
      rw [sameBridge] at own
      rw [sameShutdowns]
      exact isOpen before isThere own

theorem Ran.isOpen (ran : Ran built ended manager)
    (tracked : manager.providers.get? provider = some (.plain delay)) :
    ∀ binding ∈ manager.bindings, binding.bridge.catalog.provider = provider →
      binding.connector.shutdowns = 0 := by
  induction ran with
  | fresh => exact fun _ member => absurd member List.not_mem_nil
  | step _ step ih =>
      rw [providers_take] at tracked
      exact isOpen_take tracked (ih tracked) step

end Tracked

/-- The constructions of a provider's catalogs that are published or held. -/
def contexts (manager : Manager) (provider : String) : List Nat :=
  ((manager.used.filter fun bridge => bridge.catalog.provider = provider).map
    Bridge.generation).dedup

/-- How the connectors of a provider are accounted for, when some bridges were built and the
connectors of some of them are gone. -/
structure ReleasesOnce (manager : Manager) (provider : String) (built ended : List Bridge) :
    Prop where
  created : (manager.tally provider).created =
    manager.live provider + (manager.tally provider).shutDown
  live : manager.live provider = (manager.contexts provider).length
  made : (manager.tally provider).created = countOf provider built
  shutDown : (manager.tally provider).shutDown = countOf provider ended
  /-- Each connector that was made is there or was shut down, and no two are of one construction. -/
  once : (manager.bound ++ ended).Perm built ∧ (built.map Bridge.generation).Nodup
  /-- Those that are there were never shut down. -/
  «open» : ∀ binding ∈ manager.bindings, binding.bridge.catalog.provider = provider →
    binding.connector.shutdowns = 0

/-- There is a connector for each construction that is published or held. -/
theorem Owned.live_eq (owned : Owned built ended manager) (provider : String) :
    manager.live provider = (manager.contexts provider).length := by
  let ofProvider (bridge : Bridge) : Bool := bridge.catalog.provider = provider
  have counted : manager.live provider =
      ((manager.bound.filter ofProvider).map Bridge.generation).length := by
    rw [live_eq_countOf, countOf, List.countP_eq_length_filter, List.length_map]
  have distinct : ((manager.bound.filter ofProvider).map Bridge.generation).Nodup := by
    have all := (owned.account.map Bridge.generation).nodup_iff.mpr owned.distinct
    rw [List.map_append] at all
    exact (List.nodup_append.mp all).1.sublist (List.filter_sublist.map _)
  rw [counted, contexts]
  -- Both lists have each number once, and the same numbers, as what is bound is what is used.
  refine ((List.perm_ext_iff_of_nodup distinct (List.nodup_dedup _)).mpr ?_).length_eq
  intro generation
  rw [List.mem_dedup, List.mem_map, List.mem_map]
  refine exists_congr fun bridge => and_congr_left fun _ => ?_
  rw [List.mem_filter, List.mem_filter]
  exact and_congr_left fun _ => ⟨fun isBound => owned.needed isBound,
    fun isUsed => owned.covered isUsed⟩

/-- Whatever passes a manager makes and whatever callers do between them, the connectors of a
provider of plain stores are made and shut down once each, and are in use while their catalogs are
published or held.  A pass ends those of the catalogs that it drops or reloads unless they are
held. -/
theorem releasesOnce_of_ran (ran : Ran built ended manager)
    (tracked : manager.providers.get? provider = some (.plain delay)) :
    manager.ReleasesOnce provider built ended ∧
      ∀ request report key, (manager.pass request).1 = .ok report →
        key ∈ report.dropped ∨ key ∈ report.reloaded →
          ∃ bridge, manager.ledger.registry.get? key = some bridge ∧
            (bridge ∉ manager.held.values → bridge ∈ manager.endedIn (.pass request)) := by
  have owned := ran.owned
  have counts := owned.tallies provider
  refine ⟨{
    created := ?_
    live := owned.live_eq provider
    made := by rw [counts]
    shutDown := by rw [counts]
    once := ⟨owned.account, owned.distinct⟩
    «open» := ran.isOpen tracked }, fun _ _ _ passed => owned.ends_replaced passed⟩
  rw [counts, live_eq_countOf, ← Bridge.countOf_append]
  exact (Bridge.countOf_perm provider owned.account).symm

/-- A catalog of a provider of plain stores. -/
def plainCatalog (name owner : String) : CatalogDefinition where
  metalake := "m"
  name := name
  provider := "tracked"
  properties := .ofList [("owner", owner)]

/-- A manager whose only provider is one of plain stores. -/
def plainManager : Manager where
  providers := .ofList [("tracked", .plain (some ⟨0⟩))]

/-- Two catalogs are built and held, and one of them is let go of after it was reloaded and the
other one was dropped. -/
def turnover : List LifecycleStep := [
  .pass (.given [plainCatalog "a" "x", plainCatalog "b" "x"]),
  .hold "m.a" "first", .hold "m.b" "second", .hold "m.a" "third",
  .use "first" (.createSchema (.ofSchema "m" "a" "s") none .empty),
  .pass (.given [plainCatalog "a" "y"]),
  .letGo "first", .letGo "second", .letGo "third"]

theorem releasesOnce_turnover : ∃ built ended report bridge,
    Ran built ended (turnover.foldl take plainManager) ∧
      (turnover.foldl take plainManager).ReleasesOnce "tracked" built ended ∧
      (turnover.foldl take plainManager).tally "tracked" = ⟨3, 2⟩ ∧
      ((turnover.foldl take plainManager).pass (.given [])).1 = .ok report ∧
      "m.a" ∈ report.dropped ∧
      bridge ∈ (turnover.foldl take plainManager).endedIn (.pass (.given [])) := by
  have fresh : Ran [] [] plainManager := .fresh {} plainManager.providers {}
  obtain ⟨built, ended, ran⟩ := fresh.exists_foldl turnover
  have tracked : (turnover.foldl take plainManager).providers.get? "tracked" =
      some (.plain (some ⟨0⟩)) := by
    rw [providers_foldl_take]
    rfl
  obtain ⟨once, ends⟩ := releasesOnce_of_ran ran tracked
  have counts : (turnover.foldl take plainManager).tally "tracked" = ⟨3, 2⟩ := by
    decide +kernel
  have notHeld : (turnover.foldl take plainManager).held.values = [] := by
    decide +kernel
  have leaves : ((turnover.foldl take plainManager).ledger.registry.get? "m.a").any (fun bridge =>
      !(turnover.foldl take plainManager).outlives {} "m.a" bridge) = true := by
    decide +kernel
  have isDropped : "m.a" ∈ ((turnover.foldl take plainManager).reconcileWith []).1.dropped := by
    rw [Option.any_eq_true] at leaves
    simpa [reconcileWith, mem_dropped_report_iff] using leaves
  obtain ⟨bridge, _, isEnded⟩ := ends (.given []) _ "m.a" rfl (.inl isDropped)
  rw [notHeld] at isEnded
  exact ⟨built, ended, _, bridge, ran, once, counts, rfl, isDropped, isEnded List.not_mem_nil⟩

end Manager

end CatalogGateway
