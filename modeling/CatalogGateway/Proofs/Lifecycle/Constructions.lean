import CatalogGateway.Lifecycle.Manager
import CatalogGateway.Proofs.Dictionary.Lookup
import CatalogGateway.Proofs.Store.Outcome

/-!
# The constructions of a pass

A pass calls for the construction of each desired catalog that is not served already, announces
them with ascending numbers, and carries them out one after another.  A construction that
succeeds gives a bridge of the catalog that was called for, under the number announced; one that
fails says why.
-/

namespace CatalogGateway

namespace Ledger

variable {ledger : Ledger} {desired : List (String × CatalogDefinition)} {build : Build}
  {builds : List Build}

theorem map_entry_buildsFor :
    ((ledger.buildsFor desired).map fun build => (build.key, build.catalog)) =
      desired.filter fun entry => !ledger.serves entry.1 entry.2 :=
  List.ext_getElem (by simp [buildsFor]) fun _ _ _ => by simp [buildsFor]

theorem map_key_buildsFor : (ledger.buildsFor desired).map Build.key =
    (desired.filter fun entry => !ledger.serves entry.1 entry.2).map Prod.fst := by
  rw [← map_entry_buildsFor, List.map_map]
  rfl

theorem mem_buildsFor (called : build ∈ ledger.buildsFor desired) :
    (build.key, build.catalog) ∈ desired ∧ ledger.serves build.key build.catalog = false ∧
      build.reload = ledger.registry.contains build.key := by
  obtain ⟨index, inside, rfl⟩ := List.mem_mapIdx.mp called
  obtain ⟨member, notServed⟩ := List.mem_filter.mp (List.getElem_mem inside)
  exact ⟨member, by simpa using notServed, rfl⟩

/-- The numbers of the constructions ascend from the number of the last one before. -/
theorem generations_buildsFor :
    (ledger.generation :: (ledger.buildsFor desired).map Build.generation).Pairwise (· < ·) := by
  have numbers : (ledger.buildsFor desired).map Build.generation =
      List.range' (ledger.generation + 1) (ledger.buildsFor desired).length :=
    List.ext_getElem (by simp) fun _ _ _ => by simp [buildsFor]; omega
  rw [numbers, ← List.range'_succ]
  exact List.pairwise_lt_range'

theorem announce_cons (build : Build) (rest : List Build) :
    ledger.announce (build :: rest) =
      ({ ledger.setState build.key (if build.reload then .reloading else .loading) with
        generation := build.generation } : Ledger).announce rest :=
  rfl

@[simp]
theorem registry_announce : (ledger.announce builds).registry = ledger.registry := by
  induction builds generalizing ledger with
  | nil => rfl
  | cons build rest ih => exact announce_cons build rest ▸ ih

theorem stateOf_announce {key : String} (notCalled : key ∉ builds.map Build.key) :
    (ledger.announce builds).stateOf key = ledger.stateOf key := by
  induction builds generalizing ledger with
  | nil => rfl
  | cons build rest ih =>
      rw [List.map_cons, List.mem_cons, not_or] at notCalled
      rw [announce_cons, ih notCalled.2, stateOf, stateOf, setState,
        Dictionary.get?_insert_of_ne _ _ notCalled.1]

/-- Announced numbers that ascend are given out afterwards. -/
theorem le_generation_announce {generation : Nat}
    (ascend : (ledger.generation :: builds.map Build.generation).Pairwise (· < ·))
    (member : generation ∈ ledger.generation :: builds.map Build.generation) :
    generation ≤ (ledger.announce builds).generation := by
  induction builds generalizing ledger generation with
  | nil => exact Nat.le_of_eq (List.mem_singleton.mp member)
  | cons build rest ih =>
      rw [announce_cons]
      obtain ⟨below, ascend⟩ := List.pairwise_cons.mp ascend
      rcases List.mem_cons.mp member with rfl | later
      · exact Nat.le_trans (Nat.le_of_lt (below _ List.mem_cons_self))
          (ih ascend List.mem_cons_self)
      · exact ih ascend later

end Ledger

namespace Manager

variable {manager : Manager} {disk nextDisk : Disk} {catalog : CatalogDefinition}
  {generation : Nat} {binding : Binding}

/-- A construction that succeeds gives a bridge of the catalog under the number. -/
theorem construct_eq_ok
    (constructed : manager.construct disk catalog generation = (.ok binding, nextDisk)) :
    binding.bridge.catalog = catalog ∧ binding.bridge.generation = generation := by
  rw [construct] at constructed
  split at constructed
  · cases constructed
  · obtain ⟨made, created, rfl⟩ := Outcome.map_eq_ok_iff.mp (congrArg Prod.fst constructed)
    rw [ProviderRegistry.create] at created
    split at created
    · cases created
    · split at created
      · cases created
        exact ⟨rfl, rfl⟩
      · cases created

/-- A construction that fails takes too long, has no factory, or ends without a connector. -/
theorem construct_eq_error {fault : Fault}
    (failed : (manager.construct disk catalog generation).1 = .error fault) :
    (manager.outlasts catalog manager.config.constructionTimeout = true ∧
      fault = .catalog (.constructionTimeout catalog.fullName catalog.provider
        manager.config.constructionTimeout)) ∨
    (manager.providers.get? catalog.provider = none ∧
      fault = .catalog (.unknownProvider catalog.fullName catalog.provider)) ∨
    ∃ factory failure, manager.providers.get? catalog.provider = some factory ∧
      (factory.connect disk catalog).1 = .error failure ∧
      fault = .catalog (failure.report catalog) := by
  rw [construct] at failed
  split at failed
  · rename_i outlasts
    cases failed
    exact .inl ⟨outlasts, rfl⟩
  · have refused := Outcome.map_eq_error_iff.mp failed
    rw [ProviderRegistry.create] at refused
    split at refused
    · rename_i unknown
      cases refused
      exact .inr (.inl ⟨unknown, rfl⟩)
    · rename_i factory found
      split at refused
      · cases refused
      · rename_i failure _ ended
        cases refused
        exact .inr (.inr ⟨factory, failure, found, congrArg Prod.fst ended, rfl⟩)

/-- What the outcome of a construction may be. -/
def Yields (build : Build) (outcome : Except Fault Binding) : Prop :=
  ∀ binding, outcome = .ok binding →
    binding.bridge.catalog = build.catalog ∧ binding.bridge.generation = build.generation

theorem yields_constructAll (builds : List Build) :
    List.Forall₂ Yields builds (manager.constructAll disk builds).1 := by
  induction builds generalizing disk with
  | nil => exact .nil
  | cons build rest ih =>
      exact .cons (fun binding constructed => construct_eq_ok (Prod.ext constructed rfl)) ih

end Manager

end CatalogGateway
