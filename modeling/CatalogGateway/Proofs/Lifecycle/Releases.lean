import CatalogGateway.Proofs.Lifecycle.Consistency
import Mathlib.Data.List.Dedup

/-!
# Releases of connectors

A connector is made for each bridge that is built and counted as made.  A release shuts down the
connectors of the bridges that are neither published nor held any more, and counts each of them
once.
-/

namespace CatalogGateway

/-- The number of a provider's bridges. -/
def Bridge.countOf (provider : String) (bridges : List Bridge) : Nat :=
  bridges.countP fun bridge => bridge.catalog.provider = provider

/-- The counts with so many more connectors made and shut down. -/
def Tally.plus (tally : Tally) (created shutDown : Nat) : Tally :=
  ⟨tally.created + created, tally.shutDown + shutDown⟩

theorem Tally.plus_plus (tally : Tally) (created shutDown more others : Nat) :
    (tally.plus created shutDown).plus more others =
      tally.plus (created + more) (shutDown + others) := by
  simp only [plus, Nat.add_assoc]

open Bridge (countOf)

@[simp]
theorem Bridge.countOf_append (provider : String) (bridges others : List Bridge) :
    countOf provider (bridges ++ others) = countOf provider bridges + countOf provider others :=
  List.countP_append

theorem Bridge.countOf_cons (provider : String) (bridge : Bridge) (rest : List Bridge) :
    countOf provider (bridge :: rest) =
      countOf provider rest + if bridge.catalog.provider = provider then 1 else 0 := by
  simp [countOf, List.countP_cons]

theorem Bridge.countOf_perm (provider : String) {bridges others : List Bridge}
    (perm : bridges.Perm others) : countOf provider bridges = countOf provider others :=
  perm.countP_eq _

namespace Manager

open Attempt

variable {manager : Manager} {survey : Survey} {key : String}

/-- The bridges that have a connector. -/
def bound (manager : Manager) : List Bridge :=
  manager.bindings.map Binding.bridge

/-- The bridges that are published or held. -/
def used (manager : Manager) : List Bridge :=
  manager.ledger.registry.values ++ manager.held.values

/-- The bridges that have a connector and are neither published nor held. -/
def unused (manager : Manager) : List Bridge :=
  manager.bound.filter fun bridge => !manager.isInUse bridge.generation

theorem isInUse_iff {generation : Nat} : manager.isInUse generation = true ↔
    ∃ bridge ∈ manager.used, bridge.generation = generation := by
  simp only [isInUse, used, List.any_eq_true, decide_eq_true_eq]

theorem live_eq_countOf (manager : Manager) (provider : String) :
    manager.live provider = countOf provider manager.bound := by
  rw [live, ← List.countP_eq_length_filter, countOf, bound, List.countP_map]
  rfl

theorem bound_release (manager : Manager) :
    manager.release.bound = manager.bound.filter fun bridge =>
      manager.isInUse bridge.generation := by
  obtain ⟨_, _, released⟩ := exists_release_eq manager
  rw [released, bound, bound, List.filter_map]
  rfl

theorem bound_release_perm (manager : Manager) :
    (manager.release.bound ++ manager.unused).Perm manager.bound := by
  rw [bound_release]
  exact List.filter_append_perm _ _

theorem ledger_release (manager : Manager) : manager.release.ledger = manager.ledger := by
  obtain ⟨_, _, released⟩ := exists_release_eq manager
  rw [released]

theorem config_release (manager : Manager) : manager.release.config = manager.config := by
  obtain ⟨_, _, released⟩ := exists_release_eq manager
  rw [released]

theorem used_release (manager : Manager) : manager.release.used = manager.used := by
  obtain ⟨_, _, released⟩ := exists_release_eq manager
  rw [released]
  rfl

theorem providers_release (manager : Manager) : manager.release.providers = manager.providers := by
  obtain ⟨_, _, released⟩ := exists_release_eq manager
  rw [released]

section Tallies

/-- A step that counts so much for the provider of each binding counts it for all of them. -/
theorem tally_foldl {step : Manager → Binding → Manager} {created shutDown : Nat}
    (counts : ∀ manager binding other, (step manager binding).tally other =
      if other = binding.bridge.catalog.provider then (manager.tally other).plus created shutDown
      else manager.tally other)
    (bindings : List Binding) (manager : Manager) (provider : String) :
    (bindings.foldl step manager).tally provider = (manager.tally provider).plus
      (created * countOf provider (bindings.map Binding.bridge))
      (shutDown * countOf provider (bindings.map Binding.bridge)) := by
  induction bindings generalizing manager with
  | nil => rfl
  | cons binding rest ih =>
      rw [List.foldl_cons, ih, counts, List.map_cons, Bridge.countOf_cons]
      by_cases same : provider = binding.bridge.catalog.provider
      · rw [if_pos same, if_pos same.symm, Tally.plus_plus, Nat.mul_succ, Nat.mul_succ,
          Nat.add_comm created, Nat.add_comm shutDown]
      · rw [if_neg same, if_neg (Ne.symm same), Nat.add_zero]

theorem tally_countCreated (manager : Manager) (provider other : String) :
    (manager.countCreated provider).tally other =
      if other = provider then (manager.tally other).plus 1 0 else manager.tally other := by
  simp only [tally, countCreated, Dictionary.get?_insert]
  split
  · subst other
    rfl
  · rfl

theorem tally_countShutDown (manager : Manager) (provider other : String) (times : Nat) :
    (manager.countShutDown provider times).tally other =
      if other = provider then (manager.tally other).plus 0 times else manager.tally other := by
  simp only [tally, countShutDown, Dictionary.get?_insert]
  split
  · subst other
    rfl
  · rfl

/-- A release shuts down what has a connector and is not used. -/
theorem tally_release (manager : Manager) (provider : String) :
    manager.release.tally provider =
      (manager.tally provider).plus 0 (countOf provider manager.unused) := by
  rw [release, List.partition_eq_filter_filter]
  refine (tally_foldl (fun current binding other => tally_countShutDown current _ other 1)
    _ _ provider).trans ?_
  rw [Nat.zero_mul, Nat.one_mul, unused, bound, List.filter_map]
  rfl

/-- A pass counts what it builds as made. -/
theorem tally_unreleased (manager : Manager) (survey : Survey) (provider : String) :
    (manager.unreleased survey).tally provider =
      (manager.tally provider).plus (countOf provider (manager.builtFrom survey)) 0 := by
  refine (tally_foldl (fun current binding other => tally_countCreated current _ other)
    _ _ provider).trans ?_
  rw [Nat.zero_mul, Nat.one_mul, builtFrom, List.map_map]
  rfl

end Tallies

end Manager

end CatalogGateway
