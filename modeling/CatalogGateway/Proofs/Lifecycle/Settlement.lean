import CatalogGateway.Lifecycle.Pass
import CatalogGateway.Proofs.Dictionary.Lookup

/-!
# The settlement of constructions

When all constructions of a pass have ended, what was built is published, a construction that
failed leaves what was published before, and what is no longer desired is dropped.
-/

namespace CatalogGateway

/-- A construction that a pass called for, with its outcome. -/
abbrev Attempt := Build × Except Fault Binding

namespace Attempt

/-- The state that a construction leaves its catalog in. -/
def state : Attempt → CatalogState
  | (_, .ok _) => .active
  | (build, .error _) => if build.reload then .active else .absent

/-- The constructions that succeed. -/
def successes : List Attempt → List (Build × Binding)
  | [] => []
  | (build, .ok binding) :: rest => (build, binding) :: successes rest
  | (_, .error _) :: rest => successes rest

/-- The constructions that fail. -/
def failures : List Attempt → List (Build × Fault)
  | [] => []
  | (_, .ok _) :: rest => failures rest
  | (build, .error fault) :: rest => (build, fault) :: failures rest

/-- The reasons why constructions failed, under the keys. -/
def faults (attempts : List Attempt) : List (String × Fault) :=
  (failures attempts).map fun failure => (failure.1.key, failure.2)

/-- The bridges that were built, under their keys. -/
def published (attempts : List Attempt) : List (String × Bridge) :=
  (successes attempts).map fun success => (success.1.key, success.2.bridge)

/-- The keys of what was built, anew or in place of something published. -/
def keysBuilt (attempts : List Attempt) (reload : Bool) : List String :=
  ((successes attempts).filter fun success => success.1.reload = reload).map
    fun success => success.1.key

variable {attempts : List Attempt} {key : String}

theorem mem_successes_iff {build : Build} {binding : Binding} :
    (build, binding) ∈ successes attempts ↔ (build, .ok binding) ∈ attempts := by
  induction attempts with
  | nil => simp [successes]
  | cons attempt rest ih =>
      obtain ⟨_, _ | _⟩ := attempt <;> simp [successes, ih]

theorem mem_failures_iff {build : Build} {fault : Fault} :
    (build, fault) ∈ failures attempts ↔ (build, .error fault) ∈ attempts := by
  induction attempts with
  | nil => simp [failures]
  | cons attempt rest ih =>
      obtain ⟨_, _ | _⟩ := attempt <;> simp [failures, ih]

theorem mem_published_iff {bridge : Bridge} : (key, bridge) ∈ published attempts ↔
    ∃ build binding, (build, .ok binding) ∈ attempts ∧ build.key = key ∧
      binding.bridge = bridge := by
  simp [published, mem_successes_iff]

theorem mem_keysBuilt_iff {reload : Bool} : key ∈ keysBuilt attempts reload ↔
    ∃ build binding, (build, .ok binding) ∈ attempts ∧ build.reload = reload ∧
      build.key = key := by
  simp [keysBuilt, mem_successes_iff, and_assoc]

theorem keysBuilt_perm (attempts : List Attempt) :
    (keysBuilt attempts false ++ keysBuilt attempts true).Perm
      ((successes attempts).map fun success => success.1.key) := by
  rw [keysBuilt, keysBuilt, ← List.map_append]
  refine List.Perm.map _ (List.perm_append_comm.trans ?_)
  simpa using List.filter_append_perm (fun success => success.1.reload) (successes attempts)

theorem keys_perm (attempts : List Attempt) :
    (((successes attempts).map fun success => success.1.key) ++
      (faults attempts).map Prod.fst).Perm (attempts.map fun attempt => attempt.1.key) := by
  induction attempts with
  | nil => exact .nil
  | cons attempt rest ih =>
      obtain ⟨build, fault | binding⟩ := attempt
      · exact List.perm_middle.trans (ih.cons _)
      · exact ih.cons _

theorem keys_successes_nodup (distinct : (attempts.map fun attempt => attempt.1.key).Nodup) :
    ((successes attempts).map fun success => success.1.key).Nodup :=
  (List.nodup_append.mp ((keys_perm attempts).nodup_iff.mpr distinct)).1

end Attempt

namespace Ledger

open Attempt

variable {ledger : Ledger} {opened : OpenPass} {outcomes : List (Except Fault Binding)}
  {key : String}

/-- What the settlement of attempts makes of what there was. -/
theorem foldl_settle (attempts : List Attempt) (result : PassResult) :
    attempts.foldl (fun result attempt => settle result attempt.1 attempt.2) result = {
      ledger := {
        result.ledger with
        registry := result.ledger.registry.insertMany (published attempts)
        states := result.ledger.states.insertMany
          (attempts.map fun attempt => (attempt.1.key, attempt.state)) }
      report := {
        result.report with
        created := result.report.created ++ keysBuilt attempts false
        reloaded := result.report.reloaded ++ keysBuilt attempts true
        failed := result.report.failed ++ faults attempts }
      built := result.built ++ (successes attempts).map Prod.snd } := by
  induction attempts generalizing result with
  | nil => simp [published, keysBuilt, successes, faults, failures, Dictionary.insertMany]
  | cons attempt rest ih =>
      rw [List.foldl_cons, ih]
      obtain ⟨build, fault | binding⟩ := attempt
      · simp [settle, setState, published, keysBuilt, faults, successes, failures, state,
          Dictionary.insertMany]
      · cases reloads : build.reload <;>
          simp [settle, setState, published, keysBuilt, faults, successes, failures, state,
            reloads, Dictionary.insertMany]

/-- The keys of a registry that a pass drops. -/
def droppedKeys (registry : Dictionary Bridge) (opened : OpenPass) : List String :=
  (registry.entries.filter fun entry =>
    !isKept opened.desired opened.retained entry.1 entry.2).map Prod.fst

theorem mem_droppedKeys_iff {registry : Dictionary Bridge} :
    key ∈ droppedKeys registry opened ↔ ∃ bridge, registry.get? key = some bridge ∧
      isKept opened.desired opened.retained key bridge = false := by
  simp [droppedKeys, Dictionary.get?_eq_some_iff]

theorem droppedKeys_nodup (registry : Dictionary Bridge) :
    (droppedKeys registry opened).Nodup :=
  registry.keys_nodup.sublist (List.filter_sublist.map _)

/-- The ledger after the settlement of attempts, before anything is dropped. -/
def settled (ledger : Ledger) (attempts : List Attempt) : Ledger :=
  { ledger with
    registry := ledger.registry.insertMany (published attempts)
    states := ledger.states.insertMany
      (attempts.map fun attempt => (attempt.1.key, attempt.state)) }

theorem endPass_eq (ledger : Ledger) (opened : OpenPass)
    (outcomes : List (Except Fault Binding)) :
    ledger.endPass opened outcomes =
      let attempts := opened.builds.zip outcomes
      let dropped := droppedKeys (ledger.settled attempts).registry opened
      { ledger := dropped.foldl drop (ledger.settled attempts)
        report := ReconcileReport.sorted {
          created := opened.report.created ++ keysBuilt attempts false
          reloaded := opened.report.reloaded ++ keysBuilt attempts true
          dropped
          unchanged := opened.report.unchanged
          failed := opened.report.failed ++ faults attempts }
        built := (successes attempts).map Prod.snd } := by
  have settles := foldl_settle (opened.builds.zip outcomes)
    { ledger, report := opened.report, built := [] }
  simp only [endPass, settles, List.nil_append]
  rfl

theorem get?_foldl_drop (keys : List String) (ledger : Ledger) (key : String) :
    (keys.foldl drop ledger).registry.get? key =
      if key ∈ keys then none else ledger.registry.get? key := by
  induction keys generalizing ledger with
  | nil => rfl
  | cons dropped rest ih =>
      rw [List.foldl_cons, ih, drop, Dictionary.get?_erase]
      by_cases same : key = dropped <;> simp [same]

theorem stateOf_foldl_drop (keys : List String) (ledger : Ledger) (key : String) :
    (keys.foldl drop ledger).stateOf key =
      if key ∈ keys then .dropped else ledger.stateOf key := by
  induction keys generalizing ledger with
  | nil => rfl
  | cons dropped rest ih =>
      rw [List.foldl_cons, ih, stateOf, stateOf, drop, setState, Dictionary.get?_insert]
      by_cases same : key = dropped <;> simp [same]

theorem generation_foldl_drop (keys : List String) (ledger : Ledger) :
    (keys.foldl drop ledger).generation = ledger.generation := by
  induction keys generalizing ledger with
  | nil => rfl
  | cons dropped rest ih => exact ih _

end Ledger

end CatalogGateway
