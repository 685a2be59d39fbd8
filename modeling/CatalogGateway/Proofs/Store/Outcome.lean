import CatalogGateway.Store.Call
import Mathlib.Data.List.Forall2

/-!
# Outcomes of operations

An operation that fails says why, and one that succeeds has a result.  These lemmas take
a successful outcome apart into its steps, and compare the outcomes of two operations
step by step.
-/

namespace CatalogGateway

namespace Outcome

variable {ε ε' α β γ δ : Type}

theorem bind_eq_ok_iff {first : Except ε α} {next : α → Except ε β} {result : β} :
    (first >>= next) = .ok result ↔ ∃ value, first = .ok value ∧ next value = .ok result := by
  cases first with
  | error fault => simp [bind, Except.bind]
  | ok value => simp [bind, Except.bind]

theorem map_eq_ok_iff {outcome : Except ε α} {change : α → β} {result : β} :
    outcome.map change = .ok result ↔ ∃ value, outcome = .ok value ∧ change value = result := by
  cases outcome <;> simp [Except.map]

@[simp]
theorem map_eq_error_iff {outcome : Except ε α} {change : α → β} {fault : ε} :
    outcome.map change = .error fault ↔ outcome = .error fault := by
  cases outcome <;> simp [Except.map]

@[simp]
theorem mapError_eq_ok_iff {outcome : Except ε α} {change : ε → ε'} {result : α} :
    outcome.mapError change = .ok result ↔ outcome = .ok result := by
  cases outcome <;> simp [Except.mapError]

theorem exists_mapError_eq_ok_iff {outcome : Except ε α} {change : ε → ε'} :
    (∃ result, outcome.mapError change = .ok result) ↔ ∃ result, outcome = .ok result := by
  simp only [mapError_eq_ok_iff]

/-- Of two parts, the second of which does not succeed or fail for what the first results in. -/
theorem exists_bind_eq_ok_iff {first : Except ε α} {next : α → Except ε β} {accepted : Prop}
    (each : ∀ value, (∃ result, next value = .ok result) ↔ accepted) :
    (∃ result, (first >>= next) = .ok result) ↔ (∃ value, first = .ok value) ∧ accepted := by
  cases first with
  | error fault => simp [bind, Except.bind]
  | ok value => simpa [bind, Except.bind] using each value

theorem exists_map_eq_ok_iff {outcome : Except ε α} {change : α → β} :
    (∃ result, (outcome >>= fun value => pure (change value)) = .ok result) ↔
      ∃ value, outcome = .ok value := by
  cases outcome <;> simp [bind, Except.bind, pure, Except.pure]

theorem exists_both_eq_ok_iff {first : Except ε α} {second : Except ε β} {both : α → β → γ} :
    (∃ result, (first >>= fun left => second >>= fun right => pure (both left right)) =
      .ok result) ↔ (∃ left, first = .ok left) ∧ ∃ right, second = .ok right :=
  exists_bind_eq_ok_iff fun _ => exists_map_eq_ok_iff

theorem ite_error_eq_ok_iff {condition : Prop} [Decidable condition] {fault : ε} {value : α}
    {result : α} :
    (if condition then .ok value else .error fault : Except ε α) = .ok result ↔
      condition ∧ value = result := by
  split <;> simp [*]

/-- What a list is mapped to comes from its elements, one by one. -/
theorem forall₂_of_mapM_eq_ok {change : α → Except ε β} {list : List α} {results : List β}
    (mapped : list.mapM change = .ok results) :
    List.Forall₂ (fun value result => change value = .ok result) list results := by
  induction list generalizing results with
  | nil =>
      cases mapped
      exact .nil
  | cons value rest ih =>
      rw [List.mapM_cons] at mapped
      obtain ⟨first, changed, mapped⟩ := bind_eq_ok_iff.mp mapped
      obtain ⟨others, restMapped, same⟩ := bind_eq_ok_iff.mp mapped
      cases same
      exact .cons changed (ih restMapped)

theorem exists_of_mapM_eq_ok {change : α → Except ε β} {list : List α} {results : List β}
    {result : β} (mapped : list.mapM change = .ok results) (member : result ∈ results) :
    ∃ value ∈ list, change value = .ok result := by
  have pairs := forall₂_of_mapM_eq_ok mapped
  clear mapped
  induction pairs with
  | nil => cases member
  | @cons value _ _ _ changed _ ih =>
      rcases List.mem_cons.mp member with rfl | inRest
      · exact ⟨value, List.mem_cons_self, changed⟩
      · obtain ⟨other, inList, otherChanged⟩ := ih inRest
        exact ⟨other, List.mem_cons_of_mem _ inList, otherChanged⟩

theorem exists_result_of_mapM_eq_ok {change : α → Except ε β} {list : List α} {results : List β}
    {value : α} (mapped : list.mapM change = .ok results) (member : value ∈ list) :
    ∃ result ∈ results, change value = .ok result := by
  have pairs := forall₂_of_mapM_eq_ok mapped
  clear mapped
  induction pairs with
  | nil => cases member
  | @cons _ result _ _ changed _ ih =>
      rcases List.mem_cons.mp member with rfl | inRest
      · exact ⟨result, List.mem_cons_self, changed⟩
      · obtain ⟨other, inResults, otherChanged⟩ := ih inRest
        exact ⟨other, List.mem_cons_of_mem _ inResults, otherChanged⟩

theorem mapM_eq_ok_of_forall₂ {change : α → Except ε β} {list : List α} {results : List β}
    (pairs : List.Forall₂ (fun value result => change value = .ok result) list results) :
    list.mapM change = .ok results := by
  induction pairs with
  | nil => rfl
  | cons changed _ ih =>
      rw [List.mapM_cons, changed, ih]
      rfl

theorem mapM_eq_ok_map {change : α → Except ε β} (result : α → β) {list : List α}
    (each : ∀ value ∈ list, change value = .ok (result value)) :
    list.mapM change = .ok (list.map result) :=
  mapM_eq_ok_of_forall₂ (List.forall₂_map_right_iff.mpr (List.forall₂_same.mpr each))

theorem exists_mapM_eq_ok {change : α → Except ε β} {list : List α}
    (each : ∀ value ∈ list, ∃ result, change value = .ok result) :
    ∃ results, list.mapM change = .ok results := by
  induction list with
  | nil => exact ⟨[], rfl⟩
  | cons value rest ih =>
      obtain ⟨first, changed⟩ := each value List.mem_cons_self
      obtain ⟨others, mapped⟩ := ih fun other member => each other (List.mem_cons_of_mem _ member)
      refine ⟨first :: others, ?_⟩
      rw [List.mapM_cons, changed, mapped]
      rfl

/-- The first element that cannot be mapped decides the fault. -/
theorem exists_first_of_mapM_eq_error {change : α → Except ε β} {list : List α} {fault : ε}
    (failed : list.mapM change = .error fault) :
    ∃ first value rest, list = first ++ value :: rest ∧
      (∀ earlier ∈ first, ∃ result, change earlier = .ok result) ∧
      change value = .error fault := by
  induction list with
  | nil => cases failed
  | cons value rest ih =>
      rw [List.mapM_cons] at failed
      cases changed : change value with
      | error _ =>
          rw [changed] at failed
          cases failed
          exact ⟨[], value, rest, rfl, by simp, changed⟩
      | ok result =>
          have restFailed : rest.mapM change = .error fault := by
            cases mapped : rest.mapM change with
            | error _ =>
                rw [changed, mapped] at failed
                cases failed
                rfl
            | ok _ =>
                rw [changed, mapped] at failed
                cases failed
          obtain ⟨first, other, last, rfl, each, otherFailed⟩ := ih restFailed
          exact ⟨value :: first, other, last, rfl,
            List.forall_mem_cons.mpr ⟨⟨result, changed⟩, each⟩, otherFailed⟩

/-- If this fails, it is for an allowed reason. -/
def Raises (allowed : ε → Prop) (outcome : Except ε α) : Prop :=
  ∀ fault, outcome = .error fault → allowed fault

namespace Raises

variable {allowed : ε → Prop} {outcome : Except ε α}

theorem ok (value : α) : Raises allowed (.ok value) :=
  fun _ failed => by cases failed

theorem error {fault : ε} (fits : allowed fault) : Raises allowed (.error fault : Except ε α) :=
  fun _ failed => by cases failed; exact fits

theorem bind {next : α → Except ε β} (raises : Raises allowed outcome)
    (nexts : ∀ value, Raises allowed (next value)) : Raises allowed (outcome >>= next) := by
  cases outcome with
  | error fault => exact error (raises fault rfl)
  | ok value => exact nexts value

theorem mapM {change : α → Except ε β} (raises : ∀ value, Raises allowed (change value))
    (list : List α) : Raises allowed (list.mapM change) := by
  induction list with
  | nil => exact ok []
  | cons value rest ih =>
      rw [List.mapM_cons]
      exact (raises value).bind fun _ => ih.bind fun _ => ok _

theorem mapError {change : ε → ε'} {allowed : ε' → Prop}
    (raises : Raises (fun fault => allowed (change fault)) outcome) :
    Raises allowed (outcome.mapError change) := by
  cases outcome with
  | error fault => exact error (raises fault rfl)
  | ok value => exact ok value

theorem imp {other : ε → Prop} (raises : Raises allowed outcome)
    (implies : ∀ fault, allowed fault → other fault) : Raises other outcome :=
  fun fault failed => implies fault (raises fault failed)

end Raises

/-- Both fail for the same reason, or both succeed with related results. -/
def Agree (relation : α → β → Prop) : Except ε α → Except ε β → Prop
  | .error first, .error second => first = second
  | .ok first, .ok second => relation first second
  | _, _ => False

namespace Agree

variable {relation : α → β → Prop} {first : Except ε α} {second : Except ε β}

theorem bind {outcome : γ → δ → Prop} {nextFirst : α → Except ε γ} {nextSecond : β → Except ε δ}
    (agree : Agree relation first second)
    (next : ∀ left right, relation left right → first = .ok left → second = .ok right →
      Agree outcome (nextFirst left) (nextSecond right)) :
    Agree outcome (first >>= nextFirst) (second >>= nextSecond) := by
  match first, second, agree with
  | .error _, .error _, same => exact same
  | .ok left, .ok right, related => exact next left right related rfl rfl

theorem imp {weaker : α → β → Prop} (agree : Agree relation first second)
    (implies : ∀ left right, relation left right → weaker left right) :
    Agree weaker first second := by
  match first, second, agree with
  | .error _, .error _, same => exact same
  | .ok left, .ok right, related => exact implies left right related

theorem of_eq {first second : Except ε α} (same : first = second) : Agree Eq first second := by
  subst same
  cases first <;> rfl

theorem exists_of_ok {right : β} (agree : Agree relation first second)
    (succeeds : second = .ok right) : ∃ left, first = .ok left ∧ relation left right := by
  match first, second, agree, succeeds with
  | .ok left, .ok _, related, rfl => exact ⟨left, rfl, related⟩

theorem of_error {fault : ε} (agree : Agree relation first second)
    (fails : second = .error fault) : first = .error fault := by
  match first, second, agree, fails with
  | .error _, .error _, same, rfl => exact congrArg _ same

end Agree

end Outcome

namespace MetadataStore

variable {σ τ α β : Type}

@[simp]
theorem guarded_error (store : σ) (fault : StoreFault) (change : α → σ) :
    guarded store (.error fault) change = (.error fault, store) :=
  rfl

@[simp]
theorem guarded_ok (store : σ) (found : α) (change : α → σ) :
    guarded store (.ok found) change = (.ok (), change found) :=
  rfl

theorem guarded_eq_ok_iff {store after : σ} {checked : Except StoreFault α} {change : α → σ} :
    guarded store checked change = (.ok (), after) ↔
      ∃ found, checked = .ok found ∧ change found = after := by
  cases checked <;> simp

/-- What holds of a store holds after a guarded change if the change keeps it. -/
theorem guarded_keeps {keeps : σ → Prop} {store : σ} {checked : Except StoreFault α}
    {change : α → σ} (start : keeps store)
    (changed : ∀ found, checked = .ok found → keeps (change found)) :
    keeps (guarded store checked change).2 := by
  cases checked with
  | error fault => exact start
  | ok found => exact changed found rfl

/-- Guarded changes of related stores give the same answer and leave related stores, if the
checks agree and the changes keep the relation. -/
theorem guarded_agree {related : σ → τ → Prop} (relation : α → β → Prop) {store : σ} {other : τ}
    {checked : Except StoreFault α} {otherChecked : Except StoreFault β}
    {change : α → σ} {otherChange : β → τ} (start : related store other)
    (agree : Outcome.Agree relation checked otherChecked)
    (changes : ∀ found otherFound, relation found otherFound →
      checked = .ok found → otherChecked = .ok otherFound →
      related (change found) (otherChange otherFound)) :
    (guarded store checked change).1 = (guarded other otherChecked otherChange).1 ∧
      related (guarded store checked change).2 (guarded other otherChecked otherChange).2 := by
  match checked, otherChecked, agree with
  | .error _, .error _, same => exact ⟨congrArg _ same, start⟩
  | .ok found, .ok otherFound, results => exact ⟨rfl, changes found otherFound results rfl rfl⟩

end MetadataStore

end CatalogGateway
