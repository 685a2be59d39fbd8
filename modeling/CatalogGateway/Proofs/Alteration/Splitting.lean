import CatalogGateway.Proofs.Alteration.Plan
import CatalogGateway.Proofs.Alteration.Simulation

/-!
# Alterations in parts

The plan of a joined request joins the plans of its parts, and what is planned does not depend
on the name of the table.  A run of joined steps is a run of the first and then of the others.
-/

namespace CatalogGateway

open MetadataStore Outcome

namespace Alteration

section Plans

variable (provider : Provider) (table other : TableName)

theorem plan_append_eq_ok_iff {first second : List TableChange} {steps : List Step} :
    plan provider table (first ++ second) = .ok steps ↔
      ∃ start rest, plan provider table first = .ok start ∧
        plan provider table second = .ok rest ∧ start ++ rest = steps := by
  simp only [plan, List.mapM_append, bind_eq_ok_iff]
  constructor
  · rintro ⟨start, planned, rest, others, same⟩
    exact ⟨start, rest, planned, others, Except.ok.inj same⟩
  · rintro ⟨start, rest, planned, others, rfl⟩
    exact ⟨start, planned, rest, others, rfl⟩

theorem checkName_anyName (kind : ChangeKind) (name : String) :
    Refines Eq (checkName table kind name) (checkName other kind name) := by
  rw [checkName, checkName]
  split
  · exact Refines.error
  · split
    · exact Refines.error
    · exact Refines.refl _

theorem columnOf_anyName (kind : ChangeKind) (path : List String) :
    Refines Eq (columnOf table kind path) (columnOf other kind path) := by
  intro column accepted
  obtain rfl := columnOf_eq_ok accepted
  exact checkName_anyName table other kind column column accepted

theorem checkKey_anyName (kind : ChangeKind) (key : String) :
    Refines Eq (checkKey table kind key) (checkKey other kind key) := by
  rw [checkKey, checkKey]
  split
  · exact Refines.error
  · exact Refines.refl _

theorem planChange_anyName (change : TableChange) :
    Refines Eq (planChange provider table change) (planChange provider other change) := by
  cases change with
  | renameTable newName =>
      exact (checkName_anyName table other _ _).mapError.bind_eq fun _ => Refines.refl _
  | updateComment newComment => exact Refines.refl _
  | setProperty key value =>
      exact (checkKey_anyName table other _ _).mapError.bind_eq fun _ => Refines.refl _
  | removeProperty key =>
      exact (checkKey_anyName table other _ _).mapError.bind_eq fun _ => Refines.refl _
  | renameColumn path newName =>
      exact (columnOf_anyName table other _ _).mapError.bind_eq fun _ =>
        (checkName_anyName table other _ _).mapError.bind_eq fun _ => Refines.refl _
  | addColumn path _ _ _ _ | deleteColumn path _ | updateColumnType path _
  | updateColumnComment path _ =>
      exact (columnOf_anyName table other _ _).mapError.bind_eq fun _ => Refines.refl _

theorem plan_anyName (changes : List TableChange) :
    Refines Eq (plan provider table changes) (plan provider other changes) := by
  induction changes with
  | nil => exact Refines.refl _
  | cons change rest ih =>
      simp only [plan, List.mapM_cons] at ih ⊢
      exact (planChange_anyName provider table other change).bind_eq fun _ =>
        ih.bind_eq fun _ => Refines.refl _

variable {provider}

/-- What is planned does not depend on the table that it is planned for. -/
theorem plan_eq_ok_of_plan {changes : List TableChange} {steps : List Step}
    (planned : plan provider table changes = .ok steps) :
    plan provider other changes = .ok steps := by
  obtain ⟨_, otherPlanned, rfl⟩ := plan_anyName provider table other changes steps planned
  exact otherPlanned

end Plans

section Runs

variable {σ : Type} [MetadataStore σ] {provider : Provider} {store after : σ}
  {table : TableName} {present renamed : SchemaTable}

/-- A run of joined steps goes on with the others where the first have ended. -/
theorem run_append_eq_ok_iff {first second : List Step} :
    run provider store table present (first ++ second) = (.ok renamed, after) ↔
      ∃ middle between, run provider store table present first = (.ok middle, between) ∧
        run provider between table middle second = (.ok renamed, after) := by
  induction first generalizing store present with
  | nil =>
      constructor
      · intro ran
        exact ⟨present, store, rfl, ran⟩
      · rintro ⟨_, _, started, ran⟩
        cases started
        exact ran
  | cons step rest ih =>
      rw [List.cons_append, run, run]
      split
      · simp
      · exact ih

/-- What a run achieves does not depend on the name under which the table was asked for. -/
theorem run_eq_ok_of_run {steps : List Step} (other : TableName)
    (ran : run provider store table present steps = (.ok renamed, after)) :
    run provider store other present steps = (.ok renamed, after) := by
  have repeats := run_repeats Simulation.refl provider table other steps present
    (rfl : store = store)
  rw [ran] at repeats
  obtain ⟨otherRan, same⟩ := repeats renamed rfl
  exact Prod.ext otherRan same.symm

end Runs

end Alteration

end CatalogGateway
