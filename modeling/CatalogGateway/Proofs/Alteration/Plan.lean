import CatalogGateway.Alteration.Plan
import CatalogGateway.Proofs.Store.Outcome

/-!
# Planned steps

What is known of a step when the change that it stands for has been accepted: the names are
those of the change, types have engine types, and properties have a stored key and value.
-/

namespace CatalogGateway

namespace Alteration

/-- The steps that changes can stand for. -/
inductive Planned (provider : Provider) : TableChange → Step → Prop where
  | renameTable (newName : String) : Planned provider (.renameTable newName) (.renameTable newName)
  | addColumn {name : String} {type : DataType} {stored : EngineType} {comment : Option String}
      {position : ColumnPosition} {nullable : Bool}
      (typed : provider.mapping.toEngine type = .ok stored) :
      Planned provider (.addColumn [name] type comment position nullable)
        (.addColumn ⟨name, stored, nullable, comment⟩ (position.ordinal?.map UInt64.toNat))
  | deleteColumn (column : String) (ifExists : Bool) :
      Planned provider (.deleteColumn [column] ifExists) (.deleteColumn column ifExists)
  | renameColumn (column newName : String) :
      Planned provider (.renameColumn [column] newName) (.renameColumn column newName)
  | updateColumnType {column : String} {type : DataType} {stored : EngineType}
      (typed : provider.mapping.toEngine type = .ok stored) :
      Planned provider (.updateColumnType [column] type) (.updateColumnType column stored)
  | updateComment (comment : Option String) :
      Planned provider (.updateComment comment) (.updateComment comment)
  | updateColumnComment (column : String) (comment : Option String) :
      Planned provider (.updateColumnComment [column] comment)
        (.updateColumnComment column comment)
  | setProperty {key text stored : String} {value : PropertyValue}
      (accepted : provider.tableConverter.engineKey key = .ok stored)
      (read : provider.tableConverter.storedValue key text = .ok value) :
      Planned provider (.setProperty key text) (.setProperty stored value)
  | removeProperty {key stored : String}
      (accepted : provider.tableConverter.engineKey key = .ok stored) :
      Planned provider (.removeProperty key) (.removeProperty stored)

variable {provider : Provider} {table : TableName} {change : TableChange} {step : Step}

theorem checkName_eq_ok {kind : ChangeKind} {name checked : String}
    (accepted : checkName table kind name = .ok checked) : checked = name := by
  rw [checkName] at accepted
  split at accepted
  · cases accepted
  · split at accepted
    · cases accepted
    · exact (Except.ok.inj accepted).symm

theorem columnOf_eq_ok {kind : ChangeKind} {path : List String} {column : String}
    (accepted : columnOf table kind path = .ok column) : path = [column] := by
  unfold columnOf at accepted
  split at accepted
  · cases accepted
  · rw [checkName_eq_ok accepted]
  · split at accepted <;> cases accepted

/-- The step of a change that is accepted. -/
theorem planned_of_planChange (planned : planChange provider table change = .ok step) :
    Planned provider change step := by
  cases change with
  | renameTable newName =>
      obtain ⟨name, accepted, same⟩ := Outcome.bind_eq_ok_iff.mp planned
      cases same
      rw [checkName_eq_ok (Outcome.mapError_eq_ok_iff.mp accepted)]
      exact .renameTable newName
  | addColumn path type comment position nullable =>
      obtain ⟨column, named, planned⟩ := Outcome.bind_eq_ok_iff.mp planned
      obtain ⟨built, builds, same⟩ := Outcome.bind_eq_ok_iff.mp planned
      obtain ⟨stored, typed, shaped⟩ :=
        Outcome.bind_eq_ok_iff.mp (Outcome.mapError_eq_ok_iff.mp builds)
      cases same
      cases shaped
      rw [columnOf_eq_ok (Outcome.mapError_eq_ok_iff.mp named)]
      exact .addColumn typed
  | deleteColumn path ifExists =>
      obtain ⟨column, named, same⟩ := Outcome.bind_eq_ok_iff.mp planned
      cases same
      rw [columnOf_eq_ok (Outcome.mapError_eq_ok_iff.mp named)]
      exact .deleteColumn column ifExists
  | renameColumn path newName =>
      obtain ⟨column, named, planned⟩ := Outcome.bind_eq_ok_iff.mp planned
      obtain ⟨name, accepted, same⟩ := Outcome.bind_eq_ok_iff.mp planned
      cases same
      rw [columnOf_eq_ok (Outcome.mapError_eq_ok_iff.mp named),
        checkName_eq_ok (Outcome.mapError_eq_ok_iff.mp accepted)]
      exact .renameColumn column newName
  | updateColumnType path newType =>
      obtain ⟨column, named, planned⟩ := Outcome.bind_eq_ok_iff.mp planned
      obtain ⟨stored, typed, same⟩ := Outcome.bind_eq_ok_iff.mp planned
      cases same
      rw [columnOf_eq_ok (Outcome.mapError_eq_ok_iff.mp named)]
      exact .updateColumnType (Outcome.mapError_eq_ok_iff.mp typed)
  | updateComment newComment =>
      cases planned
      exact .updateComment newComment
  | updateColumnComment path newComment =>
      obtain ⟨column, named, same⟩ := Outcome.bind_eq_ok_iff.mp planned
      cases same
      rw [columnOf_eq_ok (Outcome.mapError_eq_ok_iff.mp named)]
      exact .updateColumnComment column newComment
  | setProperty key value =>
      obtain ⟨_, _, planned⟩ := Outcome.bind_eq_ok_iff.mp planned
      obtain ⟨⟨stored, read⟩, accepted, same⟩ := Outcome.bind_eq_ok_iff.mp planned
      cases same
      obtain ⟨_, keyed, accepted⟩ :=
        Outcome.bind_eq_ok_iff.mp (Outcome.mapError_eq_ok_iff.mp accepted)
      obtain ⟨_, valued, same⟩ := Outcome.bind_eq_ok_iff.mp accepted
      cases same
      exact .setProperty keyed valued
  | removeProperty key =>
      obtain ⟨_, _, planned⟩ := Outcome.bind_eq_ok_iff.mp planned
      obtain ⟨stored, accepted, same⟩ := Outcome.bind_eq_ok_iff.mp planned
      cases same
      exact .removeProperty (Outcome.mapError_eq_ok_iff.mp accepted)

/-- The steps of a request that is accepted are those of its changes. -/
theorem planned_of_plan {changes : List TableChange} {steps : List Step}
    (planned : plan provider table changes = .ok steps) :
    List.Forall₂ (Planned provider) changes steps :=
  (Outcome.forall₂_of_mapM_eq_ok planned).imp fun _ _ => planned_of_planChange

end Alteration

end CatalogGateway
