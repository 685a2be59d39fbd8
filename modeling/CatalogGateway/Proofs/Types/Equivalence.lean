import CatalogGateway.Proofs.Types.Normal

/-!
# Equivalence of types

Types are equivalent when they have the same shape: the class of each scalar, and the way in which
types nest, with the names of fields.  So equivalence is an equivalence relation.  The normal form
of a type keeps its shape, and types that a mapping takes to the same engine type have the same
normal form.
-/

namespace CatalogGateway

mutual

/-- What equivalence looks at in a type. -/
inductive TypeShape where
  | scalar (typeClass : TypeClass)
  | list (element : TypeShape)
  | map (key value : TypeShape)
  | struct (fields : FieldShapes)

/-- The names and shapes of the fields of a struct, in order. -/
inductive FieldShapes where
  | nil
  | cons (name : String) (shape : TypeShape) (rest : FieldShapes)

end

/-- The class of all types of a shape. -/
def TypeShape.typeClass : TypeShape → TypeClass
  | .scalar typeClass => typeClass
  | .list _ => .list
  | .map _ _ => .map
  | .struct _ => .struct

mutual

def DataType.shape : DataType → TypeShape
  | .list element _ => .list element.shape
  | .map key value _ => .map key.shape value.shape
  | .struct fields => .struct fields.shapes
  | scalar => .scalar scalar.typeClass

def DataFields.shapes : DataFields → FieldShapes
  | .nil => .nil
  | .cons name type _ _ rest => .cons name type.shape rest.shapes

end

mutual

/-- Types are equivalent exactly if they have the same shape. -/
theorem DataType.isEquivalent_iff (left right : DataType) :
    left.isEquivalent right = true ↔ left.shape = right.shape := by
  cases left with
  | list first _ =>
      cases right with
      | list second _ =>
          rw [DataType.isEquivalent, DataType.isEquivalent_iff first second]
          simp only [DataType.shape, TypeShape.list.injEq]
      | _ => simp [DataType.isEquivalent, DataType.typeClass, DataType.shape]
  | map firstKey firstValue _ =>
      cases right with
      | map secondKey secondValue _ =>
          rw [DataType.isEquivalent, Bool.and_eq_true, DataType.isEquivalent_iff firstKey secondKey,
            DataType.isEquivalent_iff firstValue secondValue]
          simp only [DataType.shape, TypeShape.map.injEq]
      | _ => simp [DataType.isEquivalent, DataType.typeClass, DataType.shape]
  | struct first =>
      cases right with
      | struct second =>
          rw [DataType.isEquivalent, DataFields.areEquivalent_iff first second]
          simp only [DataType.shape, TypeShape.struct.injEq]
      | _ => simp [DataType.isEquivalent, DataType.typeClass, DataType.shape]
  | _ => cases right <;> simp [DataType.isEquivalent, DataType.typeClass, DataType.shape]

theorem DataFields.areEquivalent_iff (left right : DataFields) :
    left.areEquivalent right = true ↔ left.shapes = right.shapes := by
  cases left with
  | nil => cases right <;> simp [DataFields.areEquivalent, DataFields.shapes]
  | cons firstName firstType _ _ first =>
      cases right with
      | nil => simp [DataFields.areEquivalent, DataFields.shapes]
      | cons secondName secondType _ _ second =>
          rw [DataFields.areEquivalent, Bool.and_eq_true, Bool.and_eq_true, decide_eq_true_eq,
            DataType.isEquivalent_iff firstType secondType,
            DataFields.areEquivalent_iff first second]
          simp only [DataFields.shapes, FieldShapes.cons.injEq, and_assoc]

end

mutual

theorem DataType.shape_normalized (type : DataType) : type.normalized.shape = type.shape := by
  cases type with
  | list element _ =>
      simp only [DataType.normalized, DataType.shape, DataType.shape_normalized element]
  | map key value _ =>
      simp only [DataType.normalized, DataType.shape, DataType.shape_normalized key,
        DataType.shape_normalized value]
  | struct fields =>
      simp only [DataType.normalized, DataType.shape, DataFields.shapes_normalized fields]
  | _ => simp [DataType.normalized, DataType.shape, DataType.typeClass]

theorem DataFields.shapes_normalized (fields : DataFields) :
    fields.normalized.shapes = fields.shapes := by
  cases fields with
  | nil => rfl
  | cons name type _ _ rest =>
      simp only [DataFields.normalized, DataFields.shapes, DataType.shape_normalized type,
        DataFields.shapes_normalized rest]

end

namespace DataType

theorem isEquivalent_comm (left right : DataType) :
    left.isEquivalent right = right.isEquivalent left := by
  rw [Bool.eq_iff_iff, isEquivalent_iff, isEquivalent_iff, eq_comm]

theorem isEquivalent_normalized (type : DataType) : type.isEquivalent type.normalized = true :=
  (isEquivalent_iff _ _).mpr type.shape_normalized.symm

theorem typeClass_shape (type : DataType) : type.shape.typeClass = type.typeClass := by
  cases type <;> simp [shape, typeClass, TypeShape.typeClass]

theorem isEquivalent_equivalence :
    Equivalence fun left right : DataType => left.isEquivalent right = true := by
  simp only [isEquivalent_iff]
  exact ⟨fun _ => rfl, Eq.symm, Eq.trans⟩

theorem typeClass_eq_of_isEquivalent {left right : DataType}
    (equivalent : left.isEquivalent right = true) : left.typeClass = right.typeClass := by
  rw [← typeClass_shape left, ← typeClass_shape right, (isEquivalent_iff left right).mp equivalent]

/-- A mapping merges equivalent types only: both come back from the engine as one type. -/
theorem isEquivalent_of_toEngine {mapping : TypeMapping} {left right : DataType}
    {engine : EngineType} (leftMapped : mapping.toEngine left = .ok engine)
    (rightMapped : mapping.toEngine right = .ok engine) : left.isEquivalent right = true := by
  have sameReading : left.normalized = right.normalized :=
    Except.ok.inj ((TypeMapping.toGeneric_of_toEngine leftMapped).symm.trans
      (TypeMapping.toGeneric_of_toEngine rightMapped))
  rw [isEquivalent_iff, ← shape_normalized left, sameReading, shape_normalized right]

/-- Equivalence of types, however they nest, is reflexive, symmetric and transitive.  Equivalent
types have the same class, and no mapping takes types that are not equivalent to the same engine
type. -/
theorem isEquivalent_respected :
    Equivalence (fun left right : DataType => left.isEquivalent right = true) ∧
    (∀ left right : DataType, left.isEquivalent right = true →
      left.typeClass = right.typeClass) ∧
    ∀ (mapping : TypeMapping) (left right : DataType) (engine : EngineType),
      mapping.toEngine left = .ok engine → mapping.toEngine right = .ok engine →
        left.isEquivalent right = true :=
  ⟨isEquivalent_equivalence, fun _ _ => typeClass_eq_of_isEquivalent,
    fun _ _ _ _ => isEquivalent_of_toEngine⟩

/-- A struct of digests and its variant with bytes of any number, a comment and nothing nullable
are stored alike. -/
theorem isEquivalent_digests :
    TypeMapping.general.toEngine
        (.struct (.cons "digests" (.list (.fixed 32) true) true none .nil)) =
      .ok (.row (.cons (some "digests") (.array .varbinary) .nil)) ∧
    TypeMapping.general.toEngine
        (.struct (.cons "digests" (.list .binary false) false (some "of parts") .nil)) =
      .ok (.row (.cons (some "digests") (.array .varbinary) .nil)) ∧
    isEquivalent (.struct (.cons "digests" (.list (.fixed 32) true) true none .nil))
      (.struct (.cons "digests" (.list .binary false) false (some "of parts") .nil)) = true ∧
    typeClass (.list (.fixed 32) true) = typeClass (.list .binary false) := by
  obtain ⟨_, sameClass, merged⟩ := isEquivalent_respected
  exact ⟨rfl, rfl, merged .general _ _ _ rfl rfl, sameClass _ _ (by decide)⟩

end DataType

end CatalogGateway
