import CatalogGateway.Proofs.Store.Outcome
import CatalogGateway.Types.Mapping

/-!
# Types that a mapping refuses

A mapping refuses a type if one of its nodes, at whatever depth, is a scalar that the storage
does not have.  The nodes are looked at from the outside in and from left to right, and the first
one that is not supported is reported.
-/

namespace CatalogGateway

mutual

/-- A type and its parts, each one before its own parts and these in their order. -/
def DataType.nodes : DataType → List DataType
  | .list element nullable => .list element nullable :: element.nodes
  | .map key value nullable => .map key value nullable :: (key.nodes ++ value.nodes)
  | .struct fields => .struct fields :: fields.nodes
  | scalar => [scalar]

def DataFields.nodes : DataFields → List DataType
  | .nil => []
  | .cons _ type _ _ rest => type.nodes ++ rest.nodes

end

namespace TypeMapping

variable {mapping : TypeMapping} {type : DataType} {α β : Type}

/-- Whether a length is not between one and a maximum. -/
def isOutside (maximum : Nat) (length : UInt32) : Bool :=
  length.toNat < 1 || maximum < length.toNat

/-- Whether a type is a scalar that the storage behind a mapping does not have. -/
def lacks : TypeMapping → DataType → Bool
  | _, .intervalYear | _, .intervalDay | _, .null => true
  | hive, .time | hive, .timestamp true | hive, .uuid | hive, .fixed _ => true
  | hive, .varchar length => isOutside 65535 length
  | hive, .fixedChar length => isOutside 255 length
  | iceberg, .byte | iceberg, .short | iceberg, .varchar _ | iceberg, .fixedChar _ => true
  | _, _ => false

/-- What callers are told of a scalar that is not supported only for its length. -/
def lengthNote? : TypeMapping → DataType → Option String
  | hive, .varchar _ => some "varchar length must be between 1 and 65535"
  | hive, .fixedChar _ => some "char length must be between 1 and 255"
  | _, _ => none

def blame (mapping : TypeMapping) (culprit : DataType) : TypeFault :=
  .unsupportedType culprit.display mapping.name (mapping.lengthNote? culprit)

/-- This fails for the first of the nodes that is not supported, and succeeds if there is none. -/
def BlamesFirst (mapping : TypeMapping) (nodes : List DataType) (outcome : Except TypeFault α) :
    Prop :=
  match nodes.find? mapping.lacks with
  | some culprit => outcome = .error (mapping.blame culprit)
  | none => ∃ result, outcome = .ok result

namespace BlamesFirst

variable {nodes others : List DataType} {outcome : Except TypeFault α}

theorem ok (value : α) : BlamesFirst mapping [] (.ok value) :=
  ⟨value, rfl⟩

/-- The faults of the first part come before those of what follows. -/
theorem bind {next : α → Except TypeFault β} (first : BlamesFirst mapping nodes outcome)
    (second : ∀ value, BlamesFirst mapping others (next value)) :
    BlamesFirst mapping (nodes ++ others) (outcome >>= next) := by
  unfold BlamesFirst at first ⊢
  rw [List.find?_append]
  cases found : nodes.find? mapping.lacks with
  | some culprit =>
      rw [found] at first
      rw [first]
      rfl
  | none =>
      rw [found] at first
      obtain ⟨value, rfl⟩ := first
      exact second value

theorem map {change : α → β} (first : BlamesFirst mapping nodes outcome) :
    BlamesFirst mapping nodes (outcome >>= fun value => .ok (change value)) := by
  rw [← List.append_nil nodes]
  exact first.bind fun value => ok (change value)

theorem cons {node : DataType} (supported : mapping.lacks node = false)
    (rest : BlamesFirst mapping nodes outcome) : BlamesFirst mapping (node :: nodes) outcome := by
  rw [BlamesFirst, List.find?_cons_of_neg (by simp [supported])]
  exact rest

end BlamesFirst

theorem lengthVerdict_eq (kind : String) (maximum length : UInt32) :
    lengthVerdict kind maximum length =
      if isOutside maximum.toNat length = true then
        .refused (some s!"{kind} length must be between 1 and {maximum}")
      else .accepted := by
  have inside : (1 ≤ length ∧ length ≤ maximum) ↔ ¬ isOutside maximum.toNat length = true := by
    simp [isOutside, UInt32.le_iff_toNat_le]
    omega
  simp only [lengthVerdict, inside, ite_not]

theorem verdict_eq {precision : UInt8} {engine : EngineType}
    (held : scalarToEngine? precision type = some engine) :
    mapping.verdict type =
      if mapping.lacks type = true then .refused (mapping.lengthNote? type) else .accepted := by
  cases type with
  | list _ _ | map _ _ _ | struct _ | intervalYear | intervalDay | null => cases held
  | varchar length =>
      cases mapping with
      | hive => exact lengthVerdict_eq "varchar" maxVarcharLength length
      | general | iceberg => rfl
  | fixedChar length =>
      cases mapping with
      | hive => exact lengthVerdict_eq "char" maxCharLength length
      | general | iceberg => rfl
  | timestamp withTimeZone => cases mapping <;> cases withTimeZone <;> rfl
  | _ => cases mapping <;> rfl

theorem scalarToEngine_blamesFirst (scalar : type.isComplex = false) :
    BlamesFirst mapping [type] (mapping.scalarToEngine type) := by
  rw [BlamesFirst, List.find?_singleton]
  cases held : scalarToEngine? mapping.temporalPrecision type with
  | some engine =>
      rw [scalarToEngine, verdict_eq held, held]
      cases mapping.lacks type with
      | true => rfl
      | false => exact ⟨engine, rfl⟩
  | none =>
      cases type with
      | list _ _ | map _ _ _ | struct _ => cases scalar
      | intervalYear | intervalDay | null => cases mapping <;> rfl
      | timestamp withTimeZone => cases withTimeZone <;> cases held
      | _ => cases held

end TypeMapping

mutual

/-- A mapping refuses a type for the first of its nodes that is not supported. -/
theorem TypeMapping.toEngine_blamesFirst (mapping : TypeMapping) :
    ∀ type : DataType, mapping.BlamesFirst type.nodes (mapping.toEngine type)
  | .list element _ => by
      rw [DataType.nodes, toEngine]
      exact .cons (by cases mapping <;> rfl) (toEngine_blamesFirst mapping element).map
  | .map key value _ => by
      rw [DataType.nodes, toEngine]
      refine .cons (by cases mapping <;> rfl) ((toEngine_blamesFirst mapping key).bind fun _ => ?_)
      exact (toEngine_blamesFirst mapping value).map
  | .struct fields => by
      rw [DataType.nodes, toEngine]
      exact .cons (by cases mapping <;> rfl) (toRowFields_blamesFirst mapping fields).map
  | .boolean | .byte | .short | .integer | .long | .float | .double | .date | .time
  | .intervalYear | .intervalDay | .string | .binary | .uuid | .null | .decimal _ _
  | .timestamp _ | .varchar _ | .fixedChar _ | .fixed _ =>
      scalarToEngine_blamesFirst rfl

theorem TypeMapping.toRowFields_blamesFirst (mapping : TypeMapping) :
    ∀ fields : DataFields, mapping.BlamesFirst fields.nodes (mapping.toRowFields fields)
  | .nil => BlamesFirst.ok RowFields.nil
  | .cons name type _ _ rest => by
      rw [DataFields.nodes, toRowFields]
      refine (toEngine_blamesFirst mapping type).bind fun _ => ?_
      exact (toRowFields_blamesFirst mapping rest).map

end

namespace TypeMapping

theorem exists_toEngine_iff {mapping : TypeMapping} {type : DataType} :
    (∃ engine, mapping.toEngine type = .ok engine) ↔
      ∀ node ∈ type.nodes, mapping.lacks node = false := by
  have blames := toEngine_blamesFirst mapping type
  unfold BlamesFirst at blames
  cases found : type.nodes.find? mapping.lacks with
  | some culprit =>
      rw [found] at blames
      have lacking := List.find?_some found
      have member := List.mem_of_find?_eq_some found
      simp only [blames, reduceCtorEq, exists_false, false_iff, not_forall]
      exact ⟨culprit, member, by simp [lacking]⟩
  | none =>
      rw [found] at blames
      rw [List.find?_eq_none] at found
      simpa [blames] using found

theorem toEngine_eq_error_iff {mapping : TypeMapping} {type : DataType} {fault : TypeFault} :
    mapping.toEngine type = .error fault ↔
      ∃ culprit, type.nodes.find? mapping.lacks = some culprit ∧ mapping.blame culprit = fault := by
  have blames := toEngine_blamesFirst mapping type
  unfold BlamesFirst at blames
  cases found : type.nodes.find? mapping.lacks with
  | some culprit =>
      rw [found] at blames
      simp [blames]
  | none =>
      rw [found] at blames
      obtain ⟨engine, mapped⟩ := blames
      simp [mapped]

/-- A mapping takes a type exactly if it supports every scalar in it, however deep.  It refuses
any other with the code for unsupported types, and reports the first scalar that is not supported,
outermost and leftmost first, as it is displayed.  A note on the length is added exactly if it is
the length that is at fault. -/
theorem refuses_first_unsupported (mapping : TypeMapping) (type : DataType) :
    ((∃ engine, mapping.toEngine type = .ok engine) ↔
      ∀ node ∈ type.nodes, mapping.lacks node = false) ∧
    ∀ fault, mapping.toEngine type = .error fault ↔
      ∃ culprit, type.nodes.find? mapping.lacks = some culprit ∧
        fault = .unsupportedType culprit.display mapping.name (mapping.lengthNote? culprit) ∧
        fault.report.code = "TYPE_001" ∧
        fault.report.notes =
          s!"offending type: {culprit.display}" :: (mapping.lengthNote? culprit).toList := by
  refine ⟨exists_toEngine_iff, fun fault => toEngine_eq_error_iff.trans ?_⟩
  constructor
  · rintro ⟨culprit, found, rfl⟩
    exact ⟨culprit, found, rfl, rfl, rfl⟩
  · rintro ⟨culprit, found, rfl, _⟩
    exact ⟨culprit, found, rfl⟩

/-- The key of a map comes before its value, and the length before the type after it. -/
example : TypeMapping.hive.toEngine (.list (.map (.varchar 0) (.list .uuid true) true) true) =
    .error (.unsupportedType "varchar(0)" "hive"
      (some "varchar length must be between 1 and 65535")) := by
  rfl

end TypeMapping

end CatalogGateway
