import CatalogGateway.Proofs.Types.RoundTrip
import CatalogGateway.Proofs.Types.Unsupported

/-!
# Round trips of engine types

A generic type carries no precision of times, so an engine type that a mapping can read goes back
to the engine with the precision of the mapping, and is otherwise the same.  A mapping can read
an engine type exactly if it has no scalar, at whatever depth, that the storage does not have,
and no row in which a field lacks its name.
-/

namespace CatalogGateway

mutual

/-- An engine type and its parts, each one before its own parts and these in their order. -/
def EngineType.nodes : EngineType → List EngineType
  | .array element => .array element :: element.nodes
  | .map key value => .map key value :: (key.nodes ++ value.nodes)
  | .row fields => .row fields :: fields.nodes
  | scalar => [scalar]

def RowFields.nodes : RowFields → List EngineType
  | .nil => []
  | .cons _ type rest => type.nodes ++ rest.nodes

end

def RowFields.names : RowFields → List (Option String)
  | .nil => []
  | .cons name _ rest => name :: rest.names

mutual

/-- A type in which all times and timestamps have the given precision. -/
def EngineType.retimed (precision : UInt8) : EngineType → EngineType
  | .time _ => .time precision
  | .timestamp _ => .timestamp precision
  | .timestampWithTimeZone _ => .timestampWithTimeZone precision
  | .array element => .array (element.retimed precision)
  | .map key value => .map (key.retimed precision) (value.retimed precision)
  | .row fields => .row (fields.retimed precision)
  | type => type

def RowFields.retimed (precision : UInt8) : RowFields → RowFields
  | .nil => .nil
  | .cons name type rest => .cons name (type.retimed precision) (rest.retimed precision)

end

namespace TypeMapping

variable {mapping : TypeMapping} {engine : EngineType} {generic : DataType}

/-- Whether an engine type is a scalar that the storage behind a mapping does not have. -/
def lacksEngine : TypeMapping → EngineType → Bool
  | hive, .time _ | hive, .timestampWithTimeZone _ | hive, .uuid => true
  | hive, .varchar (some length) => isOutside 65535 length
  | hive, .char length => isOutside 255 length
  | iceberg, .tinyInt | iceberg, .smallInt | iceberg, .varchar (some _) | iceberg, .char _ => true
  | _, _ => false

/-- The nodes for which a mapping cannot read an engine type. -/
inductive Unreadable (mapping : TypeMapping) : EngineType → Prop where
  | lacking {scalar : EngineType} (lacks : mapping.lacksEngine scalar = true) :
      Unreadable mapping scalar
  | unnamed {fields : RowFields} (missing : none ∈ fields.names) :
      Unreadable mapping (.row fields)

section Reading

theorem exists_engineVerdict_eq (mapping : TypeMapping) (engine : EngineType) :
    ∃ reason, mapping.engineVerdict engine =
      if mapping.lacksEngine engine = true then .refused reason else .accepted := by
  cases engine with
  | varchar length =>
      cases length with
      | none => exact ⟨none, by cases mapping <;> rfl⟩
      | some length =>
          cases mapping with
          | hive => exact ⟨_, lengthVerdict_eq "varchar" maxVarcharLength length⟩
          | general | iceberg => exact ⟨none, rfl⟩
  | char length =>
      cases mapping with
      | hive => exact ⟨_, lengthVerdict_eq "char" maxCharLength length⟩
      | general | iceberg => exact ⟨none, rfl⟩
  | _ => exact ⟨none, by cases mapping <;> rfl⟩

theorem engineVerdict_eq_accepted_iff :
    mapping.engineVerdict engine = .accepted ↔ mapping.lacksEngine engine = false := by
  obtain ⟨reason, judged⟩ := exists_engineVerdict_eq mapping engine
  rw [judged]
  cases mapping.lacksEngine engine <;> simp

theorem unreadable_iff_of_scalar (scalar : scalarToGeneric? engine = some generic) :
    mapping.Unreadable engine ↔ mapping.lacksEngine engine = true := by
  refine ⟨fun unreadable => ?_, .lacking⟩
  cases unreadable with
  | lacking lacks => exact lacks
  | unnamed _ => cases scalar

theorem nodes_of_scalar (scalar : scalarToGeneric? engine = some generic) :
    engine.nodes = [engine] := by
  cases engine with
  | array _ | map _ _ | row _ => cases scalar
  | _ => simp [EngineType.nodes]

theorem exists_toGeneric_iff_of_scalar (scalar : scalarToGeneric? engine = some generic) :
    (∃ result, mapping.toGeneric engine = .ok result) ↔
      ∀ node ∈ engine.nodes, ¬ mapping.Unreadable node := by
  rw [nodes_of_scalar scalar, List.forall_mem_singleton, unreadable_iff_of_scalar scalar,
    toGeneric_of_scalar scalar]
  simp [scalarToGeneric_eq_ok_iff, engineVerdict_eq_accepted_iff, scalar]

theorem unreadable_row_iff {fields : RowFields} :
    mapping.Unreadable (.row fields) ↔ none ∈ fields.names := by
  refine ⟨fun unreadable => ?_, .unnamed⟩
  cases unreadable with
  | lacking lacks => cases mapping <;> cases lacks
  | unnamed missing => exact missing

theorem not_unreadable_array {element : EngineType} : ¬ mapping.Unreadable (.array element) := by
  rintro ⟨lacks⟩
  cases mapping <;> cases lacks

theorem not_unreadable_map {key value : EngineType} : ¬ mapping.Unreadable (.map key value) := by
  rintro ⟨lacks⟩
  cases mapping <;> cases lacks

end Reading

end TypeMapping

mutual

/-- A mapping can read an engine type exactly if it can read all of its nodes. -/
theorem TypeMapping.exists_toGeneric_iff {mapping : TypeMapping} : ∀ engine : EngineType,
    (∃ generic, mapping.toGeneric engine = .ok generic) ↔
      ∀ node ∈ engine.nodes, ¬ mapping.Unreadable node
  | .array element => by
      rw [toGeneric, Outcome.exists_map_eq_ok_iff, EngineType.nodes, List.forall_mem_cons,
        exists_toGeneric_iff element, and_iff_right not_unreadable_array]
  | .map key value => by
      rw [toGeneric, Outcome.exists_both_eq_ok_iff, EngineType.nodes, List.forall_mem_cons,
        List.forall_mem_append, exists_toGeneric_iff key, exists_toGeneric_iff value,
        and_iff_right not_unreadable_map]
  | .row fields => by
      rw [toGeneric, Outcome.exists_map_eq_ok_iff, EngineType.nodes, List.forall_mem_cons,
        unreadable_row_iff, exists_toDataFields_iff fields]
  | .boolean | .tinyInt | .smallInt | .integer | .bigInt | .real | .double | .varbinary | .date
  | .uuid | .decimal _ _ | .char _ | .time _ | .timestamp _ | .timestampWithTimeZone _
  | .varchar none | .varchar (some _) =>
      exists_toGeneric_iff_of_scalar rfl

theorem TypeMapping.exists_toDataFields_iff {mapping : TypeMapping} {row : EngineType} :
    ∀ fields : RowFields, (∃ generic, mapping.toDataFields row fields = .ok generic) ↔
      none ∉ fields.names ∧ ∀ node ∈ fields.nodes, ¬ mapping.Unreadable node
  | .nil => by
      simp [toDataFields, RowFields.names, RowFields.nodes]
  | .cons none type rest => by
      simp [toDataFields, RowFields.names]
  | .cons (some name) type rest => by
      rw [toDataFields, Outcome.exists_both_eq_ok_iff, exists_toGeneric_iff type,
        exists_toDataFields_iff rest, RowFields.names, RowFields.nodes, List.forall_mem_append,
        List.mem_cons, not_or, and_iff_right (Option.some_ne_none name).symm, and_left_comm]

end

namespace TypeMapping

variable {mapping : TypeMapping} {engine : EngineType} {generic : DataType}

theorem scalarToEngine?_of_scalarToGeneric? (precision : UInt8)
    (scalar : scalarToGeneric? engine = some generic) :
    scalarToEngine? precision generic = some (engine.retimed precision) := by
  cases engine with
  | varchar length => cases length <;> cases scalar <;> rfl
  | _ => cases scalar <;> rfl

theorem toEngine_of_scalarToGeneric (read : mapping.scalarToGeneric engine = .ok generic) :
    mapping.toEngine generic = .ok (engine.retimed mapping.temporalPrecision) := by
  obtain ⟨accepted, scalar⟩ := scalarToGeneric_eq_ok_iff.mp read
  have taken : mapping.verdict generic = .accepted :=
    (verdict_eq_engineVerdict scalar).trans accepted
  have mapped := scalarToEngine?_of_scalarToGeneric? mapping.temporalPrecision scalar
  exact toEngine_of_scalar (scalarToEngine_eq_ok_iff.mpr ⟨taken, mapped⟩)

end TypeMapping

mutual

/-- What a mapping reads goes back to the engine with the precision of the mapping. -/
theorem TypeMapping.toEngine_of_toGeneric {mapping : TypeMapping} :
    ∀ {engine : EngineType} {generic : DataType}, mapping.toGeneric engine = .ok generic →
      mapping.toEngine generic = .ok (engine.retimed mapping.temporalPrecision)
  | .array element, _, read => by
      rw [toGeneric] at read
      obtain ⟨first, elementRead, same⟩ := Outcome.bind_eq_ok_iff.mp read
      cases same
      rw [toEngine, toEngine_of_toGeneric elementRead, EngineType.retimed]
      rfl
  | .map key value, _, read => by
      rw [toGeneric] at read
      obtain ⟨first, keyRead, read⟩ := Outcome.bind_eq_ok_iff.mp read
      obtain ⟨second, valueRead, same⟩ := Outcome.bind_eq_ok_iff.mp read
      cases same
      rw [toEngine, toEngine_of_toGeneric keyRead, toEngine_of_toGeneric valueRead,
        EngineType.retimed]
      rfl
  | .row fields, _, read => by
      rw [toGeneric] at read
      obtain ⟨struct, fieldsRead, same⟩ := Outcome.bind_eq_ok_iff.mp read
      cases same
      rw [toEngine, toRowFields_of_toDataFields fieldsRead, EngineType.retimed]
      rfl
  | .boolean, _, read | .tinyInt, _, read | .smallInt, _, read | .integer, _, read
  | .bigInt, _, read | .real, _, read | .double, _, read | .varbinary, _, read
  | .date, _, read | .uuid, _, read | .decimal _ _, _, read | .varchar _, _, read
  | .char _, _, read | .time _, _, read | .timestamp _, _, read
  | .timestampWithTimeZone _, _, read =>
      toEngine_of_scalarToGeneric read

theorem TypeMapping.toRowFields_of_toDataFields {mapping : TypeMapping} {row : EngineType} :
    ∀ {fields : RowFields} {generic : DataFields}, mapping.toDataFields row fields = .ok generic →
      mapping.toRowFields generic = .ok (fields.retimed mapping.temporalPrecision)
  | .nil, _, read => by
      cases read
      rfl
  | .cons none _ _, _, read => by cases read
  | .cons (some name) type rest, _, read => by
      rw [toDataFields] at read
      obtain ⟨first, typeRead, read⟩ := Outcome.bind_eq_ok_iff.mp read
      obtain ⟨others, restRead, same⟩ := Outcome.bind_eq_ok_iff.mp read
      cases same
      rw [toRowFields, toEngine_of_toGeneric typeRead, toRowFields_of_toDataFields restRead,
        RowFields.retimed]
      rfl

end

namespace TypeMapping

/-- An engine type that a mapping can read goes back to the engine as it was, but for the precision
of its times, which becomes that of the mapping: microseconds for iceberg and milliseconds
otherwise.  A mapping fails to read exactly the types in which, however deep, a row has a field
without a name or a scalar is not supported. -/
theorem restores_readable (mapping : TypeMapping) (engine : EngineType) :
    (∀ generic, mapping.toGeneric engine = .ok generic →
      mapping.toEngine generic = .ok (engine.retimed (if mapping = .iceberg then 6 else 3))) ∧
    ((∃ fault, mapping.toGeneric engine = .error fault) ↔
      ∃ node ∈ engine.nodes, mapping.Unreadable node) := by
  have precision : mapping.temporalPrecision = if mapping = .iceberg then 6 else 3 := by
    cases mapping <;> rfl
  refine ⟨fun generic read => precision ▸ toEngine_of_toGeneric read, ?_⟩
  have readable : (∃ generic, mapping.toGeneric engine = .ok generic) ↔
      ∀ node ∈ engine.nodes, ¬ mapping.Unreadable node := exists_toGeneric_iff engine
  cases read : mapping.toGeneric engine with
  | error fault => simpa [read] using readable
  | ok generic => simpa [read] using readable

/-- Events by key, with times in nanoseconds and a text of the greatest length. -/
def eventsEngineType : EngineType :=
  .map (.char 255) (.array (.row
    (.cons (some "at") (.timestamp 9) (.cons (some "what") (.varchar (some 65535)) .nil))))

def eventsType : DataType :=
  .map (.fixedChar 255) (.list (.struct
    (.cons "at" (.timestamp false) true none
      (.cons "what" (.varchar 65535) true none .nil))) true) true

def unnamedEventsEngineType : EngineType :=
  .map (.char 255) (.array (.row
    (.cons (some "at") (.timestamp 9) (.cons none (.varchar (some 65535)) .nil))))

/-- In hive the times of the events come to have milliseconds.  The events cannot be read if the
name of a field is missing, nor if they are the values under a key that is one character longer
than the longest text. -/
theorem restores_eventsType :
    TypeMapping.hive.toGeneric eventsEngineType = .ok eventsType ∧
    TypeMapping.hive.toEngine eventsType = .ok (.map (.char 255) (.array (.row
      (.cons (some "at") (.timestamp 3) (.cons (some "what") (.varchar (some 65535)) .nil))))) ∧
    (∃ fault, TypeMapping.hive.toGeneric unnamedEventsEngineType = .error fault) ∧
    ∃ fault, TypeMapping.hive.toGeneric
      (.map (.varchar (some 65536)) eventsEngineType) = .error fault := by
  have read : TypeMapping.hive.toGeneric eventsEngineType = .ok eventsType := rfl
  obtain ⟨restored, _⟩ := restores_readable .hive eventsEngineType
  obtain ⟨_, unnamed⟩ := restores_readable .hive unnamedEventsEngineType
  obtain ⟨_, tooLong⟩ := restores_readable .hive (.map (.varchar (some 65536)) eventsEngineType)
  refine ⟨read, restored _ read, unnamed.mpr ?_, tooLong.mpr ?_⟩
  · exact ⟨.row (.cons (some "at") (.timestamp 9) (.cons none (.varchar (some 65535)) .nil)),
      by decide, .unnamed (by decide)⟩
  · exact ⟨.varchar (some 65536), by decide, .lacking (by decide)⟩

end TypeMapping

end CatalogGateway
