import CatalogGateway.Proofs.Json.Reading
import CatalogGateway.Proofs.Name.Parts

/-!
# How deep names go

Some ways to make a name check its parts, others only fix how many there are, and from a name one
comes to others below and above it.  No name that is made in any of these ways goes more than three
levels down, although what looks at a name does not check this: every deeper name would count as
that of a table.
-/

namespace CatalogGateway

namespace QualifiedName

variable {name parent child : QualifiedName} {segment : String}

/-- The names that can be made, in any number of steps. -/
inductive Obtainable : QualifiedName → Prop where
  | parse {text : String} {name : QualifiedName} (parsed : parse text = .ok name) :
      Obtainable name
  | ofParts {metalake : String} {segments : List String} {name : QualifiedName}
      (made : ofParts metalake segments = .ok name) : Obtainable name
  | ofMetalake (metalake : String) : Obtainable (.ofMetalake metalake)
  | ofCatalog (metalake catalog : String) : Obtainable (.ofCatalog metalake catalog)
  | ofSchema (metalake catalog schema : String) : Obtainable (.ofSchema metalake catalog schema)
  | ofTable (metalake catalog schema table : String) :
      Obtainable (.ofTable metalake catalog schema table)
  | child {name child : QualifiedName} {segment : String} (obtainable : Obtainable name)
      (below : name.child segment = .ok child) : Obtainable child
  | parent {name parent : QualifiedName} (obtainable : Obtainable name)
      (above : name.parent? = some parent) : Obtainable parent
  | ofJson {value : Json} {name : QualifiedName} (decoded : ofJson? value = some name) :
      Obtainable name

section Depth

theorem depth_le_of_ofParts {metalake : String} {segments : List String}
    (made : ofParts metalake segments = .ok name) : name.depth ≤ maxDepth := by
  obtain ⟨rfl, shallow, _⟩ := ofParts_eq_ok_iff.mp made
  exact shallow

theorem depth_le_of_parse {text : String} (parsed : parse text = .ok name) :
    name.depth ≤ maxDepth := by
  rw [QualifiedName.parse] at parsed
  split at parsed
  · exact depth_le_of_ofParts parsed
  · exact depth_le_of_ofParts parsed

theorem toOption_eq_some_iff {ε α : Type} {outcome : Except ε α} {value : α} :
    outcome.toOption = some value ↔ outcome = .ok value := by
  cases outcome <;> simp [Except.toOption]

theorem exists_ofParts_of_ofJson? {value : Json} (decoded : ofJson? value = some name) :
    ∃ metalake segments, ofParts metalake segments = .ok name := by
  obtain ⟨fields, _, decoded⟩ := Option.bind_eq_some_iff.mp decoded
  split at decoded
  · obtain ⟨metalake, _, decoded⟩ := Option.bind_eq_some_iff.mp decoded
    obtain ⟨segments, _, decoded⟩ := Option.bind_eq_some_iff.mp decoded
    exact ⟨metalake, segments, toOption_eq_some_iff.mp decoded⟩
  · cases decoded

theorem depth_of_parent? (above : name.parent? = some parent) : name.depth = parent.depth + 1 := by
  obtain ⟨segment, rfl⟩ := parent?_eq_some_iff.mp above
  exact depth_below parent segment

/-- No way to make a name leads too far down. -/
theorem Obtainable.depth_le (obtainable : Obtainable name) : name.depth ≤ maxDepth := by
  induction obtainable with
  | parse parsed => exact depth_le_of_parse parsed
  | ofParts made => exact depth_le_of_ofParts made
  | ofMetalake metalake => exact Nat.zero_le maxDepth
  | ofCatalog metalake catalog => exact Nat.le_of_ble_eq_true rfl
  | ofSchema metalake catalog schema => exact Nat.le_of_ble_eq_true rfl
  | ofTable metalake catalog schema table => exact Nat.le_refl maxDepth
  | child _ below => exact depth_le_of_ofParts below
  | parent _ above ih =>
      rw [depth_of_parent? above] at ih
      exact Nat.le_of_succ_le ih
  | ofJson decoded =>
      obtain ⟨metalake, segments, made⟩ := exists_ofParts_of_ofJson? decoded
      exact depth_le_of_ofParts made

theorem exists_of_depth_le (shallow : name.depth ≤ maxDepth) :
    (∃ metalake, name = .ofMetalake metalake) ∨
      (∃ metalake catalog, name = .ofCatalog metalake catalog) ∨
      (∃ metalake catalog schema, name = .ofSchema metalake catalog schema) ∨
      ∃ metalake catalog schema table, name = .ofTable metalake catalog schema table := by
  obtain ⟨metalake, segments⟩ := name
  match segments, shallow with
  | [], _ => exact .inl ⟨metalake, rfl⟩
  | [catalog], _ => exact .inr (.inl ⟨metalake, catalog, rfl⟩)
  | [catalog, schema], _ => exact .inr (.inr (.inl ⟨metalake, catalog, schema, rfl⟩))
  | [catalog, schema, table], _ =>
      exact .inr (.inr (.inr ⟨metalake, catalog, schema, table, rfl⟩))
  | _ :: _ :: _ :: _ :: _, shallow =>
      simp only [depth, List.length_cons, maxDepth] at shallow
      omega

theorem depth_kind (shallow : name.depth ≤ maxDepth) : name.kind.depth = name.depth := by
  obtain ⟨_, rfl⟩ | ⟨_, _, rfl⟩ | ⟨_, _, _, rfl⟩ | ⟨_, _, _, _, rfl⟩ :=
    exists_of_depth_le shallow <;> rfl

theorem require_eq_ok_iff_depth {expected : EntityKind} (shallow : name.depth ≤ maxDepth) :
    name.require expected = .ok () ↔ name.depth = expected.depth := by
  have kinds : name.kind = expected ↔ name.kind.depth = expected.depth := by
    cases name.kind <;> cases expected <;> decide
  rw [require_eq_ok_iff, kinds, depth_kind shallow]

end Depth

section Ancestors

/-- The name some levels up. -/
def ancestor? (name : QualifiedName) : Nat → Option QualifiedName
  | 0 => some name
  | steps + 1 => (name.ancestor? steps).bind parent?

theorem parent?_eq (metalake : String) (segments : List String) :
    parent? ⟨metalake, segments⟩ =
      if segments = [] then none else some ⟨metalake, segments.dropLast⟩ := by
  cases segments <;> rfl

theorem length_take_segments (name : QualifiedName) (steps : Nat) :
    (name.segments.take (name.depth - steps)).length = name.depth - steps :=
  List.length_take_of_le (Nat.sub_le _ _)

theorem ancestor?_eq (name : QualifiedName) (steps : Nat) : name.ancestor? steps =
    if steps ≤ name.depth then
      some ⟨name.metalake, name.segments.take (name.depth - steps)⟩
    else none := by
  induction steps with
  | zero => simp [ancestor?, depth]
  | succ steps ih =>
      rw [ancestor?, ih]
      by_cases above : steps + 1 ≤ name.depth
      · have length := length_take_segments name steps
        have left : name.segments.take (name.depth - steps) ≠ [] := by
          rw [← List.length_pos_iff, length]
          omega
        rw [if_pos (by omega), if_pos above, Option.bind_some, parent?_eq, if_neg left,
          List.dropLast_eq_take, length, List.take_take, Nat.min_eq_left (Nat.sub_le _ _),
          Nat.sub_sub]
      · rw [if_neg above]
        split
        · have top : name.depth - steps = 0 := by omega
          rw [Option.bind_some, parent?_eq, top, List.take_zero, if_pos rfl]
        · rfl

/-- The metalake is as many levels up as a name is deep. -/
theorem ancestor?_eq_metalake_iff {steps : Nat} :
    name.ancestor? steps = some (.ofMetalake name.metalake) ↔ steps = name.depth := by
  rw [ancestor?_eq]
  constructor
  · intro reached
    split at reached
    · rename_i above
      have none : name.segments.take (name.depth - steps) = [] :=
        congrArg segments (Option.some.inj reached)
      have length := congrArg List.length none
      rw [length_take_segments, List.length_nil] at length
      omega
    · cases reached
  · rintro rfl
    rw [if_pos (Nat.le_refl _), Nat.sub_self, List.take_zero]
    rfl

/-- All names above are those that are reached going up one by one. -/
theorem getElem?_parents (name : QualifiedName) (index : Nat) :
    name.parents[index]? = name.ancestor? (index + 1) := by
  rw [ancestor?_eq, parents, List.getElem?_map]
  by_cases above : index + 1 ≤ name.depth
  · have inside : index < (List.range name.depth).length := by
      rw [List.length_range]
      omega
    rw [if_pos above, List.getElem?_reverse inside, List.length_range,
      List.getElem?_range (by omega), Option.map_some, Nat.sub_sub, Nat.add_comm 1 index]
  · have outside : (List.range name.depth).reverse.length ≤ index := by
      rw [List.length_reverse, List.length_range]
      omega
    rw [if_neg above, List.getElem?_eq_none outside]
    rfl

end Ancestors

section Views

theorem exists_asCatalog_iff : (∃ view, name.asCatalog = .ok view) ↔ name.depth = 1 := by
  simp only [asCatalog_eq_ok_iff]
  constructor
  · rintro ⟨view, rfl⟩
    rfl
  · intro one
    obtain ⟨catalog, only⟩ := List.length_eq_one_iff.mp one
    exact ⟨⟨name.metalake, catalog⟩, congrArg (QualifiedName.mk name.metalake) only⟩

theorem exists_asSchema_iff : (∃ view, name.asSchema = .ok view) ↔ name.depth = 2 := by
  simp only [asSchema_eq_ok_iff]
  constructor
  · rintro ⟨view, rfl⟩
    rfl
  · intro two
    obtain ⟨catalog, schema, both⟩ := List.length_eq_two.mp two
    exact ⟨⟨name.metalake, catalog, schema⟩, congrArg (QualifiedName.mk name.metalake) both⟩

theorem exists_asTable_iff : (∃ view, name.asTable = .ok view) ↔ name.depth = 3 := by
  simp only [asTable_eq_ok_iff]
  constructor
  · rintro ⟨view, rfl⟩
    rfl
  · intro three
    obtain ⟨catalog, schema, table, all⟩ := List.length_eq_three.mp three
    exact ⟨⟨name.metalake, catalog, schema, table⟩, congrArg (QualifiedName.mk name.metalake) all⟩

/-- A name that is not too deep can be seen as that of a table by its kind alone, and its segments
are then taken by their places. -/
theorem asTable_eq_of_require (shallow : name.depth ≤ maxDepth) : name.asTable =
    (name.require .table).map fun _ => ⟨name.metalake, name.segments.getD 0 "",
      name.segments.getD 1 "", name.segments.getD 2 ""⟩ := by
  obtain ⟨_, rfl⟩ | ⟨_, _, rfl⟩ | ⟨_, _, _, rfl⟩ | ⟨_, _, _, _, rfl⟩ :=
    exists_of_depth_le shallow <;> rfl

end Views

theorem ofJson?_toJson (name : QualifiedName) :
    ofJson? name.toJson = (ofParts name.metalake name.segments).toOption := by
  have fields : name.toJson.fields? ["metalake", "segments"] =
      some [.string name.metalake, .strings name.segments] := by
    simp [toJson]
  simp [ofJson?, fields]

theorem ofJson?_toJson_iff (shallow : name.depth ≤ maxDepth) :
    ofJson? name.toJson = some name ↔ name.Filled := by
  rw [ofJson?_toJson, toOption_eq_some_iff, ofParts_eq_ok_iff]
  exact ⟨fun made => made.2.2, fun filled => ⟨rfl, shallow, filled⟩⟩

/-- What holds of a name that is not too deep. -/
structure Disciplined (name : QualifiedName) : Prop where
  depth_le : name.depth ≤ 3
  /-- A name is seen as that of a catalog, a schema or a table at one depth each. -/
  asCatalog : (∃ view, name.asCatalog = .ok view) ↔ name.depth = 1
  asSchema : (∃ view, name.asSchema = .ok view) ↔ name.depth = 2
  asTable : (∃ view, name.asTable = .ok view) ↔ name.depth = 3
  qualified_catalog : ∀ view, name.asCatalog = .ok view → view.qualified = name
  qualified_schema : ∀ view, name.asSchema = .ok view → view.qualified = name
  qualified_table : ∀ view, name.asTable = .ok view → view.qualified = name
  /-- The kind tells the depth. -/
  require : ∀ kind, name.require kind = .ok () ↔ name.depth = kind.depth
  asTable_by_kind : name.asTable =
    (name.require .table).map fun _ => ⟨name.metalake, name.segments.getD 0 "",
      name.segments.getD 1 "", name.segments.getD 2 ""⟩
  child : ∀ segment, (∃ child, name.child segment = .ok child) ↔
    name.depth < 3 ∧ segment ≠ "" ∧ ∀ part ∈ name.components, part ≠ ""
  above_child : ∀ segment child, name.child segment = .ok child →
    child.parent? = some name ∧ child.last = segment
  /-- Going up one by one, one comes to the metalake after as many steps as the name is deep. -/
  ancestors : ∀ steps,
    name.ancestor? steps = some (.ofMetalake name.metalake) ↔ steps = name.depth
  parents : ∀ index, name.parents[index]? = name.ancestor? (index + 1)
  decoded : ofJson? name.toJson = some name ↔ ∀ part ∈ name.components, part ≠ ""

/-- Every name that can be made keeps to the depths that names have. -/
theorem disciplined_of_obtainable (obtainable : Obtainable name) : Disciplined name where
  depth_le := obtainable.depth_le
  asCatalog := exists_asCatalog_iff
  asSchema := exists_asSchema_iff
  asTable := exists_asTable_iff
  qualified_catalog _ viewed := (asCatalog_eq_ok_iff.mp viewed).symm
  qualified_schema _ viewed := (asSchema_eq_ok_iff.mp viewed).symm
  qualified_table _ viewed := (asTable_eq_ok_iff.mp viewed).symm
  require _ := require_eq_ok_iff_depth obtainable.depth_le
  asTable_by_kind := asTable_eq_of_require obtainable.depth_le
  child segment := by
    simp only [child_eq_ok_iff, exists_eq_left]
    exact and_congr_right fun _ => and_comm
  above_child segment child below := by
    obtain ⟨rfl, _⟩ := child_eq_ok_iff.mp below
    exact ⟨parent?_eq_some_iff.mpr ⟨segment, rfl⟩, last_below name segment⟩
  ancestors _ := ancestor?_eq_metalake_iff
  parents := getElem?_parents name
  decoded := ofJson?_toJson_iff obtainable.depth_le

/-- A name with an empty part, which is made without a check and then left for the one above. -/
theorem disciplined_uncheckedSchema :
    Obtainable ⟨"lake", ["", "db"]⟩ ∧ Disciplined ⟨"lake", ["", "db"]⟩ ∧
      (∃ view, asSchema ⟨"lake", ["", "db"]⟩ = .ok view) ∧
      ¬ (∃ below, QualifiedName.child ⟨"lake", ["", "db"]⟩ "t" = .ok below) ∧
      ancestor? ⟨"lake", ["", "db"]⟩ 2 = some (.ofMetalake "lake") ∧
      ofJson? (toJson ⟨"lake", ["", "db"]⟩) ≠ some ⟨"lake", ["", "db"]⟩ := by
  have obtainable : Obtainable ⟨"lake", ["", "db"]⟩ :=
    .parent (.ofTable "lake" "" "db" "t") rfl
  have disciplined := disciplined_of_obtainable obtainable
  have notFilled : ¬ ∀ part ∈ components ⟨"lake", ["", "db"]⟩, part ≠ "" := by decide
  refine ⟨obtainable, disciplined, disciplined.asSchema.mpr rfl, fun below => ?_,
    (disciplined.ancestors 2).mpr rfl, fun back => notFilled (disciplined.decoded.mp back)⟩
  exact notFilled ((disciplined.child "t").mp below).2.2

end QualifiedName

end CatalogGateway
