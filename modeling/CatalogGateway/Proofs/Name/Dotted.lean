import CatalogGateway.Proofs.Name.Parts

/-!
# Names as dotted texts

A name is written with dots between its parts, and a text is cut at its dots.  The one undoes the
other for every text, and for the names whose parts have no dots themselves.
-/

namespace CatalogGateway

namespace QualifiedName

variable {text : String} {name : QualifiedName}

/-- No part of a name has a dot. -/
def Dotless (name : QualifiedName) : Prop :=
  ∀ part ∈ name.components, '.' ∉ part.toList

theorem notMem_of_mem_splitOn {separator : Char} {characters piece : List Char}
    (member : piece ∈ characters.splitOn separator) : separator ∉ piece := by
  induction characters generalizing piece with
  | nil =>
      rw [List.splitOn_nil, List.mem_singleton] at member
      simp [member]
  | cons character rest ih =>
      rw [List.splitOn_cons_eq_if_modifyHead] at member
      split at member
      · rcases List.mem_cons.mp member with rfl | inRest
        · exact List.not_mem_nil
        · exact ih inRest
      · rename_i differs
        -- The first piece of the rest is continued to the left, the others stay.
        obtain ⟨first, others, pieces⟩ :=
          List.exists_cons_of_ne_nil (List.splitOn_ne_nil separator rest)
        rw [pieces] at member ih
        rcases List.mem_cons.mp member with rfl | inOthers
        · intro inPiece
          rcases List.mem_cons.mp inPiece with same | inFirst
          · exact differs (beq_iff_eq.mpr same.symm)
          · exact ih List.mem_cons_self inFirst
        · exact ih (List.mem_cons_of_mem first inOthers)

theorem toList_display (name : QualifiedName) :
    name.display.toList = ['.'].intercalate (name.components.map String.toList) := by
  rw [display, String.toList_intercalate]
  rfl

theorem exists_parse_eq (text : String) : ∃ metalake segments,
    (components ⟨metalake, segments⟩).map String.toList = text.toList.splitOn '.' ∧
      parse text = ofParts metalake segments := by
  obtain ⟨first, others, pieces⟩ :=
    List.exists_cons_of_ne_nil (List.splitOn_ne_nil '.' text.toList)
  refine ⟨String.ofList first, others.map String.ofList, ?_, ?_⟩
  · simp [components, pieces, Function.comp_def]
  · rw [parse, pieces]

/-- The parts of a name that is read from a text are the pieces of the text between its dots. -/
theorem pieces_of_parse (parsed : parse text = .ok name) :
    name.components.map String.toList = text.toList.splitOn '.' := by
  obtain ⟨metalake, segments, pieces, same⟩ := exists_parse_eq text
  rw [same] at parsed
  obtain ⟨rfl, _⟩ := ofParts_eq_ok_iff.mp parsed
  exact pieces

/-- A name is read from the text that it is written as, and from no other, if it could be made of
its parts and none of them has a dot. -/
theorem parse_eq_ok_iff : parse text = .ok name ↔
    name.display = text ∧ name.Dotless ∧ name.depth ≤ maxDepth ∧ name.Filled := by
  obtain ⟨metalake, segments, pieces, same⟩ := exists_parse_eq text
  constructor
  · intro parsed
    have pieces := pieces_of_parse parsed
    rw [same] at parsed
    obtain ⟨rfl, shallow, filled⟩ := ofParts_eq_ok_iff.mp parsed
    refine ⟨?_, fun part member => ?_, shallow, filled⟩
    · rw [← String.toList_inj, toList_display, pieces, List.intercalate_splitOn]
    · exact notMem_of_mem_splitOn (pieces ▸ List.mem_map_of_mem member)
  · rintro ⟨rfl, dotless, shallow, filled⟩
    have noDots : ∀ piece ∈ name.components.map String.toList, '.' ∉ piece :=
      List.forall_mem_map.mpr dotless
    rw [toList_display, List.splitOn_intercalate '.' noDots (by simp [components])] at pieces
    have components : components ⟨metalake, segments⟩ = name.components :=
      List.map_injective_iff.mpr (fun _ _ => String.toList_inj.mp) pieces
    obtain ⟨rfl, rfl⟩ := List.cons.inj components
    rw [same]
    exact ofParts_eq_ok_iff.mpr ⟨rfl, shallow, filled⟩

theorem exists_parse_eq_error_iff : (∃ fault, parse text = .error fault) ↔
    4 < (text.toList.splitOn '.').length ∨ [] ∈ text.toList.splitOn '.' := by
  obtain ⟨metalake, segments, pieces, same⟩ := exists_parse_eq text
  have tooMany : segments.length ≤ maxDepth ↔
      ¬ 4 < ((components ⟨metalake, segments⟩).map String.toList).length := by
    simp only [components, List.map_cons, List.length_cons, List.length_map, maxDepth]
    omega
  have anyEmpty : Filled ⟨metalake, segments⟩ ↔
      [] ∉ (components ⟨metalake, segments⟩).map String.toList := by
    constructor
    · intro filled member
      obtain ⟨part, inName, isEmpty⟩ := List.mem_map.mp member
      exact filled part inName (String.toList_eq_nil_iff.mp isEmpty)
    · rintro noneEmpty part inName rfl
      exact noneEmpty (List.mem_map.mpr ⟨"", inName, rfl⟩)
  rw [same, exists_ofParts_eq_error_iff, ← pieces, tooMany, anyEmpty, not_and_or, not_not, not_not]

/-- A text is refused as a name exactly when its pieces between dots are too many or one of them is
empty, and a name that is read from it is written like it.  A name that is made of parts is read
back from its text exactly when none of them has a dot. -/
theorem parse_agrees_with_display (text metalake : String) (segments : List String) :
    ((∃ fault, parse text = .error fault) ↔
        4 < (text.toList.splitOn '.').length ∨ [] ∈ text.toList.splitOn '.') ∧
      (∀ name, parse text = .ok name →
        name.display = text ∧ ∀ part ∈ name.components, '.' ∉ part.toList) ∧
      ∀ name, ofParts metalake segments = .ok name →
        (parse name.display = .ok name ↔ ∀ part ∈ name.components, '.' ∉ part.toList) := by
  refine ⟨exists_parse_eq_error_iff, fun name parsed => ?_, fun name made => ?_⟩
  · obtain ⟨written, dotless, _⟩ := parse_eq_ok_iff.mp parsed
    exact ⟨written, dotless⟩
  · obtain ⟨rfl, accepted⟩ := ofParts_eq_ok_iff.mp made
    constructor
    · intro parsed
      exact (parse_eq_ok_iff.mp parsed).2.1
    · intro dotless
      exact parse_eq_ok_iff.mpr ⟨rfl, dotless, accepted⟩

/-- The text of a name with a dot in a part is read as a deeper name. -/
theorem parse_dottedPart :
    (parse "lake.a.b" = .ok ⟨"lake", ["a", "b"]⟩ ∧
      (⟨"lake", ["a", "b"]⟩ : QualifiedName).display = "lake.a.b") ∧
      ofParts "lake" ["a.b"] = .ok ⟨"lake", ["a.b"]⟩ ∧
      parse (⟨"lake", ["a.b"]⟩ : QualifiedName).display ≠ .ok ⟨"lake", ["a.b"]⟩ := by
  have parsed : parse "lake.a.b" = .ok ⟨"lake", ["a", "b"]⟩ := by decide +kernel
  have made : ofParts "lake" ["a.b"] = .ok ⟨"lake", ["a.b"]⟩ := by decide +kernel
  obtain ⟨_, reads, readsBack⟩ := parse_agrees_with_display "lake.a.b" "lake" ["a.b"]
  refine ⟨⟨parsed, (reads _ parsed).1⟩, made, fun back => ?_⟩
  have dotless := (readsBack _ made).mp back "a.b" (by decide)
  exact dotless (by decide +kernel)

end QualifiedName

end CatalogGateway
