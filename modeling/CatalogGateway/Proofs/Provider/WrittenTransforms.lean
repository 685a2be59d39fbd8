import CatalogGateway.Proofs.Provider.IcebergLayout

/-!
# How transforms may be written

A partition in an iceberg catalog is read from the texts of a small grammar and from no others: a
column by itself, or the name of a transform in any case and after it, in parentheses, a column
and the number of the transform if it has one.  Blanks may stand around each token.
-/

namespace CatalogGateway

namespace IcebergLayout

open Text

variable {text name inner : List Char} {column : String} {number : Option UInt32}
  {transform : Transform}

/-- The transforms of a column that are written with their name: those without a number and those
with one. -/
def namedTransforms (column : String) : Option UInt32 → List Transform
  | none => [.year column, .month column, .day column, .hour column]
  | some number => [.bucket number [column], .truncate number column]

/-- The tokens of a column, and of a number after a comma. -/
inductive Arguments : List (List Char) → String → Option UInt32 → Prop where
  | column {quoted : Bool} {column identifier : List Char}
      (written : Identifier.Written quoted column identifier) :
      Arguments [identifier] (String.ofList column) none
  | numbered {quoted : Bool} {column identifier numeral : List Char} {number : UInt32}
      (written : Identifier.Written quoted column identifier)
      (counts : UnsignedNumeral numeral number.toNat) :
      Arguments [identifier, [','], numeral] (String.ofList column) (some number)

/-- The texts that a transform may be written as. -/
inductive TransformText : List Char → Transform → Prop where
  | identity {quoted : Bool} {column identifier text : List Char}
      (written : Identifier.Written quoted column identifier) (spaced : Spaced [identifier] text) :
      TransformText text (.identity (String.ofList column))
  /-- A name is a word without quotes, and its case does not matter. -/
  | named {name text : List Char} {tokens : List (List Char)} {column : String}
      {number : Option UInt32} {transform : Transform}
      (arguments : Arguments tokens column number)
      (known : transform ∈ namedTransforms column number)
      (plain : Identifier.isPlain name = true)
      (same : name.map Char.toLower = transform.name.toList)
      (spaced : Spaced (name :: ['('] :: (tokens ++ [[')']])) text) :
      TransformText text transform

theorem enclosed?_eq_some_iff : enclosed? text = some inner ↔ text = '(' :: (inner ++ [')']) := by
  constructor
  · intro read
    unfold enclosed? at read
    split at read
    · split at read
      · rename_i rest ends
        cases read
        rw [List.dropLast_append_getLast? _ ends]
      · cases read
    · cases read
  · rintro rfl
    rw [enclosed?, List.getLast?_concat, if_pos rfl, List.dropLast_concat]

theorem enclosed?_trim_eq_some_iff :
    enclosed? (trim text) = some inner ↔ Spaced ['(' :: (inner ++ [')'])] text := by
  have bare : Bare ('(' :: (inner ++ [')'])) := by
    refine ⟨rfl, ?_⟩
    rw [← List.cons_append, List.getLast?_concat]
    rfl
  rw [enclosed?_eq_some_iff, trim_eq_iff]
  exact and_iff_right bare

theorem transformNamed?_eq_some_iff : transformNamed? name column number = some transform ↔
    transform ∈ namedTransforms column number ∧
      name.map Char.toLower = transform.name.toList := by
  have sameText : name.map Char.toLower = transform.name.toList ↔
      String.ofList (name.map Char.toLower) = transform.name := by
    rw [← String.toList_inj, String.toList_ofList]
  rw [sameText]
  unfold transformNamed?
  generalize String.ofList (name.map Char.toLower) = lower
  constructor
  · intro read
    split at read
    case h_7 => cases read
    all_goals
      cases read
      exact ⟨by simp [namedTransforms], rfl⟩
  · rintro ⟨known, rfl⟩
    cases number <;> simp only [namedTransforms, List.mem_cons, List.not_mem_nil, or_false] at known
    · rcases known with rfl | rfl | rfl | rfl <;> rfl
    · rcases known with rfl | rfl <;> rfl

/-- A number after a comma is trimmed together with the comma, and again without it. -/
theorem spaced_numeral_iff {value : Nat} : (∃ numeral, UnsignedNumeral numeral value ∧
      Spaced [[','], numeral] text) ↔
    ∃ written, trim text = ',' :: written ∧ UnsignedNumeral (trim written) value := by
  constructor
  · rintro ⟨numeral, counts, spaced⟩
    cases spaced with
    | cons blankBefore spaced =>
        obtain ⟨between, after, blankBetween, blankAfter, rfl⟩ := spaced_singleton_iff.mp spaced
        have bare : Bare numeral := bare_of_forall counts.isBlank_eq_false
        have trimmed : trim (between ++ numeral) = numeral :=
          trim_eq_iff.mpr ⟨bare, spaced_singleton_iff.mpr
            ⟨between, [], blankBetween, blanks_nil, by rw [List.append_nil]⟩⟩
        refine ⟨between ++ numeral, trim_eq_iff.mpr ⟨⟨rfl, ?_⟩, spaced_singleton_iff.mpr
          ⟨_, after, blankBefore, blankAfter, ?_⟩⟩, trimmed.symm ▸ counts⟩
        · rw [← List.cons_append, List.getLast?_append_of_ne_nil _ counts.ne_nil]
          exact bare.2
        · simp only [List.append_assoc, List.cons_append, List.nil_append]
  · rintro ⟨written, trimmed, counts⟩
    obtain ⟨_, spaced⟩ := trim_eq_iff.mp trimmed
    obtain ⟨_, inside⟩ := trim_eq_iff.mp (rfl : trim written = _)
    obtain ⟨before, after, blankBefore, blankAfter, rfl⟩ := spaced_singleton_iff.mp spaced
    have rest : Spaced [trim written] (written ++ after) := by
      simpa using inside.append (.nil blankAfter)
    exact ⟨trim written, counts, .cons blankBefore rest⟩

theorem argumentsOf?_eq_some_iff : argumentsOf? inner = some (column, number) ↔
    ∃ tokens, Arguments tokens column number ∧ Spaced tokens inner := by
  constructor
  · intro read
    obtain ⟨⟨column, quoted, rest⟩, split, read⟩ := Option.bind_eq_some_iff.mp read
    dsimp only at read
    split at read
    · rename_i nothing
      cases read
      obtain ⟨identifier, written, spaced⟩ := Identifier.exists_spaced_of_split? split
        (.nil (trim_eq_nil_iff.mp nothing))
      exact ⟨_, .column written, spaced⟩
    · rename_i numeralText trimmed
      obtain ⟨value, counts, found⟩ := Option.bind_eq_some_iff.mp read
      cases found
      obtain ⟨numeral, counts, spaced⟩ :=
        spaced_numeral_iff.mpr ⟨_, trimmed, uint32?_eq_some_iff.mp counts⟩
      obtain ⟨identifier, written, spaced⟩ := Identifier.exists_spaced_of_split? split spaced
      exact ⟨_, .numbered written counts, spaced⟩
    · cases read
  · rintro ⟨tokens, arguments, spaced⟩
    cases arguments with
    | column written =>
        obtain ⟨rest, split, ends⟩ := Identifier.exists_split?_of_spaced written spaced
          fun rest => Identifier.stops_of_spaced_nil _
        simp only [argumentsOf?, split, Option.bind_eq_bind, Option.bind_some,
          trim_eq_nil_iff.mpr (spaced_nil_iff.mp ends)]
    | numbered written counts =>
        obtain ⟨rest, split, continues⟩ := Identifier.exists_split?_of_spaced written spaced
          fun rest spaced => Identifier.stops_of_head? _ _ (by decide +kernel) spaced.head?
        obtain ⟨numeralText, trimmed, counts⟩ := spaced_numeral_iff.mp ⟨_, counts, continues⟩
        simp only [argumentsOf?, split, Option.bind_eq_bind, Option.bind_some, trimmed,
          uint32?_eq_some_iff.mpr counts]

theorem transformOf?_eq_some_iff {entry : String} :
    transformOf? entry = some transform ↔ TransformText entry.toList transform := by
  constructor
  · intro read
    obtain ⟨⟨front, quoted, rest⟩, split, read⟩ := Option.bind_eq_some_iff.mp read
    dsimp only at read
    split at read
    · rename_i nothing
      cases read
      obtain ⟨identifier, written, spaced⟩ := Identifier.exists_spaced_of_split? split
        (.nil (trim_eq_nil_iff.mp nothing))
      exact .identity written spaced
    · obtain ⟨_, unquoted, read⟩ := Option.bind_eq_some_iff.mp read
      obtain ⟨inner, enclosed, read⟩ := Option.bind_eq_some_iff.mp read
      obtain ⟨⟨column, number⟩, isArguments, isNamed⟩ := Option.bind_eq_some_iff.mp read
      obtain ⟨tokens, arguments, inside⟩ := argumentsOf?_eq_some_iff.mp isArguments
      obtain ⟨known, same⟩ := transformNamed?_eq_some_iff.mp isNamed
      have spaced : Spaced (['('] :: (tokens ++ [[')']])) rest :=
        spaced_enclosed_iff.mpr ⟨inner, enclosed?_trim_eq_some_iff.mp enclosed, inside⟩
      obtain ⟨name, written, spaced⟩ := Identifier.exists_spaced_of_split? split spaced
      cases written with
      | plain plain => exact .named arguments known plain same spaced
      | quoted => cases unquoted
  · intro written
    cases written with
    | identity written spaced =>
        obtain ⟨rest, split, ends⟩ := Identifier.exists_split?_of_spaced written spaced
          fun rest => Identifier.stops_of_spaced_nil _
        simp only [transformOf?, split, Option.bind_eq_bind, Option.bind_some,
          trim_eq_nil_iff.mpr (spaced_nil_iff.mp ends)]
    | named arguments known plain same spaced =>
        obtain ⟨rest, split, continues⟩ := Identifier.exists_split?_of_spaced (.plain plain) spaced
          fun rest spaced => Identifier.stops_of_head? _ _ (by decide +kernel) spaced.head?
        obtain ⟨inner, enclosed, inside⟩ := spaced_enclosed_iff.mp continues
        have isArguments := argumentsOf?_eq_some_iff.mpr ⟨_, arguments, inside⟩
        have isNamed := transformNamed?_eq_some_iff.mpr ⟨known, same⟩
        have isEnclosed := enclosed?_trim_eq_some_iff.mpr enclosed
        have trimmed := enclosed?_eq_some_iff.mp isEnclosed
        simp only [transformOf?, split, Option.bind_eq_bind, Option.bind_some]
        rw [trimmed] at isEnclosed ⊢
        simp [isEnclosed, isArguments, isNamed]

theorem columns_of_mem_namedTransforms (known : transform ∈ namedTransforms column number) :
    transform.columns = [column] ∧ (encodeTransform? transform).isSome = true := by
  cases number <;> simp only [namedTransforms, List.mem_cons, List.not_mem_nil, or_false] at known
  · rcases known with rfl | rfl | rfl | rfl <;> exact ⟨rfl, rfl⟩
  · rcases known with rfl | rfl <;> exact ⟨rfl, rfl⟩

theorem ne_empty_of_arguments {tokens : List (List Char)}
    (arguments : Arguments tokens column number) : column ≠ "" := by
  cases arguments with
  | column written => simpa using written.column_ne_nil
  | numbered written => simpa using written.column_ne_nil

theorem TransformText.exists_column (written : TransformText text transform) :
    (∃ column, transform.columns = [column] ∧ column ≠ "") ∧
      (encodeTransform? transform).isSome = true := by
  cases written with
  | identity written => exact ⟨⟨_, rfl, by simpa using written.column_ne_nil⟩, rfl⟩
  | named arguments known =>
      obtain ⟨columns, isWritten⟩ := columns_of_mem_namedTransforms known
      exact ⟨⟨_, columns, ne_empty_of_arguments arguments⟩, isWritten⟩

theorem decodeTransform_eq_ok_iff {entry : String} :
    decodeTransform entry = .ok transform ↔ TransformText entry.toList transform := by
  rw [← transformOf?_eq_some_iff, decodeTransform]
  split <;> simp_all

/-- A transform is read from exactly the texts that it may be written as.  It has one column, which
is not empty, and it is read back from the text that it is stored as. -/
theorem decodes_written_transforms (entry : String) :
    (∀ transform, decodeTransform entry = .ok transform ↔
        TransformText entry.toList transform) ∧
      ∀ transform, decodeTransform entry = .ok transform →
        (∃ column, transform.columns = [column] ∧ column ≠ "") ∧
          ∃ written, encodeTransform? transform = some written ∧
            decodeTransform written = .ok transform := by
  refine ⟨fun transform => decodeTransform_eq_ok_iff, fun transform decoded => ?_⟩
  obtain ⟨⟨column, columns, named⟩, isWritten⟩ :=
    (decodeTransform_eq_ok_iff.mp decoded).exists_column
  obtain ⟨written, encoded⟩ := Option.isSome_iff_exists.mp isWritten
  have allNamed : ∀ other ∈ transform.columns, other ≠ "" := by
    rw [columns]
    exact List.forall_mem_singleton.mpr named
  exact ⟨⟨column, columns, named⟩, written, encoded,
    decodeTransform_encodeTransform allNamed encoded⟩

/-- The column has both a quote and what could end it, and the number a sign and zeros. -/
theorem decodes_quoted_bucket :
    decodeTransform " Bucket ( \"a\"\"(,b)\" ,+007 ) " = .ok (.bucket 7 ["a\"(,b)"]) ∧
      TransformText " Bucket ( \"a\"\"(,b)\" ,+007 ) ".toList (.bucket 7 ["a\"(,b)"]) ∧
      ∃ written, encodeTransform? (.bucket 7 ["a\"(,b)"]) = some written ∧
        decodeTransform written = .ok (.bucket 7 ["a\"(,b)"]) := by
  have decoded : decodeTransform " Bucket ( \"a\"\"(,b)\" ,+007 ) " =
      .ok (.bucket 7 ["a\"(,b)"]) := by
    decide +kernel
  have theory := decodes_written_transforms " Bucket ( \"a\"\"(,b)\" ,+007 ) "
  exact ⟨decoded, (theory.1 _).mp decoded, (theory.2 _ decoded).2⟩

end IcebergLayout

end CatalogGateway
