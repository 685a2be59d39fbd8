import CatalogGateway.Proofs.Provider.HiveLayout
import CatalogGateway.Proofs.Provider.IcebergLayout

/-!
# How sort keys may be written

A sort key is read from the texts of a small grammar and from no others: a column, and after
blanks the direction if it is stated.  In an iceberg catalog the place of the nulls may be stated
after that.  The words for these are keywords in any case.
-/

namespace CatalogGateway

open Text

namespace SortOrder

variable {text : List Char} {column : String} {words first second : List (List Char)}
  {direction : SortDirection} {nulls : NullOrdering}

/-- A word with its ASCII letters in upper case, as keywords are compared. -/
def folded (word : List Char) : String :=
  String.ofList (word.map Char.toUpper)

/-- The texts of a column, which blanks may precede, and some words after it. -/
inductive KeyText : List Char → String → List (List Char) → Prop where
  | mk {quoted : Bool} {before column identifier after : List Char} {words : List (List Char)}
      (blank : Blanks before) (written : Identifier.Written quoted column identifier)
      (spaced : SpacedWords words after) :
      KeyText (before ++ (identifier ++ after)) (String.ofList column) words

/-- The words that state a direction; the ascending one need not be stated. -/
inductive DirectionWords : SortDirection → List (List Char) → Prop where
  | unstated : DirectionWords .ascending []
  | stated {direction : SortDirection} {word : List Char}
      (keyword : folded word = direction.display) : DirectionWords direction [word]

/-- The words that state the place of the nulls; the usual one of a direction need not be
stated. -/
inductive NullsWords (direction : SortDirection) : NullOrdering → List (List Char) → Prop where
  | unstated : NullsWords direction direction.defaultNulls []
  | first {word place : List Char} (keyword : folded word = "NULLS")
      (isFirst : folded place = "FIRST") : NullsWords direction .nullsFirst [word, place]
  | last {word place : List Char} (keyword : folded word = "NULLS")
      (isLast : folded place = "LAST") : NullsWords direction .nullsLast [word, place]

theorem keyText_iff : KeyText text column words ↔ ∃ front, Identifier.split? text = some front ∧
    front.rest.head?.all isBlank = true ∧ String.ofList front.column = column ∧
    Text.words front.rest = words := by
  constructor
  · rintro ⟨blank, written, spaced⟩
    obtain ⟨starts, cut⟩ := spacedWords_iff.mp spaced
    exact ⟨⟨_, _, _⟩, Identifier.split?_eq_some_iff.mpr ⟨_, _, blank, written,
      Identifier.stops_of_head?_isBlank _ starts, rfl⟩, starts, rfl, cut⟩
  · rintro ⟨⟨column, quoted, rest⟩, split, starts, rfl, rfl⟩
    obtain ⟨before, identifier, blank, written, _, rfl⟩ :=
      Identifier.split?_eq_some_iff.mp split
    exact .mk blank written (spacedWords_words starts)

theorem directionWords_iff : DirectionWords direction words ↔
    (words.map folded = [] ∧ direction = .ascending) ∨ words.map folded = [direction.display] := by
  constructor
  · rintro (_ | keyword)
    · exact .inl ⟨rfl, rfl⟩
    · exact .inr (congrArg ([·]) keyword)
  · rintro (⟨none, rfl⟩ | one)
    · rw [List.map_eq_nil_iff.mp none]
      exact .unstated
    · obtain ⟨word, rfl, keyword⟩ := List.map_eq_singleton_iff.mp one
      exact .stated keyword

theorem nullsWords_iff : NullsWords direction nulls words ↔
    (words.map folded = [] ∧ nulls = direction.defaultNulls) ∨
      (words.map folded = ["NULLS", "FIRST"] ∧ nulls = .nullsFirst) ∨
      (words.map folded = ["NULLS", "LAST"] ∧ nulls = .nullsLast) := by
  constructor
  · rintro (_ | ⟨keyword, isFirst⟩ | ⟨keyword, isLast⟩)
    · exact .inl ⟨rfl, rfl⟩
    · exact .inr (.inl ⟨by simp [keyword, isFirst], rfl⟩)
    · exact .inr (.inr ⟨by simp [keyword, isLast], rfl⟩)
  · rintro (⟨none, rfl⟩ | ⟨two, rfl⟩ | ⟨two, rfl⟩)
    · rw [List.map_eq_nil_iff.mp none]
      exact .unstated
    · obtain ⟨word, rest, rfl, keyword, one⟩ := List.map_eq_cons_iff.mp two
      obtain ⟨place, rfl, isFirst⟩ := List.map_eq_singleton_iff.mp one
      exact .first keyword isFirst
    · obtain ⟨word, rest, rfl, keyword, one⟩ := List.map_eq_cons_iff.mp two
      obtain ⟨place, rfl, isLast⟩ := List.map_eq_singleton_iff.mp one
      exact .last keyword isLast

theorem KeyText.column_ne_empty (key : KeyText text column words) : column ≠ "" := by
  cases key with
  | mk blank written => simpa using written.column_ne_nil

end SortOrder

namespace HiveLayout

open SortOrder

variable {key : String} {order : SortOrder}

/-- The texts that a sort order may be written as, whose nulls are in their usual place. -/
inductive SortKeyText : List Char → SortOrder → Prop where
  | usual {text : List Char} {column : String} {words : List (List Char)}
      {direction : SortDirection} (key : KeyText text column words)
      (directed : DirectionWords direction words) : SortKeyText text (.usual column direction)

theorem sortKeyOf?_eq_some_iff : sortKeyOf? key = some order ↔ SortKeyText key.toList order := by
  constructor
  · intro read
    obtain ⟨front, split, read⟩ := Option.bind_eq_some_iff.mp read
    obtain ⟨_, starts, read⟩ := Option.bind_eq_some_iff.mp read
    have isKey := keyText_iff.mpr ⟨front, split, by simpa using starts, rfl, rfl⟩
    dsimp only at read
    split at read
    · rename_i none
      cases read
      exact .usual isKey (directionWords_iff.mpr (.inl ⟨none, rfl⟩))
    · rename_i ascending
      cases read
      exact .usual isKey (directionWords_iff.mpr (.inr ascending))
    · rename_i descending
      cases read
      exact .usual isKey (directionWords_iff.mpr (.inr descending))
    · cases read
  · intro written
    cases written with
    | @usual column words direction isKey directed =>
        obtain ⟨front, split, starts, rfl, rfl⟩ := keyText_iff.mp isKey
        have cut : ((Text.words front.rest).map fun word => String.ofList (word.map Char.toUpper)) =
            (Text.words front.rest).map folded := rfl
        simp only [sortKeyOf?, split, cut, Option.bind_eq_bind, Option.bind_some, starts,
          guard_true]
        rcases directionWords_iff.mp directed with ⟨none, rfl⟩ | stated
        · rw [none]
          rfl
        · rw [stated]
          cases direction <;> rfl

theorem decodeSortKey_eq_ok_iff :
    decodeSortKey key = .ok order ↔ SortKeyText key.toList order := by
  rw [← sortKeyOf?_eq_some_iff, decodeSortKey]
  split <;> simp_all

theorem SortKeyText.readBack {text : List Char} (written : SortKeyText text order) :
    decodeSortKey (encodeSortKey order) = .ok order := by
  cases written with
  | usual key => exact decodeSortKey_encodeSortKey key.column_ne_empty (decide_eq_true rfl)

end HiveLayout

namespace IcebergLayout

open SortOrder

variable {key : String} {order : SortOrder} {words first second : List (List Char)}
  {direction : SortDirection} {nulls : NullOrdering}

/-- The texts that a sort order may be written as. -/
inductive SortKeyText : List Char → SortOrder → Prop where
  | stated {text : List Char} {column : String} {first second : List (List Char)}
      {direction : SortDirection} {nulls : NullOrdering}
      (key : KeyText text column (first ++ second)) (directed : DirectionWords direction first)
      (placed : NullsWords direction nulls second) : SortKeyText text ⟨column, direction, nulls⟩

theorem splitDirection_eq (directed : DirectionWords direction first)
    (placed : NullsWords direction nulls second) :
    splitDirection ((first ++ second).map folded) = (direction, second.map folded) := by
  cases directed with
  | unstated =>
      -- The words for the nulls are not those for a direction.
      rcases nullsWords_iff.mp placed with ⟨none, _⟩ | ⟨two, _⟩ | ⟨two, _⟩
      · rw [List.nil_append, none]
        rfl
      · rw [List.nil_append, two]
        rfl
      · rw [List.nil_append, two]
        rfl
  | stated keyword =>
      rw [List.map_append, List.map_singleton, keyword]
      cases direction <;> rfl

theorem exists_directionWords (words : List (List Char)) : ∃ first second, words = first ++ second ∧
    DirectionWords (splitDirection (words.map folded)).1 first ∧
    second.map folded = (splitDirection (words.map folded)).2 := by
  unfold splitDirection
  split
  · rename_i rest stated
    obtain ⟨word, others, rfl, keyword, same⟩ := List.map_eq_cons_iff.mp stated
    exact ⟨[word], others, rfl, .stated keyword, same⟩
  · rename_i rest stated
    obtain ⟨word, others, rfl, keyword, same⟩ := List.map_eq_cons_iff.mp stated
    exact ⟨[word], others, rfl, .stated keyword, same⟩
  · exact ⟨[], words, rfl, .unstated, rfl⟩

theorem sortKeyOf?_eq_some_iff : sortKeyOf? key = some order ↔ SortKeyText key.toList order := by
  constructor
  · intro read
    obtain ⟨front, split, read⟩ := Option.bind_eq_some_iff.mp read
    obtain ⟨_, starts, read⟩ := Option.bind_eq_some_iff.mp read
    obtain ⟨first, second, same, directed, rest⟩ := exists_directionWords (Text.words front.rest)
    have isKey := keyText_iff.mpr ⟨front, split, by simpa using starts, rfl, same⟩
    dsimp only at read
    split at read
    · rename_i none
      cases read
      exact .stated isKey directed (nullsWords_iff.mpr (.inl ⟨rest.trans none, rfl⟩))
    · rename_i two
      cases read
      exact .stated isKey directed (nullsWords_iff.mpr (.inr (.inl ⟨rest.trans two, rfl⟩)))
    · rename_i two
      cases read
      exact .stated isKey directed (nullsWords_iff.mpr (.inr (.inr ⟨rest.trans two, rfl⟩)))
    · cases read
  · rintro ⟨isKey, directed, placed⟩
    obtain ⟨front, split, starts, rfl, same⟩ := keyText_iff.mp isKey
    have cut : splitDirection ((Text.words front.rest).map fun word =>
        String.ofList (word.map Char.toUpper)) = (_, _) :=
      same ▸ splitDirection_eq directed placed
    simp only [sortKeyOf?, split, cut, Option.bind_eq_bind, Option.bind_some, starts, guard_true]
    rcases nullsWords_iff.mp placed with ⟨none, rfl⟩ | ⟨two, rfl⟩ | ⟨two, rfl⟩
    · rw [none]
      rfl
    · rw [two]
      rfl
    · rw [two]
      rfl

theorem decodeSortKey_eq_ok_iff :
    decodeSortKey key = .ok order ↔ SortKeyText key.toList order := by
  rw [← sortKeyOf?_eq_some_iff, decodeSortKey]
  split <;> simp_all

theorem SortKeyText.readBack {text : List Char} (written : SortKeyText text order) :
    decodeSortKey (encodeSortKey order) = .ok order := by
  cases written with
  | stated key => exact decodeSortKey_encodeSortKey key.column_ne_empty

end IcebergLayout

/-- In both kinds of catalogs a sort order is read from exactly the texts that it may be written
as, and it is read back from the text that it is stored as. -/
theorem SortOrder.decodes_written_keys (key : String) :
    (∀ order, HiveLayout.decodeSortKey key = .ok order ↔
        HiveLayout.SortKeyText key.toList order) ∧
      (∀ order, IcebergLayout.decodeSortKey key = .ok order ↔
        IcebergLayout.SortKeyText key.toList order) ∧
      (∀ order, HiveLayout.decodeSortKey key = .ok order →
        HiveLayout.decodeSortKey (HiveLayout.encodeSortKey order) = .ok order) ∧
      ∀ order, IcebergLayout.decodeSortKey key = .ok order →
        IcebergLayout.decodeSortKey (IcebergLayout.encodeSortKey order) = .ok order := by
  refine ⟨fun order => HiveLayout.decodeSortKey_eq_ok_iff,
    fun order => IcebergLayout.decodeSortKey_eq_ok_iff, fun order decoded => ?_,
    fun order decoded => ?_⟩
  · exact (HiveLayout.decodeSortKey_eq_ok_iff.mp decoded).readBack
  · exact (IcebergLayout.decodeSortKey_eq_ok_iff.mp decoded).readBack

/-- Columns that are named like keywords. -/
theorem SortOrder.decodes_keyword_columns :
    HiveLayout.decodeSortKey " desc\tasc " = .ok ⟨"desc", .ascending, .nullsFirst⟩ ∧
      HiveLayout.SortKeyText " desc\tasc ".toList ⟨"desc", .ascending, .nullsFirst⟩ ∧
      HiveLayout.decodeSortKey (HiveLayout.encodeSortKey ⟨"desc", .ascending, .nullsFirst⟩) =
        .ok ⟨"desc", .ascending, .nullsFirst⟩ ∧
      IcebergLayout.decodeSortKey "\"nulls \"\"first\" Desc nulls FIRST" =
        .ok ⟨"nulls \"first", .descending, .nullsFirst⟩ ∧
      IcebergLayout.SortKeyText "\"nulls \"\"first\" Desc nulls FIRST".toList
        ⟨"nulls \"first", .descending, .nullsFirst⟩ ∧
      IcebergLayout.decodeSortKey
          (IcebergLayout.encodeSortKey ⟨"nulls \"first", .descending, .nullsFirst⟩) =
        .ok ⟨"nulls \"first", .descending, .nullsFirst⟩ := by
  have hive : HiveLayout.decodeSortKey " desc\tasc " =
      .ok ⟨"desc", .ascending, .nullsFirst⟩ := by
    decide +kernel
  have iceberg : IcebergLayout.decodeSortKey "\"nulls \"\"first\" Desc nulls FIRST" =
      .ok ⟨"nulls \"first", .descending, .nullsFirst⟩ := by
    decide +kernel
  obtain ⟨hiveTexts, _, hiveBack, _⟩ := SortOrder.decodes_written_keys " desc\tasc "
  obtain ⟨_, icebergTexts, _, icebergBack⟩ :=
    SortOrder.decodes_written_keys "\"nulls \"\"first\" Desc nulls FIRST"
  exact ⟨hive, (hiveTexts _).mp hive, hiveBack _ hive, iceberg, (icebergTexts _).mp iceberg,
    icebergBack _ iceberg⟩

end CatalogGateway
