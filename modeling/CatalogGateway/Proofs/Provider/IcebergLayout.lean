import CatalogGateway.Proofs.Provider.StoredParts
import CatalogGateway.Proofs.Text.Identifier
import CatalogGateway.Proofs.Text.Numeral
import CatalogGateway.Provider.IcebergLayout
import Mathlib.Data.Option.Basic

/-!
# What an iceberg catalog keeps of a layout

An iceberg catalog keeps all sort orders and all partitions but buckets over more or fewer
columns than one, and no distribution.  Each transform and each sort key is written as a text
from which it is read back, whatever characters the name of its column is made of.
-/

namespace CatalogGateway

namespace IcebergLayout

open Text

variable {policy : LayoutPolicy} {table : String} {layout : Layout}

/-- The part of a layout that is kept. -/
def kept (layout : Layout) : Layout where
  partitioning := layout.partitioning.filter fun transform => (encodeTransform? transform).isSome
  sortOrders := layout.sortOrders

/-- The entries that the part of a layout that is kept is stored in. -/
def storedParts (layout : Layout) : List (String × PropertyValue) :=
  Provider.storedArray "partitioning" (layout.partitioning.filterMap encodeTransform?) ++
    Provider.storedArray "sorted_by" (layout.sortOrders.map encodeSortKey)

/-- How the part of a layout that is kept is stored. -/
def stored (layout : Layout) : EngineProperties :=
  .ofList (storedParts layout)

section Encoding

theorem encodePartitioning_eq_ok_iff {transforms : List Transform} {written : List String} :
    encodePartitioning policy table transforms = .ok written ↔
      (policy = .required → ∀ transform ∈ transforms, (encodeTransform? transform).isSome) ∧
        transforms.filterMap encodeTransform? = written := by
  refine Provider.stored_eq_ok_iff (encodePartitioning policy table) encodeTransform? rfl ?_ ?_
  · intro transform rest text result isText
    rw [encodePartitioning, isText]
    simp [Outcome.bind_eq_ok_iff, pure, Except.pure]
  · intro transform rest result noText
    rw [encodePartitioning, noText]
    exact Provider.leaveOut_bind_eq_ok_iff

theorem dropDistribution_eq_ok_iff {distribution : Option Distribution} {outcome : Unit} :
    dropDistribution policy table distribution = .ok outcome ↔
      (policy = .required → distribution = none) := by
  cases distribution with
  | none => simp [dropDistribution]
  | some distribution =>
      rw [dropDistribution, Provider.leaveOut_eq_ok_iff]
      cases policy <;> simp

/-- A layout can be stored if, under the strict policy, all of it is kept. -/
theorem encode_eq_ok_iff {properties : EngineProperties} :
    encode policy table layout = .ok properties ↔
      (policy = .required → kept layout = layout) ∧ stored layout = properties := by
  obtain ⟨partitioning, orders, distribution⟩ := layout
  have allKept :
      kept ⟨partitioning, orders, distribution⟩ = ⟨partitioning, orders, distribution⟩ ↔
      (∀ transform ∈ partitioning, (encodeTransform? transform).isSome = true) ∧
        distribution = none := by
    simp [kept, List.filter_eq_self, eq_comm (a := none)]
  rw [encode, allKept]
  constructor
  · intro encoded
    obtain ⟨written, partitionsEncoded, encoded⟩ := Outcome.bind_eq_ok_iff.mp encoded
    obtain ⟨_, distributionDropped, same⟩ := Outcome.bind_eq_ok_iff.mp encoded
    obtain ⟨partitionsKept, rfl⟩ := encodePartitioning_eq_ok_iff.mp partitionsEncoded
    have noDistribution := dropDistribution_eq_ok_iff.mp distributionDropped
    exact ⟨fun strict => ⟨partitionsKept strict, noDistribution strict⟩, Except.ok.inj same⟩
  · rintro ⟨isKept, rfl⟩
    refine Outcome.bind_eq_ok_iff.mpr ⟨_, encodePartitioning_eq_ok_iff.mpr
      ⟨fun strict => (isKept strict).1, rfl⟩, ?_⟩
    exact Outcome.bind_eq_ok_iff.mpr ⟨(), dropDistribution_eq_ok_iff.mpr
      fun strict => (isKept strict).2, rfl⟩

end Encoding

section Transforms

variable {column name inner : List Char}

theorem argumentsOf?_column (named : column ≠ []) :
    argumentsOf? (Identifier.quote column) = some (String.ofList column, none) := by
  have split := Identifier.split?_quote_append named (Identifier.endsAt_nil column)
  rw [List.append_nil] at split
  rw [argumentsOf?, split]
  rfl

theorem argumentsOf?_column_number (named : column ≠ []) (number : UInt32) :
    argumentsOf? (Identifier.quote column ++ (',' :: ' ' :: decimal number.toNat)) =
      some (String.ofList column, some number) := by
  have split := Identifier.split?_quote_append named (Identifier.endsAt_cons column ','
    (' ' :: decimal number.toNat) (by decide +kernel))
  -- What follows the column is trimmed with its comma, and again without it.
  have trimmed : trim (',' :: ' ' :: decimal number.toNat) = ',' :: ' ' :: decimal number.toNat :=
    trim_append_decimal [',', ' '] number.toNat rfl
  have unspaced : trim (' ' :: decimal number.toNat) = decimal number.toNat :=
    trim_decimal number.toNat
  simp only [argumentsOf?, split, Option.bind_eq_bind, Option.bind_some, trimmed, unspaced,
    uint32?_decimal]

theorem trim_enclosed (inner : List Char) :
    trim ('(' :: (inner ++ [')'])) = '(' :: (inner ++ [')']) := by
  refine trim_of_ends rfl ?_
  rw [← List.cons_append, List.getLast?_concat]
  rfl

/-- A word before a pair of parentheses names a transform of what stands between them. -/
theorem transformOf?_of_enclosed {text : String} (plain : Identifier.isPlain name = true)
    (written : text.toList = name ++ '(' :: (inner ++ [')'])) :
    transformOf? text = (argumentsOf? inner).bind fun arguments =>
      transformNamed? name arguments.1 arguments.2 := by
  have named : name ≠ [] := by
    rintro rfl
    cases plain
  have split := Identifier.split?_quote_append named
    (Identifier.endsAt_cons name '(' (inner ++ [')']) (by decide +kernel))
  rw [Identifier.quote, if_pos plain, ← written, plain] at split
  have inside : enclosed? ('(' :: (inner ++ [')'])) = some inner := by
    rw [enclosed?, List.getLast?_concat, if_pos rfl, List.dropLast_concat]
  simp only [transformOf?, split, Option.bind_eq_bind, Option.bind_some, trim_enclosed, inside]
  rfl

theorem transformOf?_column {column text : String} (name : String)
    (plain : Identifier.isPlain name.toList = true) (named : column ≠ "")
    (written : text = name ++ "(" ++ Identifier.quoted column ++ ")") :
    transformOf? text = transformNamed? name.toList column none := by
  have namedList : column.toList ≠ [] := by simpa using named
  have enclosed : text.toList =
      name.toList ++ '(' :: (Identifier.quote column.toList ++ [')']) := by
    simp [written, Identifier.quoted]
  rw [transformOf?_of_enclosed plain enclosed, argumentsOf?_column namedList, Option.bind_some,
    String.ofList_toList]

theorem transformOf?_column_number {column text : String} {number : UInt32} (name : String)
    (plain : Identifier.isPlain name.toList = true) (named : column ≠ "")
    (written : text = name ++ "(" ++ Identifier.quoted column ++ ", " ++ toString number ++ ")") :
    transformOf? text = transformNamed? name.toList column (some number) := by
  have namedList : column.toList ≠ [] := by simpa using named
  have enclosed : text.toList = name.toList ++ '(' ::
      ((Identifier.quote column.toList ++ (',' :: ' ' :: decimal number.toNat)) ++ [')']) := by
    simp [written, Identifier.quoted, decimal, toString]
  rw [transformOf?_of_enclosed plain enclosed, argumentsOf?_column_number namedList,
    Option.bind_some, String.ofList_toList]

theorem exists_of_encodeTransform?_bucket {buckets : UInt32} {columns : List String}
    {text : String} (written : encodeTransform? (.bucket buckets columns) = some text) :
    ∃ column, columns = [column] := by
  cases columns with
  | nil => cases written
  | cons column rest =>
      cases rest with
      | nil => exact ⟨column, rfl⟩
      | cons second others => cases written

/-- A transform is read back from its written form. -/
theorem decodeTransform_encodeTransform {transform : Transform} {text : String}
    (named : ∀ column ∈ transform.columns, column ≠ "")
    (written : encodeTransform? transform = some text) :
    decodeTransform text = .ok transform := by
  have read : transformOf? text = some transform := by
    cases transform with
    | identity column =>
        have columnNamed : column ≠ "" := named column List.mem_cons_self
        obtain rfl := Option.some.inj written
        simp only [transformOf?, Identifier.split?_quoted columnNamed, Option.bind_eq_bind,
          Option.bind_some, String.ofList_toList]
        rfl
    | year column =>
        obtain rfl := Option.some.inj written
        exact transformOf?_column "year" (by decide +kernel) (named _ List.mem_cons_self) rfl
    | month column =>
        obtain rfl := Option.some.inj written
        exact transformOf?_column "month" (by decide +kernel) (named _ List.mem_cons_self) rfl
    | day column =>
        obtain rfl := Option.some.inj written
        exact transformOf?_column "day" (by decide +kernel) (named _ List.mem_cons_self) rfl
    | hour column =>
        obtain rfl := Option.some.inj written
        exact transformOf?_column "hour" (by decide +kernel) (named _ List.mem_cons_self) rfl
    | bucket buckets columns =>
        obtain ⟨column, rfl⟩ := exists_of_encodeTransform?_bucket written
        obtain rfl := Option.some.inj written
        exact transformOf?_column_number "bucket" (by decide +kernel)
          (named _ List.mem_cons_self) rfl
    | truncate width column =>
        obtain rfl := Option.some.inj written
        exact transformOf?_column_number "truncate" (by decide +kernel)
          (named _ List.mem_cons_self) rfl
  rw [decodeTransform, read]

end Transforms

section SortKeys

/-- What is written after the column of a sort key. -/
def sortSuffix : SortDirection → NullOrdering → String
  | .ascending, .nullsFirst => ""
  | .ascending, .nullsLast => " NULLS LAST"
  | .descending, .nullsFirst => " DESC NULLS FIRST"
  | .descending, .nullsLast => " DESC"

theorem encodeSortKey_eq (column : String) (direction : SortDirection) (nulls : NullOrdering) :
    encodeSortKey ⟨column, direction, nulls⟩ =
      Identifier.quoted column ++ sortSuffix direction nulls := by
  cases direction <;> cases nulls <;>
    simp only [encodeSortKey, sortSuffix, String.append_assoc] <;> rfl

theorem endsAt_sortSuffix (column : List Char) (direction : SortDirection) (nulls : NullOrdering) :
    Identifier.EndsAt column (sortSuffix direction nulls).toList := by
  cases direction <;> cases nulls
  · exact Identifier.endsAt_nil column
  all_goals exact Identifier.endsAt_blank column _

/-- A sort key is read back from its written form. -/
theorem decodeSortKey_encodeSortKey {order : SortOrder} (named : order.column ≠ "") :
    decodeSortKey (encodeSortKey order) = .ok order := by
  have read : sortKeyOf? (encodeSortKey order) = some order := by
    obtain ⟨column, direction, nulls⟩ := order
    have split := Identifier.split?_quoted_append (sortSuffix direction nulls) named
      (endsAt_sortSuffix _ direction nulls)
    simp only [sortKeyOf?, encodeSortKey_eq, split, Option.bind_eq_bind, Option.bind_some,
      String.ofList_toList]
    cases direction <;> cases nulls <;> rfl
  rw [decodeSortKey, read]

end SortKeys

section Decoding

theorem keys_storedParts (layout : Layout) :
    ((storedParts layout).map Prod.fst).Sublist ["partitioning", "sorted_by"] := by
  rw [storedParts, List.map_append]
  exact (Provider.keys_storedArray_sublist "partitioning" _).append
    (Provider.keys_storedArray_sublist "sorted_by" _)

theorem lookups_stored (layout : Layout) :
    (stored layout).get? "partitioning" =
        Provider.arrayValue? (layout.partitioning.filterMap encodeTransform?) ∧
      (stored layout).get? "sorted_by" =
        Provider.arrayValue? (layout.sortOrders.map encodeSortKey) := by
  have distinct : ((storedParts layout).map Prod.fst).Nodup :=
    List.Nodup.sublist (keys_storedParts layout) (by decide)
  simp only [stored, Dictionary.get?_ofList distinct]
  simp [storedParts, List.lookup_append, Provider.lookup_storedArray]

/-- The part of a layout that is kept is read back. -/
theorem decode_stored
    (partitionsNamed : ∀ transform ∈ layout.partitioning, ∀ column ∈ transform.columns, column ≠ "")
    (ordersNamed : ∀ order ∈ layout.sortOrders, order.column ≠ "") :
    decode (stored layout) = .ok (kept layout) := by
  obtain ⟨partitions, keys⟩ := lookups_stored layout
  have partitionsRead : (layout.partitioning.filterMap encodeTransform?).mapM decodeTransform =
      .ok (kept layout).partitioning :=
    Provider.mapM_filterMap_eq_ok _ _ fun transform member text written =>
      decodeTransform_encodeTransform (partitionsNamed transform member) written
  have ordersRead : (layout.sortOrders.map encodeSortKey).mapM decodeSortKey =
      .ok layout.sortOrders :=
    Provider.mapM_map_eq_ok fun order member =>
      decodeSortKey_encodeSortKey (ordersNamed order member)
  refine Outcome.bind_eq_ok_iff.mpr ⟨_, Provider.readArray_of_get? partitions, ?_⟩
  refine Outcome.bind_eq_ok_iff.mpr ⟨_, partitionsRead, ?_⟩
  refine Outcome.bind_eq_ok_iff.mpr ⟨_, Provider.readArray_of_get? keys, ?_⟩
  exact Outcome.bind_eq_ok_iff.mpr ⟨_, ordersRead, rfl⟩

/-- All of what is kept of a layout is kept of it again. -/
theorem kept_kept (layout : Layout) : kept (kept layout) = kept layout := by
  simp only [kept, List.filter_filter, Bool.and_self]

/-- What is kept of a layout is stored as the layout is. -/
theorem stored_kept (layout : Layout) : stored (kept layout) = stored layout := by
  have partitions : (kept layout).partitioning.filterMap encodeTransform? =
      layout.partitioning.filterMap encodeTransform? :=
    Provider.filterMap_filter_isSome encodeTransform? layout.partitioning
  rw [stored, storedParts, partitions]
  rfl

end Decoding

end IcebergLayout

end CatalogGateway
