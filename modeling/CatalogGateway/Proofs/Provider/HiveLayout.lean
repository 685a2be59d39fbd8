import CatalogGateway.Proofs.Provider.StoredParts
import CatalogGateway.Proofs.Text.Identifier
import CatalogGateway.Provider.HiveLayout
import Mathlib.Data.Option.Basic

/-!
# What a hive catalog keeps of a layout

A hive catalog keeps the partitions by the value of a column, a distribution by hash, and with
it the sort orders, whose nulls go to their usual places.  Under either policy the part that it
keeps is stored in the same way and read back; the strict one allows no other part.
-/

namespace CatalogGateway

namespace SortOrder

/-- The sort order with its nulls in their usual place. -/
def withUsualNulls (order : SortOrder) : SortOrder :=
  .usual order.column order.direction

theorem withUsualNulls_eq_self_iff {order : SortOrder} :
    order.withUsualNulls = order ↔ order.hasDefaultNulls = true := by
  obtain ⟨column, direction, nulls⟩ := order
  simp [withUsualNulls, usual, hasDefaultNulls, eq_comm]

end SortOrder

namespace HiveLayout

variable {policy : LayoutPolicy} {table : String} {layout : Layout}

/-- The column of a partition by value. -/
def partitionColumn? : Transform → Option String
  | .identity column => some column
  | _ => none

/-- The distribution that is kept: one by hash. -/
def keptDistribution (distribution : Option Distribution) : Option Distribution :=
  distribution.filter fun distribution => distribution.strategy = .hash

/-- The sort orders that are kept beside a distribution. -/
def keptOrders (distribution : Option Distribution) (orders : List SortOrder) :
    List SortOrder :=
  if distribution.isSome then orders.map SortOrder.withUsualNulls else []

/-- The part of a layout that is kept. -/
def kept (layout : Layout) : Layout where
  partitioning := layout.partitioning.filter fun transform => (partitionColumn? transform).isSome
  sortOrders := keptOrders (keptDistribution layout.distribution) layout.sortOrders
  distribution := keptDistribution layout.distribution

/-- A distribution by hash has buckets and columns. -/
def Bucketable (distribution : Option Distribution) : Prop :=
  ∀ present ∈ distribution, present.strategy = .hash → present.number ≠ 0 ∧ present.columns ≠ []

/-- The entries that the part of a layout that is kept is stored in. -/
def storedParts (layout : Layout) : List (String × PropertyValue) :=
  Provider.storedArray "partitioned_by" (layout.partitioning.filterMap partitionColumn?) ++
    encodeDistribution (kept layout).distribution ++
    Provider.storedArray "sorted_by" ((kept layout).sortOrders.map encodeSortKey)

/-- How the part of a layout that is kept is stored. -/
def stored (layout : Layout) : EngineProperties :=
  .ofList (storedParts layout)

section Encoding

theorem encodePartitioning_eq_ok_iff {transforms : List Transform} {columns : List String} :
    encodePartitioning policy table transforms = .ok columns ↔
      (policy = .required → ∀ transform ∈ transforms, (partitionColumn? transform).isSome) ∧
        transforms.filterMap partitionColumn? = columns := by
  refine Provider.stored_eq_ok_iff (encodePartitioning policy table) partitionColumn? rfl ?_ ?_
  · intro transform rest column result isColumn
    cases transform with
    | identity present =>
        cases isColumn
        rw [encodePartitioning, Outcome.bind_eq_ok_iff]
        simp [pure, Except.pure]
    | _ => cases isColumn
  · intro transform rest result notColumn
    cases transform with
    | identity present => cases notColumn
    | _ => exact Provider.leaveOut_bind_eq_ok_iff

theorem supportedDistribution_eq_ok_iff {distribution outcome : Option Distribution} :
    supportedDistribution policy table distribution = .ok outcome ↔
      Bucketable distribution ∧
        (policy = .required → keptDistribution distribution = distribution) ∧
        keptDistribution distribution = outcome := by
  cases distribution with
  | none => simp [supportedDistribution, Bucketable, keptDistribution]
  | some distribution =>
      by_cases hash : distribution.strategy = .hash
      · by_cases incomplete : distribution.number = 0 ∨ distribution.columns = []
        · have notBucketable : ¬ Bucketable (some distribution) := fun bucketable =>
            have complete := bucketable distribution rfl hash
            incomplete.elim complete.1 complete.2
          simp [supportedDistribution, hash, incomplete, notBucketable]
        · have bucketable : Bucketable (some distribution) := by
            rintro present ⟨rfl⟩ _
            exact not_or.mp incomplete
          have stays : keptDistribution (some distribution) = some distribution := by
            simp [keptDistribution, hash]
          simp [supportedDistribution, hash, incomplete, bucketable, stays]
      · have bucketable : Bucketable (some distribution) := by
          rintro present ⟨rfl⟩ isHash
          exact absurd isHash hash
        have left : keptDistribution (some distribution) = none := by
          simp [keptDistribution, hash]
        rw [supportedDistribution, if_pos hash, Provider.leaveOut_bind_eq_ok_iff, left]
        cases policy <;> simp [bucketable, pure, Except.pure]

theorem encodeSortKeys_eq_ok_iff {orders : List SortOrder} {keys : List String} :
    encodeSortKeys policy table orders = .ok keys ↔
      (policy = .required → orders.map SortOrder.withUsualNulls = orders) ∧
        orders.map encodeSortKey = keys := by
  induction orders generalizing keys with
  | nil => simp [encodeSortKeys]
  | cons order rest ih =>
      rw [encodeSortKeys, List.map_cons, List.map_cons, List.cons.injEq,
        SortOrder.withUsualNulls_eq_self_iff]
      cases usual : order.hasDefaultNulls with
      | true =>
          simp only [Bool.not_true, Bool.false_eq_true, if_false]
          rw [Outcome.bind_eq_ok_iff]
          simp [ih, pure, Except.pure, and_assoc]
      | false =>
          -- The key is written all the same, without its nulls.
          simp only [Bool.not_false, if_true]
          rw [Provider.leaveOut_bind_eq_ok_iff, Outcome.bind_eq_ok_iff]
          cases policy <;> simp [ih, pure, Except.pure]

theorem encodeSorting_eq_ok_iff {distribution : Option Distribution} {orders : List SortOrder}
    {keys : List String} :
    encodeSorting policy table distribution orders = .ok keys ↔
      (policy = .required → keptOrders distribution orders = orders) ∧
        (keptOrders distribution orders).map encodeSortKey = keys := by
  have written : (orders.map SortOrder.withUsualNulls).map encodeSortKey =
      orders.map encodeSortKey := by
    rw [List.map_map]
    rfl
  cases orders with
  | nil => simp [encodeSorting, keptOrders]
  | cons order rest =>
      rw [encodeSorting, if_neg (by simp)]
      cases distribution with
      | none =>
          rw [if_pos Option.isNone_none, Provider.leaveOut_bind_eq_ok_iff]
          cases policy <;> simp [keptOrders, pure, Except.pure]
      | some distribution =>
          rw [if_neg (by simp), encodeSortKeys_eq_ok_iff, keptOrders,
            if_pos Option.isSome_some, written]

/-- A layout can be stored if a distribution by hash is complete and, under the strict policy,
all of the layout is kept. -/
theorem encode_eq_ok_iff {properties : EngineProperties} :
    encode policy table layout = .ok properties ↔
      Bucketable layout.distribution ∧ (policy = .required → kept layout = layout) ∧
        stored layout = properties := by
  obtain ⟨partitioning, orders, distribution⟩ := layout
  have allKept :
      kept ⟨partitioning, orders, distribution⟩ = ⟨partitioning, orders, distribution⟩ ↔
      (∀ transform ∈ partitioning, (partitionColumn? transform).isSome = true) ∧
        keptOrders (keptDistribution distribution) orders = orders ∧
        keptDistribution distribution = distribution := by
    simp [kept, List.filter_eq_self]
  rw [encode, allKept]
  constructor
  · intro encoded
    obtain ⟨columns, partitionsEncoded, encoded⟩ := Outcome.bind_eq_ok_iff.mp encoded
    obtain ⟨supported, distributionEncoded, encoded⟩ := Outcome.bind_eq_ok_iff.mp encoded
    obtain ⟨keys, keysEncoded, same⟩ := Outcome.bind_eq_ok_iff.mp encoded
    obtain ⟨partitionsKept, rfl⟩ := encodePartitioning_eq_ok_iff.mp partitionsEncoded
    obtain ⟨bucketable, distributionKept, rfl⟩ :=
      supportedDistribution_eq_ok_iff.mp distributionEncoded
    obtain ⟨ordersKept, rfl⟩ := encodeSorting_eq_ok_iff.mp keysEncoded
    refine ⟨bucketable, fun strict => ?_, Except.ok.inj same⟩
    exact ⟨partitionsKept strict, ordersKept strict, distributionKept strict⟩
  · rintro ⟨bucketable, isKept, rfl⟩
    refine Outcome.bind_eq_ok_iff.mpr ⟨_, encodePartitioning_eq_ok_iff.mpr
      ⟨fun strict => (isKept strict).1, rfl⟩, ?_⟩
    refine Outcome.bind_eq_ok_iff.mpr ⟨_, supportedDistribution_eq_ok_iff.mpr
      ⟨bucketable, fun strict => (isKept strict).2.2, rfl⟩, ?_⟩
    exact Outcome.bind_eq_ok_iff.mpr ⟨_, encodeSorting_eq_ok_iff.mpr
      ⟨fun strict => (isKept strict).2.1, rfl⟩, rfl⟩

end Encoding

section Decoding

theorem map_identity_filterMap (transforms : List Transform) :
    (transforms.filterMap partitionColumn?).map Transform.identity =
      transforms.filter fun transform => (partitionColumn? transform).isSome := by
  induction transforms with
  | nil => rfl
  | cons transform rest ih =>
      cases transform with
      | identity column => exact congrArg (Transform.identity column :: ·) ih
      | _ => exact ih

theorem decodeSortKey_encodeSortKey {order : SortOrder} (named : order.column ≠ "")
    (usual : order.hasDefaultNulls = true) :
    decodeSortKey (encodeSortKey order) = .ok order := by
  rw [← SortOrder.withUsualNulls_eq_self_iff] at usual
  have read : sortKeyOf? (encodeSortKey order) = some order.withUsualNulls := by
    obtain ⟨column, direction, nulls⟩ := order
    cases direction with
    | ascending =>
        have split := Text.Identifier.split?_quoted named
        simp only [sortKeyOf?, encodeSortKey, split, Option.bind_eq_bind, Option.bind_some,
          String.ofList_toList]
        rfl
    | descending =>
        have split := Text.Identifier.split?_quoted_append " DESC" named
          (Text.Identifier.endsAt_blank _ _)
        simp only [sortKeyOf?, encodeSortKey, split, Option.bind_eq_bind, Option.bind_some,
          String.ofList_toList]
        rfl
  rw [decodeSortKey, read, usual]

variable {properties : EngineProperties}

theorem bucketCount?_of_get? {number : UInt32} (found : properties.get? "bucket_count" =
    some (.integer (Int64.ofNat number.toNat))) : bucketCount? properties = some number := by
  -- Every count fits into the wider signed number that it is stored as.
  have bound : number.toNat < 4294967296 := number.toNat_lt
  have value : (Int64.ofNat number.toNat).toInt = number.toNat :=
    Int64.toInt_ofNat_of_lt (by omega)
  have fits : (0 : Int) ≤ number.toNat ∧ (number.toNat : Int) < (UInt32.size : Int) := by
    simp only [UInt32.size]
    omega
  simp only [bucketCount?, found, Option.bind_eq_bind, Option.bind_some, PropertyValue.integer?,
    value, if_pos fits, Int.toNat_natCast, UInt32.ofNat_toNat]

theorem keys_storedParts (layout : Layout) : ((storedParts layout).map Prod.fst).Sublist
    ["partitioned_by", "bucketed_by", "bucket_count", "sorted_by"] := by
  have distributionKeys : ((encodeDistribution (kept layout).distribution).map Prod.fst).Sublist
      ["bucketed_by", "bucket_count"] := by
    cases (kept layout).distribution <;> simp [encodeDistribution]
  rw [storedParts, List.map_append, List.map_append]
  exact ((Provider.keys_storedArray_sublist "partitioned_by" _).append distributionKeys).append
    (Provider.keys_storedArray_sublist "sorted_by" _)

theorem lookups_stored (layout : Layout) :
    (stored layout).get? "partitioned_by" =
        Provider.arrayValue? (layout.partitioning.filterMap partitionColumn?) ∧
      (stored layout).get? "bucketed_by" =
        (kept layout).distribution.map (fun distribution => .array distribution.columns) ∧
      (stored layout).get? "bucket_count" = (kept layout).distribution.map
        (fun distribution => .integer (Int64.ofNat distribution.number.toNat)) ∧
      (stored layout).get? "sorted_by" =
        Provider.arrayValue? ((kept layout).sortOrders.map encodeSortKey) := by
  have distinct : ((storedParts layout).map Prod.fst).Nodup :=
    List.Nodup.sublist (keys_storedParts layout) (by decide)
  simp only [stored, Dictionary.get?_ofList distinct]
  simp only [storedParts, List.lookup_append, Provider.lookup_storedArray]
  cases (kept layout).distribution <;> simp [encodeDistribution, Dictionary.lookup_cons]

theorem readDistribution {distribution : Option Distribution} (bucketable : Bucketable distribution)
    (byHash : ∀ present ∈ distribution, present.strategy = .hash)
    (columnsStored : properties.get? "bucketed_by" =
      distribution.map fun distribution => .array distribution.columns)
    (count : properties.get? "bucket_count" =
      distribution.map fun distribution => .integer (Int64.ofNat distribution.number.toNat)) :
    ∃ read, Provider.readArray properties "bucketed_by" = .ok read ∧
      decodeDistribution properties read = .ok distribution := by
  rw [Provider.readArray, columnsStored]
  cases distribution with
  | none => exact ⟨[], rfl, rfl⟩
  | some distribution =>
      obtain ⟨strategy, number, columns⟩ := distribution
      obtain rfl : strategy = .hash := byHash _ rfl
      have present : columns.isEmpty = false := by
        simpa using (bucketable _ rfl rfl).2
      refine ⟨columns, rfl, ?_⟩
      rw [decodeDistribution, if_neg (by simp [present]), bucketCount?_of_get? count]
      rfl

theorem mem_keptDistribution_iff {distribution : Option Distribution} {present : Distribution} :
    present ∈ keptDistribution distribution ↔
      present ∈ distribution ∧ present.strategy = .hash := by
  simp [keptDistribution, Option.mem_def, Option.filter_eq_some_iff]

theorem bucketable_kept (bucketable : Bucketable layout.distribution) :
    Bucketable (kept layout).distribution := fun present member =>
  bucketable present (mem_keptDistribution_iff.mp member).1

theorem mem_keptOrders {distribution : Option Distribution} {orders : List SortOrder}
    {order : SortOrder} (member : order ∈ keptOrders distribution orders) :
    ∃ present ∈ orders, present.withUsualNulls = order := by
  rw [keptOrders] at member
  split at member
  · exact List.mem_map.mp member
  · cases member

/-- The part of a layout that is kept is read back. -/
theorem decode_stored (named : ∀ order ∈ layout.sortOrders, order.column ≠ "")
    (bucketable : Bucketable layout.distribution) :
    decode (stored layout) = .ok (kept layout) := by
  obtain ⟨partitions, columns, count, keys⟩ := lookups_stored layout
  obtain ⟨_, columnsRead, distributionRead⟩ := readDistribution (bucketable_kept bucketable)
    (fun present member => (mem_keptDistribution_iff.mp member).2) columns count
  have ordersRead : ((kept layout).sortOrders.map encodeSortKey).mapM decodeSortKey =
      .ok (kept layout).sortOrders := by
    refine Provider.mapM_map_eq_ok fun order member => ?_
    obtain ⟨present, inLayout, rfl⟩ := mem_keptOrders member
    exact decodeSortKey_encodeSortKey (named present inLayout)
      (SortOrder.withUsualNulls_eq_self_iff.mp rfl)
  refine Outcome.bind_eq_ok_iff.mpr ⟨_, Provider.readArray_of_get? partitions, ?_⟩
  refine Outcome.bind_eq_ok_iff.mpr ⟨_, columnsRead, ?_⟩
  refine Outcome.bind_eq_ok_iff.mpr ⟨_, distributionRead, ?_⟩
  refine Outcome.bind_eq_ok_iff.mpr ⟨_, Provider.readArray_of_get? keys, ?_⟩
  refine Outcome.bind_eq_ok_iff.mpr ⟨_, ordersRead, ?_⟩
  rw [map_identity_filterMap]
  rfl

end Decoding

section Idempotence

theorem keptDistribution_keptDistribution (distribution : Option Distribution) :
    keptDistribution (keptDistribution distribution) = keptDistribution distribution := by
  simp only [keptDistribution, Option.filter_filter, Bool.and_self]

/-- All of what is kept of a layout is kept of it again. -/
theorem kept_kept (layout : Layout) : kept (kept layout) = kept layout := by
  have orders : keptOrders (keptDistribution layout.distribution)
      (keptOrders (keptDistribution layout.distribution) layout.sortOrders) =
        keptOrders (keptDistribution layout.distribution) layout.sortOrders := by
    unfold keptOrders
    split
    · rw [List.map_map]
      rfl
    · rfl
  simp only [kept, keptDistribution_keptDistribution, orders, List.filter_filter, Bool.and_self]

/-- What is kept of a layout is stored as the layout is. -/
theorem stored_kept (layout : Layout) : stored (kept layout) = stored layout := by
  have partitions : (kept layout).partitioning.filterMap partitionColumn? =
      layout.partitioning.filterMap partitionColumn? :=
    Provider.filterMap_filter_isSome partitionColumn? layout.partitioning
  rw [stored, storedParts, partitions, kept_kept]
  rfl

end Idempotence

end HiveLayout

end CatalogGateway
