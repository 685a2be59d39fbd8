import CatalogGateway.Json.Decoding
import CatalogGateway.Proofs.Dictionary.Lookup

/-!
# Reading back what was written

Each reader of a part gives back what the writer of the part was given.  A value can be
read within a number of levels exactly when it nests no deeper than that.
-/

namespace CatalogGateway

namespace Json

mutual

/-- No bracket opens too many levels exactly when the depth stays within them. -/
theorem excess?_eq_none_iff :
    ∀ (value : Json) (levels column : Nat),
      value.excess? levels column = none ↔ value.depth ≤ levels
  | .null, levels, column => by simp [excess?, depth]
  | .bool _, levels, column => by simp [excess?, depth]
  | .number _ _, levels, column => by simp [excess?, depth]
  | .string _, levels, column => by simp [excess?, depth]
  | .array items, 0, column => by simp [excess?, depth]
  | .array items, levels + 1, column => by
      rw [excess?, depth, itemsExcess?_eq_none_iff items levels (column + 1)]
      omega
  | .object members, 0, column => by simp [excess?, depth]
  | .object members, levels + 1, column => by
      rw [excess?, depth, membersExcess?_eq_none_iff members levels (column + 1)]
      omega

theorem itemsExcess?_eq_none_iff :
    ∀ (items : List Json) (levels column : Nat),
      itemsExcess? items levels column = none ↔ itemsDepth items ≤ levels
  | [], levels, column => by simp [itemsExcess?, itemsDepth]
  | item :: rest, levels, column => by
      rw [itemsExcess?, itemsDepth, Option.or_eq_none_iff,
        excess?_eq_none_iff item levels column, itemsExcess?_eq_none_iff rest levels]
      omega

theorem membersExcess?_eq_none_iff :
    ∀ (members : List (String × Json)) (levels column : Nat),
      membersExcess? members levels column = none ↔ membersDepth members ≤ levels
  | [], levels, column => by simp [membersExcess?, membersDepth]
  | (name, value) :: rest, levels, column => by
      rw [membersExcess?, membersDepth, Option.or_eq_none_iff,
        excess?_eq_none_iff value levels, membersExcess?_eq_none_iff rest levels]
      omega

end

theorem itemsDepth_le {items : List Json} {levels : Nat}
    (bounded : ∀ item ∈ items, item.depth ≤ levels) : itemsDepth items ≤ levels := by
  induction items with
  | nil => simp [itemsDepth]
  | cons item rest ih =>
      rw [itemsDepth]
      have first := bounded item List.mem_cons_self
      have others := ih fun other member => bounded other (List.mem_cons_of_mem _ member)
      omega

theorem membersDepth_le {members : List (String × Json)} {levels : Nat}
    (bounded : ∀ entry ∈ members, entry.2.depth ≤ levels) : membersDepth members ≤ levels := by
  induction members with
  | nil => simp [membersDepth]
  | cons entry rest ih =>
      rw [membersDepth]
      have first := bounded entry List.mem_cons_self
      have others := ih fun other member => bounded other (List.mem_cons_of_mem _ member)
      omega

section Records

@[simp]
theorem namedFields?_object (names : List String) (members : List (String × Json)) :
    (object members).namedFields? names = some (names.map fun name => member name members) :=
  rfl

@[simp]
theorem fields?_object (names : List String) (members : List (String × Json)) :
    (object members).fields? names = some (names.map fun name => member name members) :=
  rfl

@[simp]
theorem member_cons (name present : String) (value : Json) (rest : List (String × Json)) :
    member name ((present, value) :: rest) =
      if name = present then value else member name rest := by
  rw [member, Dictionary.lookup_cons]
  split <;> rfl

end Records

section Scalars

theorem naturalBelow?_natural {bound amount : Nat} (below : amount < bound) :
    (natural amount).naturalBelow? bound = some amount := by
  simp [naturalBelow?, natural, integer?, below]

@[simp]
theorem uint8?_natural (value : UInt8) : (natural value.toNat).uint8? = some value := by
  simp [uint8?, naturalBelow?_natural value.toNat_lt]

@[simp]
theorem uint32?_natural (value : UInt32) : (natural value.toNat).uint32? = some value := by
  simp [uint32?, naturalBelow?_natural value.toNat_lt]

@[simp]
theorem uint64?_natural (value : UInt64) : (natural value.toNat).uint64? = some value := by
  simp [uint64?, naturalBelow?_natural value.toNat_lt]

@[simp]
theorem int64?_integer (value : Int64) : (integer value.toInt).int64? = some value := by
  have lower : Int64.minValue.toInt ≤ value.toInt :=
    Int64.le_iff_toInt_le.mp (Int64.minValue_le value)
  have upper : value.toInt ≤ Int64.maxValue.toInt :=
    Int64.le_iff_toInt_le.mp (Int64.le_maxValue value)
  simp only [int64?, integer, integer?]
  rw [if_pos ⟨lower, upper⟩, Int64.ofInt_toInt]

@[simp]
theorem string?_string (text : String) : (Json.string text).string? = some text :=
  rfl

@[simp]
theorem bool?_bool (value : Bool) : (Json.bool value).bool? = some value :=
  rfl

@[simp]
theorem optionalString?_optionalString (text : Option String) :
    (optionalString text).optionalString? = some text := by
  cases text <;> rfl

end Scalars

section Lists

variable {α : Type} {encode : α → Json} {decode : Json → Option α}

/-- Every value of a kind is read back from its encoding. -/
def ReadsBack (encode : α → Json) (decode : Json → Option α) : Prop :=
  ∀ value, decode (encode value) = some value

/-- Values that are read back have encodings of their own. -/
theorem ReadsBack.injective (reads : ReadsBack encode decode) : Function.Injective encode := by
  intro first second same
  have found := reads second
  rw [← same, reads first] at found
  exact Option.some.inj found

/-- An encoding loses nothing: every value is read back, and no two values share one. -/
structure Lossless (encode : α → Json) (decode : Json → Option α) : Prop where
  readsBack : ReadsBack encode decode
  injective : Function.Injective encode

theorem Lossless.of_readsBack (reads : ReadsBack encode decode) : Lossless encode decode :=
  ⟨reads, reads.injective⟩

theorem list?_list (reads : ReadsBack encode decode) (items : List α) :
    (list encode items).list? decode = some items := by
  simp only [list, list?]
  induction items with
  | nil => rfl
  | cons item rest ih => simp [reads item, ih]

@[simp]
theorem strings?_strings (items : List String) : (strings items).strings? = some items :=
  list?_list string?_string items

/-- An optional part is read back unless its encoding is taken for a missing one. -/
theorem optional?_optional (reads : ReadsBack encode decode)
    (present : ∀ value, encode value ≠ null) (part : Option α) :
    (optional encode part).optional? decode = some part := by
  cases part with
  | none => rfl
  | some value =>
      rw [optional, optional?]
      · rw [reads value, Option.map_some]
      · exact present value

theorem dictionary?_dictionary (reads : ReadsBack encode decode) (entries : Dictionary α) :
    dictionary? decode (dictionary encode entries) = some entries := by
  have read (list : List (String × α)) :
      (list.map fun entry => (entry.1, encode entry.2)).mapM
        (fun entry => (decode entry.2).map fun item => (entry.1, item)) = some list := by
    induction list with
    | nil => rfl
    | cons entry rest ih => simp [reads entry.2, ih]
  simp only [dictionary, dictionary?]
  rw [read entries.entries]
  simp [Dictionary.ofList_entries]

end Lists

end Json

end CatalogGateway
