import CatalogGateway.Properties.Conversion
import CatalogGateway.Proofs.Dictionary.Lookup
import CatalogGateway.Proofs.Store.Outcome
import Mathlib.Data.List.Nodup

/-!
# Properties as callers see them

A converter renames some keys on their way into an engine.  Stored properties are native when
none of them has a key that the converter renames, as is so for all that went through the
converter.  On native properties, setting or removing a property in the engine shows as
setting or removing it for the callers, unless the key is an alias: the engine's name for a
property that callers know by another.
-/

namespace CatalogGateway

namespace PropertyConverter

variable {converter : PropertyConverter} {key : String}

/-- The entries of a converter do not get in each other's way. -/
structure Coherent (converter : PropertyConverter) : Prop where
  generic : (converter.entries.map PropertyEntry.genericKey).Nodup
  engine : (converter.entries.map PropertyEntry.engineKey).Nodup
  /-- No entry is stored under a key that callers use for another. -/
  separate : ∀ entry ∈ converter.entries, ∀ other ∈ converter.entries,
    entry.engineKey = other.genericKey → entry = other

/-- Whether a key is the engine's name for a property that callers know by another. -/
def IsAlias (converter : PropertyConverter) (key : String) : Prop :=
  ∃ entry ∈ converter.entries, entry.engineKey = key ∧ entry.genericKey ≠ key

/-- Whether a key is the callers' name for a property that is stored under another. -/
def IsRenamed (converter : PropertyConverter) (key : String) : Prop :=
  ∃ entry ∈ converter.entries, entry.genericKey = key ∧ entry.engineKey ≠ key

/-- No stored property has a key that the converter renames. -/
def Native (converter : PropertyConverter) (stored : EngineProperties) : Prop :=
  ∀ key, converter.IsRenamed key → stored.get? key = none

instance (converter : PropertyConverter) (key : String) : Decidable (converter.IsAlias key) :=
  inferInstanceAs (Decidable (∃ entry ∈ converter.entries, _))

section Entries

theorem find?_key_eq_some_iff {keyOf : PropertyEntry → String} {entries : List PropertyEntry}
    (distinct : (entries.map keyOf).Nodup) {entry : PropertyEntry} :
    entries.find? (fun entry => decide (keyOf entry = key)) = some entry ↔
      entry ∈ entries ∧ keyOf entry = key := by
  constructor
  · intro found
    exact ⟨List.mem_of_find?_eq_some found, by simpa using List.find?_some found⟩
  · rintro ⟨member, named⟩
    have isFound : (entries.find? fun entry => decide (keyOf entry = key)).isSome := by
      rw [List.find?_isSome]
      exact ⟨entry, member, decide_eq_true named⟩
    obtain ⟨other, found⟩ := Option.isSome_iff_exists.mp isFound
    have otherNamed : keyOf other = key := by simpa using List.find?_some found
    rw [found, List.inj_on_of_nodup_map distinct (List.mem_of_find?_eq_some found) member
      (otherNamed.trans named.symm)]

variable {entry : PropertyEntry}

theorem byGeneric?_eq_some_iff (coherent : converter.Coherent) :
    converter.byGeneric? key = some entry ↔ entry ∈ converter.entries ∧ entry.genericKey = key :=
  find?_key_eq_some_iff coherent.generic

theorem byEngine?_eq_some_iff (coherent : converter.Coherent) :
    converter.byEngine? key = some entry ↔ entry ∈ converter.entries ∧ entry.engineKey = key :=
  find?_key_eq_some_iff coherent.engine

end Entries

section Keys

/-- The key under which callers see a stored property. -/
def shownKey (converter : PropertyConverter) (key : String) : String :=
  (converter.byEngine? key).elim key PropertyEntry.genericKey

theorem not_isRenamed_storedKey (coherent : converter.Coherent) (key : String) :
    ¬ converter.IsRenamed (converter.storedKey key) := by
  rintro ⟨other, otherMember, named, different⟩
  rw [storedKey] at named different
  cases found : converter.byGeneric? key with
  | none =>
      rw [found, Option.elim_none] at named
      have present := (byGeneric?_eq_some_iff coherent).mpr ⟨otherMember, named⟩
      rw [found] at present
      cases present
  | some entry =>
      rw [found, Option.elim_some] at named different
      have member := ((byGeneric?_eq_some_iff coherent).mp found).1
      obtain rfl := coherent.separate entry member other otherMember named.symm
      exact different rfl

theorem shownKey_storedKey (coherent : converter.Coherent) (notAlias : ¬ converter.IsAlias key) :
    converter.shownKey (converter.storedKey key) = key := by
  rw [shownKey, storedKey]
  cases found : converter.byGeneric? key with
  | none =>
      rw [Option.elim_none]
      cases stored : converter.byEngine? key with
      | none => rfl
      | some entry =>
          obtain ⟨member, named⟩ := (byEngine?_eq_some_iff coherent).mp stored
          refine absurd ⟨entry, member, named, fun same => ?_⟩ notAlias
          rw [(byGeneric?_eq_some_iff coherent).mpr ⟨member, same⟩] at found
          cases found
  | some entry =>
      obtain ⟨member, named⟩ := (byGeneric?_eq_some_iff coherent).mp found
      rw [Option.elim_some, (byEngine?_eq_some_iff coherent).mpr ⟨member, rfl⟩,
        Option.elim_some, named]

theorem storedKey_shownKey (coherent : converter.Coherent)
    (native : ¬ converter.IsRenamed key) :
    converter.storedKey (converter.shownKey key) = key := by
  rw [shownKey, storedKey]
  cases found : converter.byEngine? key with
  | none =>
      rw [Option.elim_none]
      cases shown : converter.byGeneric? key with
      | none => rfl
      | some entry =>
          obtain ⟨member, named⟩ := (byGeneric?_eq_some_iff coherent).mp shown
          refine absurd ⟨entry, member, named, fun same => ?_⟩ native
          rw [(byEngine?_eq_some_iff coherent).mpr ⟨member, same⟩] at found
          cases found
  | some entry =>
      obtain ⟨member, named⟩ := (byEngine?_eq_some_iff coherent).mp found
      rw [Option.elim_some, (byGeneric?_eq_some_iff coherent).mpr ⟨member, rfl⟩,
        Option.elim_some, named]

theorem not_isAlias_shownKey (coherent : converter.Coherent) (key : String) :
    ¬ converter.IsAlias (converter.shownKey key) := by
  rintro ⟨other, otherMember, named, different⟩
  rw [shownKey] at named different
  cases found : converter.byEngine? key with
  | none =>
      rw [found, Option.elim_none] at named
      have present := (byEngine?_eq_some_iff coherent).mpr ⟨otherMember, named⟩
      rw [found] at present
      cases present
  | some entry =>
      rw [found, Option.elim_some] at named different
      have member := ((byEngine?_eq_some_iff coherent).mp found).1
      obtain rfl := coherent.separate other otherMember entry member named
      exact different rfl

end Keys

section Views

variable {stored : EngineProperties} {value : PropertyValue} {text shown : String}

/-- Whether callers see a value of a stored key. -/
def Visible (converter : PropertyConverter) (key text : String) : Prop :=
  converter.isReserved key = false ∧
    ∀ entry, converter.byEngine? key = some entry → entry.conceals text = false

theorem shown?_eq_some_iff :
    converter.shown? key value = some (shown, text) ↔
      converter.Visible key value.display ∧ converter.shownKey key = shown ∧
        value.display = text := by
  rw [shown?, Visible, shownKey]
  cases converter.isReserved key with
  | true => simp
  | false =>
      cases converter.byEngine? key with
      | none => simp
      | some entry => cases concealed : entry.conceals value.display <;> simp [concealed]

/-- Different native keys are shown as different keys. -/
theorem shown_keys_nodup (coherent : converter.Coherent) (native : converter.Native stored) :
    ((stored.entries.filterMap fun (key, value) => converter.shown? key value).map
      Prod.fst).Nodup := by
  have kept {entry : String × PropertyValue} (member : entry ∈ stored.entries) :
      converter.storedKey (converter.shownKey entry.1) = entry.1 := by
    apply storedKey_shownKey coherent
    intro renamed
    have present := Dictionary.get?_eq_some_iff.mpr member
    rw [native entry.1 renamed] at present
    cases present
  rw [List.Nodup, List.pairwise_map, List.pairwise_filterMap]
  refine stored.ordered.imp_of_mem ?_
  intro first second inFirst inSecond below
  rintro ⟨firstShown, firstText⟩ firstSeen ⟨secondShown, secondText⟩ secondSeen same
  obtain ⟨_, rfl, _⟩ := shown?_eq_some_iff.mp firstSeen
  obtain ⟨_, rfl, _⟩ := shown?_eq_some_iff.mp secondSeen
  have equal : first.1 = second.1 :=
    (kept inFirst).symm.trans ((congrArg converter.storedKey same).trans (kept inSecond))
  exact Dictionary.ne_of_key_lt below equal

/-- What callers see under a key is what is stored under its key in the engine, if they may
see it, and nothing under an alias. -/
theorem get?_toGeneric_eq_some_iff (coherent : converter.Coherent)
    (native : converter.Native stored) :
    (converter.toGeneric stored).get? key = some text ↔
      ¬ converter.IsAlias key ∧ ∃ value, stored.get? (converter.storedKey key) = some value ∧
        converter.Visible (converter.storedKey key) value.display ∧ value.display = text := by
  have distinct := shown_keys_nodup coherent native
  rw [toGeneric, Dictionary.get?_ofList distinct, Dictionary.lookup_eq_some_iff distinct,
    List.mem_filterMap]
  constructor
  · rintro ⟨⟨present, value⟩, member, seen⟩
    obtain ⟨visible, rfl, same⟩ := shown?_eq_some_iff.mp seen
    have found := Dictionary.get?_eq_some_iff.mpr member
    have kept : converter.storedKey (converter.shownKey present) = present := by
      apply storedKey_shownKey coherent
      intro renamed
      rw [native present renamed] at found
      cases found
    rw [kept]
    exact ⟨not_isAlias_shownKey coherent present, value, found, visible, same⟩
  · rintro ⟨notAlias, value, found, visible, same⟩
    refine ⟨(converter.storedKey key, value), Dictionary.get?_eq_some_iff.mp found, ?_⟩
    exact shown?_eq_some_iff.mpr ⟨visible, shownKey_storedKey coherent notAlias, same⟩

end Views

section Changes

variable {stored : EngineProperties} {value : PropertyValue}

/-- Whether callers are spared a value of one of their keys. -/
def hides (converter : PropertyConverter) (key text : String) : Bool :=
  (converter.byGeneric? key).any (·.conceals text)

theorem byEngine?_storedKey (coherent : converter.Coherent) (notAlias : ¬ converter.IsAlias key) :
    converter.byEngine? (converter.storedKey key) = converter.byGeneric? key := by
  rw [storedKey]
  cases found : converter.byGeneric? key with
  | none =>
      rw [Option.elim_none, Option.eq_none_iff_forall_ne_some]
      intro entry stored
      obtain ⟨member, named⟩ := (byEngine?_eq_some_iff coherent).mp stored
      refine notAlias ⟨entry, member, named, fun same => ?_⟩
      rw [(byGeneric?_eq_some_iff coherent).mpr ⟨member, same⟩] at found
      cases found
  | some entry =>
      have member := ((byGeneric?_eq_some_iff coherent).mp found).1
      exact (byEngine?_eq_some_iff coherent).mpr ⟨member, rfl⟩

theorem visible_storedKey_iff (coherent : converter.Coherent)
    (notAlias : ¬ converter.IsAlias key)
    (unreserved : converter.isReserved (converter.storedKey key) = false) (text : String) :
    converter.Visible (converter.storedKey key) text ↔ converter.hides key text = false := by
  rw [Visible, hides, byEngine?_storedKey coherent notAlias]
  cases converter.byGeneric? key <;> simp [unreserved]

theorem native_insert (coherent : converter.Coherent) (native : converter.Native stored)
    (key : String) (value : PropertyValue) :
    converter.Native (stored.insert (converter.storedKey key) value) := by
  intro other renamed
  have different : other ≠ converter.storedKey key := by
    rintro rfl
    exact not_isRenamed_storedKey coherent key renamed
  rw [Dictionary.get?_insert_of_ne _ _ different, native other renamed]

theorem native_erase (native : converter.Native stored) (key : String) :
    converter.Native (stored.erase key) := by
  intro other renamed
  rw [Dictionary.get?_erase, native other renamed, ite_self]

theorem get?_toGeneric_congr {first second : EngineProperties} (coherent : converter.Coherent)
    (firstNative : converter.Native first) (secondNative : converter.Native second)
    (same : ¬ converter.IsAlias key →
      first.get? (converter.storedKey key) = second.get? (converter.storedKey key)) :
    (converter.toGeneric first).get? key = (converter.toGeneric second).get? key := by
  apply Option.ext
  intro text
  rw [get?_toGeneric_eq_some_iff coherent firstNative,
    get?_toGeneric_eq_some_iff coherent secondNative]
  exact and_congr_right fun notAlias => by rw [same notAlias]

theorem storedKey_ne {other : String} (coherent : converter.Coherent)
    (notAlias : ¬ converter.IsAlias key) (otherNotAlias : ¬ converter.IsAlias other)
    (different : other ≠ key) : converter.storedKey other ≠ converter.storedKey key := by
  intro same
  apply different
  rw [← shownKey_storedKey coherent otherNotAlias, same, shownKey_storedKey coherent notAlias]

/-- To store a property is to set it for the callers, or to remove it if they are spared the
value. -/
theorem toGeneric_insert (coherent : converter.Coherent) (native : converter.Native stored)
    (notAlias : ¬ converter.IsAlias key)
    (unreserved : converter.isReserved (converter.storedKey key) = false) :
    converter.toGeneric (stored.insert (converter.storedKey key) value) =
      if converter.hides key value.display then (converter.toGeneric stored).erase key
      else (converter.toGeneric stored).insert key value.display := by
  have inserted := native_insert coherent native key value
  apply Dictionary.ext_get?
  intro other
  by_cases same : other = key
  · subst same
    apply Option.ext
    intro text
    rw [get?_toGeneric_eq_some_iff coherent inserted, Dictionary.get?_insert_self]
    have visible := visible_storedKey_iff coherent notAlias unreserved value.display
    cases hidden : converter.hides other value.display with
    | true => simp [hidden, visible, Dictionary.get?_erase]
    | false => simp [hidden, visible, notAlias]
  · have unchanged : (converter.toGeneric (stored.insert (converter.storedKey key) value)).get?
          other = (converter.toGeneric stored).get? other :=
      get?_toGeneric_congr coherent inserted native fun otherNotAlias =>
        Dictionary.get?_insert_of_ne stored value
          (storedKey_ne coherent notAlias otherNotAlias same)
    rw [unchanged]
    split
    · rw [Dictionary.get?_erase, if_neg same]
    · rw [Dictionary.get?_insert_of_ne _ _ same]

/-- To remove a stored property is to remove it for the callers. -/
theorem toGeneric_erase (coherent : converter.Coherent) (native : converter.Native stored)
    (notAlias : ¬ converter.IsAlias key) :
    converter.toGeneric (stored.erase (converter.storedKey key)) =
      (converter.toGeneric stored).erase key := by
  have erased := native_erase native (converter.storedKey key)
  apply Dictionary.ext_get?
  intro other
  rw [Dictionary.get?_erase]
  by_cases same : other = key
  · subst same
    rw [if_pos rfl, Option.eq_none_iff_forall_ne_some]
    intro text shown
    obtain ⟨_, value, found, _⟩ := (get?_toGeneric_eq_some_iff coherent erased).mp shown
    rw [Dictionary.get?_erase, if_pos rfl] at found
    cases found
  · rw [if_neg same]
    apply get?_toGeneric_congr coherent erased native
    intro otherNotAlias
    rw [Dictionary.get?_erase, if_neg (storedKey_ne coherent notAlias otherNotAlias same)]

end Changes

section Conversion

variable {stored : EngineProperties}

theorem engineKey_eq_ok_iff {other : String} :
    converter.engineKey key = .ok other ↔
      converter.isReserved (converter.storedKey key) = false ∧ converter.storedKey key = other := by
  rw [engineKey]
  cases converter.isReserved (converter.storedKey key) <;> simp

theorem native_insertMany {additions : List (String × PropertyValue)}
    (native : converter.Native stored)
    (kept : ∀ entry ∈ additions, ¬ converter.IsRenamed entry.1) :
    converter.Native (stored.insertMany additions) := by
  intro key renamed
  have absent : key ∉ additions.map Prod.fst := by
    intro member
    obtain ⟨entry, inAdditions, rfl⟩ := List.mem_map.mp member
    exact kept entry inAdditions renamed
  rw [Dictionary.get?_insertMany_of_notMem absent, native key renamed]

end Conversion

end PropertyConverter

end CatalogGateway
