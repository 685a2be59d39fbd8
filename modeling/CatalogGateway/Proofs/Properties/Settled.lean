import CatalogGateway.Proofs.Properties.Stored
import CatalogGateway.Proofs.Text.Numeral

/-!
# Properties stored again

Stored properties are settled when the texts that callers see stand for the stored values and no
default is missing.  Settled properties are stored again as they are.  What a converter stores is
settled unless a property that is no text is given under the engine's name for it, as the
converter types only what it knows by the callers' names.
-/

namespace CatalogGateway

namespace PropertyKind

variable {kind : PropertyKind} {text : String} {value : PropertyValue}

/-- A value that was read is written as a text that stands for it. -/
theorem read?_display (read : kind.read? text = some value) :
    kind.read? value.display = some value := by
  cases kind with
  | string =>
      obtain rfl := Option.some.inj read
      rfl
  | integer =>
      obtain ⟨number, _, rfl⟩ := Option.map_eq_some_iff.mp read
      rw [read?, PropertyValue.display, Text.trim_toString, Text.int64?_toString]
      rfl
  | boolean =>
      simp only [read?] at read
      split at read
      · obtain rfl := Option.some.inj read
        rfl
      · split at read
        · obtain rfl := Option.some.inj read
          rfl
        · cases read

theorem eq_string_of_read? {other : String} (read : kind.read? text = some (.string other)) :
    kind = .string := by
  cases kind with
  | string => rfl
  | integer =>
      obtain ⟨_, _, same⟩ := Option.map_eq_some_iff.mp read
      cases same
  | boolean =>
      simp only [read?] at read
      split at read
      · cases read
      · split at read <;> cases read

end PropertyKind

namespace PropertyConverter

variable {converter : PropertyConverter} {stored : EngineProperties} {properties : Properties}
  {key text : String} {value : PropertyValue}

/-- The entries of a converter do not get in each other's way or in that of the layout, and their
defaults are values of their kinds. -/
structure Sound (converter : PropertyConverter) : Prop extends converter.Coherent where
  /-- No known property is stored under a reserved key. -/
  free : ∀ entry ∈ converter.entries, converter.isReserved entry.engineKey = false
  defaults : ∀ entry ∈ converter.entries, ∀ text ∈ entry.default,
    (entry.kind.read? text).isSome = true

/-- The kind of what is stored under a key; unknown properties are texts. -/
def storedKind (converter : PropertyConverter) (key : String) : PropertyKind :=
  (converter.byEngine? key).elim .string PropertyEntry.kind

/-- Callers see enough of stored properties to store them again. -/
structure Settled (converter : PropertyConverter) (stored : EngineProperties) : Prop where
  native : converter.Native stored
  unreserved : ∀ key, converter.isReserved key = true → stored.get? key = none
  /-- The text of a value stands for it. -/
  legible : ∀ key value, stored.get? key = some value →
    (converter.storedKind key).read? value.display = some value
  /-- No default is missing. -/
  complete : ∀ entry ∈ converter.entries, entry.default.isSome = true →
    stored.contains entry.engineKey = true

/-- Whether a key is the engine's name for a property that is no text and that callers know by
another name. -/
def IsTypedAlias (converter : PropertyConverter) (key : String) : Prop :=
  converter.IsAlias key ∧ converter.storedKind key ≠ .string

theorem storedKind_engineKey {entry : PropertyEntry} (coherent : converter.Coherent)
    (member : entry ∈ converter.entries) : converter.storedKind entry.engineKey = entry.kind := by
  rw [storedKind, (byEngine?_eq_some_iff coherent).mpr ⟨member, rfl⟩, Option.elim_some]

/-- A property is read as what is stored under its key, unless it is given under the engine's
name for it. -/
theorem storedValue_eq_ok_iff (coherent : converter.Coherent) (notAlias : ¬ converter.IsAlias key) :
    converter.storedValue key text = .ok value ↔
      (converter.storedKind (converter.storedKey key)).read? text = some value := by
  rw [storedValue, storedKind, byEngine?_storedKey coherent notAlias]
  cases converter.byGeneric? key with
  | none => simp [PropertyKind.read?]
  | some entry => exact parse_eq_ok_iff

section Given

theorem unreserved_of_toEngine (sound : converter.Sound)
    (converted : converter.toEngine properties = .ok stored)
    (reserved : converter.isReserved key = true) : stored.get? key = none := by
  rw [Option.eq_none_iff_forall_ne_some]
  intro value found
  rcases origin_of_toEngine converted found with
    ⟨_, _, _, _, free, _⟩ | ⟨entry, member, _, _, rfl, _⟩
  · rw [reserved] at free
    cases free
  · rw [sound.free entry member] at reserved
    cases reserved

/-- A property that is given under the engine's name for it is stored as a text. -/
theorem stored_of_isAlias (coherent : converter.Coherent) (isAlias : converter.IsAlias key)
    (text : String) :
    converter.storedKey key = key ∧ converter.storedValue key text = .ok (.string text) := by
  have unknown : converter.byGeneric? key = none := by
    obtain ⟨entry, member, rfl, different⟩ := isAlias
    rw [Option.eq_none_iff_forall_ne_some]
    intro other found
    obtain ⟨otherMember, named⟩ := (byGeneric?_eq_some_iff coherent).mp found
    obtain rfl := coherent.separate entry member other otherMember named.symm
    exact different named
  rw [storedKey, storedValue, unknown]
  exact ⟨rfl, rfl⟩

/-- What a converter stores is settled, unless a property that is no text is given under the
engine's name for it. -/
theorem settled_of_toEngine (sound : converter.Sound)
    (converted : converter.toEngine properties = .ok stored)
    (untyped : ∀ key, converter.IsTypedAlias key → properties.contains key = false) :
    converter.Settled stored := by
  have coherent := sound.toCoherent
  refine ⟨native_toEngine coherent converted, fun key => unreserved_of_toEngine sound converted,
    fun key value found => ?_, ?_⟩
  · rcases origin_of_toEngine converted found with
      ⟨given, text, present, rfl, _, valued⟩ | ⟨entry, member, text, _, rfl, read⟩
    · -- A property under the engine's name for it is not read, which does no harm to a text.
      by_cases isAlias : converter.IsAlias given
      · obtain ⟨same, asText⟩ := stored_of_isAlias coherent isAlias text
        have kind : converter.storedKind (converter.storedKey given) = .string := by
          refine Classical.byContradiction fun typed => ?_
          rw [same] at typed
          have absent := untyped given ⟨isAlias, typed⟩
          rw [Dictionary.contains, present] at absent
          cases absent
        obtain rfl := Except.ok.inj (valued.symm.trans asText)
        rw [kind]
        rfl
      · exact PropertyKind.read?_display ((storedValue_eq_ok_iff coherent isAlias).mp valued)
    · rw [storedKind_engineKey coherent member]
      exact PropertyKind.read?_display read
  · obtain ⟨_, _, folded⟩ := Outcome.bind_eq_ok_iff.mp converted
    exact (defaulted_of_foldlM folded).filled

end Given

section Again

/-- What callers see of settled properties is stored as what they see it of. -/
theorem exists_given_toGeneric (coherent : converter.Coherent)
    (settled : converter.Settled stored) :
    ∃ given, (converter.toGeneric stored).entries.mapM
        (fun (key, text) => converter.toEngineEntry key text) = .ok given ∧
      ∀ key value, (key, value) ∈ given ↔
        stored.get? key = some value ∧ converter.Visible key value.display := by
  refine ⟨_, Outcome.mapM_eq_ok_map (fun (key, text) =>
    (converter.storedKey key, (stored.get? (converter.storedKey key)).getD (.string text))) ?_, ?_⟩
  · rintro ⟨key, text⟩ member
    obtain ⟨notAlias, value, found, visible, rfl⟩ :=
      (get?_toGeneric_eq_some_iff coherent settled.native).mp
        (Dictionary.get?_eq_some_iff.mpr member)
    refine toEngineEntry_eq_ok_iff.mpr ⟨visible.1, rfl, ?_⟩
    simp only [found, Option.getD_some]
    exact (storedValue_eq_ok_iff coherent notAlias).mpr (settled.legible _ _ found)
  · intro key value
    rw [List.mem_map]
    constructor
    · rintro ⟨⟨name, text⟩, member, same⟩
      obtain ⟨_, other, found, visible, rfl⟩ :=
        (get?_toGeneric_eq_some_iff coherent settled.native).mp
          (Dictionary.get?_eq_some_iff.mpr member)
      simp only [found, Option.getD_some, Prod.mk.injEq] at same
      obtain ⟨rfl, rfl⟩ := same
      exact ⟨found, visible⟩
    · rintro ⟨found, visible⟩
      have native : ¬ converter.IsRenamed key := fun renamed => by
        rw [settled.native key renamed] at found
        cases found
      have same := storedKey_shownKey coherent native
      refine ⟨(converter.shownKey key, value.display), Dictionary.get?_eq_some_iff.mp ?_, ?_⟩
      · rw [get?_toGeneric_eq_some_iff coherent settled.native, same]
        exact ⟨not_isAlias_shownKey coherent key, value, found, visible, rfl⟩
      · simp only [same, found, Option.getD_some]

/-- A stored property that callers do not see is a default, which is stored without them. -/
theorem exists_default_of_not_visible (coherent : converter.Coherent)
    (settled : converter.Settled stored) (found : stored.get? key = some value)
    (hidden : ¬ converter.Visible key value.display) :
    ∃ entry ∈ converter.entries, entry.engineKey = key ∧ entry.default = some value.display := by
  have unreserved : converter.isReserved key = false := by
    refine Bool.eq_false_iff.mpr fun reserved => ?_
    rw [settled.unreserved key reserved] at found
    cases found
  simp only [Visible, unreserved, true_and, not_forall] at hidden
  obtain ⟨entry, known, conceals⟩ := hidden
  obtain ⟨member, named⟩ := (byEngine?_eq_some_iff coherent).mp known
  have isDefault : entry.hidden = true ∧ entry.default = some value.display := by
    simpa [PropertyEntry.conceals] using conceals
  exact ⟨entry, member, named, isDefault.2⟩

/-- Settled properties are stored again as they are. -/
theorem toEngine_toGeneric (sound : converter.Sound) (settled : converter.Settled stored) :
    converter.toEngine (converter.toGeneric stored) = .ok stored := by
  have coherent := sound.toCoherent
  obtain ⟨given, mapped, members⟩ := exists_given_toGeneric coherent settled
  obtain ⟨last, folded⟩ := exists_foldlM_addDefault sound.defaults (Dictionary.ofList given)
  have defaulted := defaulted_of_foldlM folded
  have start {key : String} {value : PropertyValue}
      (found : (Dictionary.ofList given).get? key = some value) : stored.get? key = some value :=
    ((members key value).mp
      (Dictionary.mem_of_mem_ofList (Dictionary.get?_eq_some_iff.mp found))).1
  -- A stored property is either given by the callers or the default of its entry.
  have stays {key : String} {value : PropertyValue} (found : stored.get? key = some value) :
      last.get? key = some value := by
    by_cases visible : converter.Visible key value.display
    · have present : (Dictionary.ofList given).contains key = true := by
        rw [Dictionary.contains_ofList]
        exact decide_eq_true (List.mem_map_of_mem ((members key value).mpr ⟨found, visible⟩))
      obtain ⟨other, startFound⟩ := Option.isSome_iff_exists.mp present
      rw [start startFound] at found
      rw [defaulted.kept key other startFound, found]
    · obtain ⟨entry, member, rfl, default⟩ :=
        exists_default_of_not_visible coherent settled found visible
      obtain ⟨other, lastFound⟩ := Option.isSome_iff_exists.mp
        (defaulted.filled entry member (by rw [default, Option.isSome_some]))
      rcases defaulted.origin _ _ lastFound with
        startFound | ⟨second, inEntries, text, isDefault, key, read⟩
      · rw [start startFound] at found
        exact lastFound.trans found
      · obtain rfl := List.inj_on_of_nodup_map coherent.engine inEntries member key
        obtain rfl := Option.some.inj (isDefault.symm.trans default)
        have legible := settled.legible _ _ found
        rw [storedKind_engineKey coherent member, read] at legible
        exact lastFound.trans legible
  have same : last = stored := by
    apply Dictionary.ext_get?
    intro key
    apply Option.ext
    intro value
    refine ⟨fun lastFound => ?_, stays⟩
    rcases defaulted.origin _ _ lastFound with startFound | ⟨entry, member, text, isDefault, rfl, _⟩
    · exact start startFound
    · obtain ⟨other, found⟩ := Option.isSome_iff_exists.mp
        (settled.complete entry member (Option.isSome_iff_exists.mpr ⟨text, isDefault⟩))
      rw [found, ← stays found, lastFound]
  exact Outcome.bind_eq_ok_iff.mpr ⟨given, mapped, same ▸ folded⟩

end Again

section Aliases

variable {entry : PropertyEntry}

theorem eq_of_storedKey_eq (coherent : converter.Coherent) (member : entry ∈ converter.entries)
    (stored : converter.storedKey key = entry.engineKey) :
    key = entry.genericKey ∨ key = entry.engineKey := by
  rw [storedKey] at stored
  cases known : converter.byGeneric? key with
  | none =>
      rw [known, Option.elim_none] at stored
      exact .inr stored
  | some other =>
      rw [known, Option.elim_some] at stored
      obtain ⟨otherMember, named⟩ := (byGeneric?_eq_some_iff coherent).mp known
      obtain rfl := List.inj_on_of_nodup_map coherent.engine otherMember member stored
      exact .inl named.symm

/-- A property that is given under the engine's name, which comes after the callers' name, is
stored as a text, whatever is given under the callers' name. -/
theorem get?_toEngine_of_alias (coherent : converter.Coherent)
    (converted : converter.toEngine properties = .ok stored) (member : entry ∈ converter.entries)
    (late : entry.genericKey < entry.engineKey)
    (given : properties.get? entry.engineKey = some text) :
    stored.get? entry.engineKey = some (.string text) := by
  have different : entry.genericKey ≠ entry.engineKey := fun same =>
    String.lt_irrefl entry.engineKey (same ▸ late)
  obtain ⟨sameKey, asText⟩ := stored_of_isAlias coherent ⟨entry, member, rfl, different⟩ text
  have last : ∀ other, properties.contains other = true →
      converter.storedKey other = converter.storedKey entry.engineKey →
        ¬ entry.engineKey < other := by
    intro other _ same above
    rcases eq_of_storedKey_eq coherent member (same.trans sameKey) with rfl | rfl
    · exact String.lt_irrefl _ (String.lt_trans late above)
    · exact String.lt_irrefl _ above
  obtain ⟨value, entered, found⟩ := get?_toEngine_of_last converted given last
  obtain ⟨_, _, valued⟩ := toEngineEntry_eq_ok_iff.mp entered
  obtain rfl : PropertyValue.string text = value := Except.ok.inj (asText.symm.trans valued)
  exact sameKey ▸ found

/-- If the engine's names of properties that are no texts come after the callers' names, then
what a converter stores is settled only if none is given under the engine's name. -/
theorem settled_iff_of_toEngine (sound : converter.Sound)
    (late : ∀ entry ∈ converter.entries, entry.kind ≠ .string →
      entry.genericKey ≠ entry.engineKey → entry.genericKey < entry.engineKey)
    (converted : converter.toEngine properties = .ok stored) :
    converter.Settled stored ↔
      ∀ key, converter.IsTypedAlias key → properties.contains key = false := by
  refine ⟨fun settled key typedAlias => ?_, settled_of_toEngine sound converted⟩
  have coherent := sound.toCoherent
  obtain ⟨⟨entry, member, rfl, different⟩, typed⟩ := typedAlias
  rw [storedKind_engineKey coherent member] at typed
  refine Bool.eq_false_iff.mpr fun present => ?_
  obtain ⟨text, given⟩ := Option.isSome_iff_exists.mp present
  have found := get?_toEngine_of_alias coherent converted member (late entry member typed different)
    given
  have legible := settled.legible _ _ found
  rw [storedKind_engineKey coherent member] at legible
  exact typed (PropertyKind.eq_string_of_read? legible)

end Aliases

/-- Exactly the settled ones among native properties are stored again as they are. -/
theorem toEngine_toGeneric_iff (sound : converter.Sound) (native : converter.Native stored) :
    converter.toEngine (converter.toGeneric stored) = .ok stored ↔ converter.Settled stored := by
  refine ⟨fun converted => settled_of_toEngine sound converted fun key typedAlias => ?_,
    toEngine_toGeneric sound⟩
  refine Bool.eq_false_iff.mpr fun present => ?_
  obtain ⟨text, shown⟩ := Option.isSome_iff_exists.mp present
  exact ((get?_toGeneric_eq_some_iff sound.toCoherent native).mp shown).1 typedAlias.1

section Reserved

variable {additions : List (String × PropertyValue)}

theorem get?_insertMany_of_free
    (reserved : ∀ entry ∈ additions, converter.isReserved entry.1 = true)
    (free : converter.isReserved key = false) :
    (stored.insertMany additions).get? key = stored.get? key := by
  apply Dictionary.get?_insertMany_of_notMem
  intro member
  obtain ⟨entry, inAdditions, rfl⟩ := List.mem_map.mp member
  rw [reserved entry inAdditions] at free
  cases free

/-- What else is stored is determined by the whole when it has no reserved key. -/
theorem eq_of_insertMany_eq {other : EngineProperties}
    (reserved : ∀ entry ∈ additions, converter.isReserved entry.1 = true)
    (unreserved : ∀ key, converter.isReserved key = true → stored.get? key = none)
    (otherUnreserved : ∀ key, converter.isReserved key = true → other.get? key = none)
    (same : stored.insertMany additions = other.insertMany additions) : stored = other := by
  apply Dictionary.ext_get?
  intro key
  cases free : converter.isReserved key with
  | true => rw [unreserved key free, otherUnreserved key free]
  | false =>
      rw [← get?_insertMany_of_free reserved free, same, get?_insertMany_of_free reserved free]

/-- What is stored under reserved keys is not shown. -/
theorem toGeneric_insertMany (coherent : converter.Coherent) (native : converter.Native stored)
    (kept : ∀ entry ∈ additions, ¬ converter.IsRenamed entry.1)
    (reserved : ∀ entry ∈ additions, converter.isReserved entry.1 = true) :
    converter.toGeneric (stored.insertMany additions) = converter.toGeneric stored := by
  apply Dictionary.ext_get?
  intro key
  apply Option.ext
  intro text
  rw [get?_toGeneric_eq_some_iff coherent native,
    get?_toGeneric_eq_some_iff coherent (native_insertMany native kept)]
  cases visible : converter.isReserved (converter.storedKey key) with
  | true => simp [Visible, visible]
  | false => rw [get?_insertMany_of_free reserved visible]

end Reserved

end PropertyConverter

end CatalogGateway
