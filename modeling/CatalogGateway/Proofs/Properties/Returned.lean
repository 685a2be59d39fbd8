import CatalogGateway.Proofs.Properties.Settled

/-!
# Given properties that come back

When callers use their own names, they see again what they gave: a property that is unknown as it
is, and a known one in the usual spelling of its value, unless that is a default which they are
spared.  Of the defaults that were added they see nothing.  Only reserved keys and texts without
a value of their kind are refused.
-/

namespace CatalogGateway

namespace PropertyKind

/-- What a text of a kind stands for.  Blanks around numbers and truth values do not matter, nor
does the case of ASCII letters in a truth value. -/
inductive StandsFor : PropertyKind → String → PropertyValue → Prop where
  | string (text : String) : StandsFor .string text (.string text)
  | integer {text : String} {number : Int64}
      (written : Text.Numeral (Text.trim text.toList) number.toInt) :
      StandsFor .integer text (.integer number)
  | boolean {text : String} {truth : Bool}
      (written : (Text.trim text.toList).map Char.toLower = (toString truth).toList) :
      StandsFor .boolean text (.boolean truth)

theorem read?_eq_some_iff {kind : PropertyKind} {text : String} {value : PropertyValue} :
    kind.read? text = some value ↔ kind.StandsFor text value := by
  constructor
  · intro read
    cases kind with
    | string =>
        obtain rfl := Option.some.inj read
        exact .string text
    | integer =>
        obtain ⟨number, isNumber, rfl⟩ := Option.map_eq_some_iff.mp read
        exact .integer (Text.int64?_eq_some_iff.mp isNumber)
    | boolean =>
        simp only [read?] at read
        split at read
        · rename_i written
          obtain rfl := Option.some.inj read
          exact .boolean written
        · split at read
          · rename_i written
            obtain rfl := Option.some.inj read
            exact .boolean written
          · cases read
  · intro stands
    cases stands with
    | string => rfl
    | integer written => rw [read?, Text.int64?_eq_some_iff.mpr written, Option.map_some]
    | @boolean _ truth written =>
        simp only [read?, written]
        cases truth <;> decide

end PropertyKind

namespace PropertyConverter

variable {converter : PropertyConverter} {properties : Properties} {stored : EngineProperties}
  {key text : String} {value : PropertyValue}

/-- A property cannot be given: its key is reserved, or it is known and the text stands for no
value of its kind. -/
def Refuses (converter : PropertyConverter) (key text : String) : Prop :=
  converter.isReserved key = true ∨
    ∃ entry ∈ converter.entries, entry.genericKey = key ∧
      ∀ value, ¬ entry.kind.StandsFor text value

/-- What callers see again of properties that they gave. -/
structure Returns (converter : PropertyConverter) (given shown : Properties) : Prop where
  unknown : ∀ key text, given.get? key = some text →
    (∀ entry ∈ converter.entries, entry.genericKey ≠ key) → shown.get? key = some text
  known : ∀ entry ∈ converter.entries, ∀ text, given.get? entry.genericKey = some text →
    ∃ value, entry.kind.StandsFor text value ∧ shown.get? entry.genericKey =
      if entry.hidden = true ∧ entry.default = some value.display then none
      else some value.display
  absent : ∀ key, given.get? key = none → shown.get? key = none

/-- Callers are spared every default, which is in the usual spelling, and they use no reserved key
for what they know. -/
structure Discreet (converter : PropertyConverter) : Prop extends converter.Sound where
  apart : ∀ entry ∈ converter.entries, converter.isReserved entry.genericKey = false
  hidden : ∀ entry ∈ converter.entries, ∀ text ∈ entry.default, entry.hidden = true
  usual : ∀ entry ∈ converter.entries, ∀ text ∈ entry.default,
    (entry.kind.read? text).map PropertyValue.display = some text

section Refusals

theorem isReserved_storedKey (discreet : converter.Discreet) (key : String) :
    converter.isReserved (converter.storedKey key) = converter.isReserved key := by
  rw [storedKey]
  cases known : converter.byGeneric? key with
  | none => rfl
  | some entry =>
      obtain ⟨member, rfl⟩ := (byGeneric?_eq_some_iff discreet.toCoherent).mp known
      rw [Option.elim_some, discreet.free entry member, discreet.apart entry member]

theorem exists_storedValue_iff (coherent : converter.Coherent) :
    (∃ value, converter.storedValue key text = .ok value) ↔
      ∀ entry ∈ converter.entries, entry.genericKey = key →
        ∃ value, entry.kind.StandsFor text value := by
  have found (entry : PropertyEntry) : converter.byGeneric? key = some entry ↔
      entry ∈ converter.entries ∧ entry.genericKey = key := byGeneric?_eq_some_iff coherent
  simp only [storedValue, ← PropertyKind.read?_eq_some_iff, ← parse_eq_ok_iff]
  cases known : converter.byGeneric? key with
  | none =>
      refine ⟨fun _ entry member named => ?_, fun _ => ⟨_, rfl⟩⟩
      rw [(found entry).mpr ⟨member, named⟩] at known
      cases known
  | some entry =>
      constructor
      · intro parses other member named
        obtain rfl := Option.some.inj (known.symm.trans ((found other).mpr ⟨member, named⟩))
        exact parses
      · intro parses
        obtain ⟨member, named⟩ := (found entry).mp known
        exact parses entry member named

theorem exists_engineKey_iff : (∃ stored, converter.engineKey key = .ok stored) ↔
    converter.isReserved (converter.storedKey key) = false := by
  simp [engineKey_eq_ok_iff]

theorem exists_toEngineEntry_iff_of_coherent (coherent : converter.Coherent) :
    (∃ entry, converter.toEngineEntry key text = .ok entry) ↔
      converter.isReserved (converter.storedKey key) = false ∧
        ∀ entry ∈ converter.entries, entry.genericKey = key →
          ∃ value, entry.kind.StandsFor text value := by
  rw [toEngineEntry, Outcome.exists_both_eq_ok_iff, exists_engineKey_iff,
    exists_storedValue_iff coherent]

theorem exists_toEngineEntry_iff (discreet : converter.Discreet) :
    (∃ entry, converter.toEngineEntry key text = .ok entry) ↔ ¬ converter.Refuses key text := by
  rw [exists_toEngineEntry_iff_of_coherent discreet.toCoherent, isReserved_storedKey discreet]
  simp [Refuses]

theorem toEngine_eq_error_iff (discreet : converter.Discreet) :
    (∃ fault, converter.toEngine properties = .error fault) ↔
      ∃ key text, properties.get? key = some text ∧ converter.Refuses key text := by
  constructor
  · rintro ⟨fault, failed⟩
    by_contra accepted
    simp only [not_exists, not_and] at accepted
    have each : ∀ given ∈ properties.entries,
        ∃ entry, converter.toEngineEntry given.1 given.2 = .ok entry := fun given member =>
      (exists_toEngineEntry_iff discreet).mpr
        (accepted _ _ (Dictionary.get?_eq_some_iff.mpr member))
    obtain ⟨pairs, mapped⟩ := Outcome.exists_mapM_eq_ok each
    obtain ⟨last, folded⟩ := exists_foldlM_addDefault discreet.defaults (Dictionary.ofList pairs)
    have converted : converter.toEngine properties = .ok last :=
      Outcome.bind_eq_ok_iff.mpr ⟨pairs, mapped, folded⟩
    cases failed.symm.trans converted
  · rintro ⟨key, text, given, refused⟩
    cases converted : converter.toEngine properties with
    | error fault => exact ⟨fault, rfl⟩
    | ok stored =>
        obtain ⟨_, mapped, _⟩ := Outcome.bind_eq_ok_iff.mp converted
        obtain ⟨entry, _, entered⟩ :=
          Outcome.exists_result_of_mapM_eq_ok mapped (Dictionary.get?_eq_some_iff.mp given)
        exact absurd refused ((exists_toEngineEntry_iff discreet).mp ⟨entry, entered⟩)

end Refusals

section Views

theorem get?_toGeneric_of_found (coherent : converter.Coherent) (native : converter.Native stored)
    (notAlias : ¬ converter.IsAlias key)
    (unreserved : converter.isReserved (converter.storedKey key) = false)
    (found : stored.get? (converter.storedKey key) = some value) :
    (converter.toGeneric stored).get? key =
      if converter.hides key value.display then none else some value.display := by
  have visible := visible_storedKey_iff coherent notAlias unreserved value.display
  apply Option.ext
  intro text
  rw [get?_toGeneric_eq_some_iff coherent native, found]
  cases hidden : converter.hides key value.display with
  | true => simp [hidden, visible]
  | false => simp [hidden, visible, notAlias]

/-- A property that is given under a name of the callers stays, as no other one is stored in its
place. -/
theorem get?_toEngine_of_notAlias (coherent : converter.Coherent)
    (converted : converter.toEngine properties = .ok stored)
    (noAlias : ∀ key, properties.contains key = true → ¬ converter.IsAlias key)
    (given : properties.get? key = some text) :
    ∃ value, converter.toEngineEntry key text = .ok (converter.storedKey key, value) ∧
      stored.get? (converter.storedKey key) = some value := by
  apply get?_toEngine_of_last converted given
  intro other otherGiven same above
  have different : other ≠ key := fun equal => String.lt_irrefl key (equal ▸ above)
  have keyGiven := Dictionary.contains_of_get? given
  exact storedKey_ne coherent (noAlias key keyGiven) (noAlias other otherGiven) different same

theorem conceals_default (discreet : converter.Discreet) {entry : PropertyEntry}
    (member : entry ∈ converter.entries) (default : text ∈ entry.default)
    (read : entry.kind.read? text = some value) : entry.conceals value.display = true := by
  have usual := discreet.usual entry member text default
  rw [read, Option.map_some, Option.some.injEq] at usual
  rw [PropertyEntry.conceals, discreet.hidden entry member text default, usual]
  simpa using default

/-- What a given property is stored as, and what of it callers see. -/
theorem exists_seen_of_given (coherent : converter.Coherent)
    (converted : converter.toEngine properties = .ok stored)
    (noAlias : ∀ key, properties.contains key = true → ¬ converter.IsAlias key)
    (given : properties.get? key = some text) :
    ∃ value, converter.storedValue key text = .ok value ∧
      (converter.toGeneric stored).get? key =
        if converter.hides key value.display then none else some value.display := by
  obtain ⟨value, entered, found⟩ := get?_toEngine_of_notAlias coherent converted noAlias given
  obtain ⟨unreserved, _, valued⟩ := toEngineEntry_eq_ok_iff.mp entered
  have native := native_toEngine coherent converted
  have notAlias := noAlias key (Dictionary.contains_of_get? given)
  exact ⟨value, valued, get?_toGeneric_of_found coherent native notAlias unreserved found⟩

theorem get?_toGeneric_of_notGiven (discreet : converter.Discreet)
    (converted : converter.toEngine properties = .ok stored)
    (noAlias : ∀ key, properties.contains key = true → ¬ converter.IsAlias key)
    (notGiven : properties.get? key = none) : (converter.toGeneric stored).get? key = none := by
  have coherent := discreet.toCoherent
  rw [Option.eq_none_iff_forall_ne_some]
  intro text shown
  obtain ⟨notAlias, value, found, visible, rfl⟩ :=
    (get?_toGeneric_eq_some_iff coherent (native_toEngine coherent converted)).mp shown
  rcases origin_of_toEngine converted found with
    ⟨other, text, given, same, _⟩ | ⟨entry, member, text, default, same, read⟩
  · -- Another name of the callers is not stored under the same key.
    have different : other ≠ key := by
      rintro rfl
      rw [given] at notGiven
      cases notGiven
    have otherNotAlias := noAlias other (Dictionary.contains_of_get? given)
    exact storedKey_ne coherent notAlias otherNotAlias different same
  · have known := (byEngine?_eq_some_iff coherent).mpr ⟨member, same⟩
    have concealed := conceals_default discreet member default read
    rw [visible.2 entry known] at concealed
    cases concealed

/-- What callers gave under their own names comes back. -/
theorem returns_of_toEngine (discreet : converter.Discreet)
    (noAlias : ∀ key, properties.contains key = true → ¬ converter.IsAlias key)
    (converted : converter.toEngine properties = .ok stored) :
    converter.Returns properties (converter.toGeneric stored) where
  unknown := by
    intro key text given isUnknown
    have unknown : converter.byGeneric? key = none := by
      rw [Option.eq_none_iff_forall_ne_some]
      intro entry known
      obtain ⟨member, named⟩ := (byGeneric?_eq_some_iff discreet.toCoherent).mp known
      exact isUnknown entry member named
    obtain ⟨value, valued, seen⟩ :=
      exists_seen_of_given discreet.toCoherent converted noAlias given
    rw [storedValue, unknown] at valued
    obtain rfl := Except.ok.inj valued
    rw [seen, hides, unknown]
    rfl
  known := by
    intro entry member text given
    have known := (byGeneric?_eq_some_iff discreet.toCoherent).mpr ⟨member, rfl⟩
    obtain ⟨value, valued, seen⟩ :=
      exists_seen_of_given discreet.toCoherent converted noAlias given
    rw [storedValue, known] at valued
    refine ⟨value, PropertyKind.read?_eq_some_iff.mp (parse_eq_ok_iff.mp valued), ?_⟩
    rw [seen, hides, known]
    simp [PropertyEntry.conceals]
  absent := fun _ => get?_toGeneric_of_notGiven discreet converted noAlias

end Views

end PropertyConverter

end CatalogGateway
