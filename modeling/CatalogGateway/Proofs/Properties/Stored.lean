import CatalogGateway.Proofs.Properties.Shown

/-!
# Properties as they are stored

What a converter stores comes from the properties that callers give and, where those lack an
entry, from its default.
-/

namespace CatalogGateway

namespace PropertyConverter

variable {converter : PropertyConverter} {stored : EngineProperties} {properties : Properties}
  {key text : String} {value : PropertyValue}

theorem parse_eq_ok_iff {entry : PropertyEntry} :
    entry.parse text = .ok value ↔ entry.kind.read? text = some value := by
  rw [PropertyEntry.parse]
  cases entry.kind.read? text <;> simp

section Defaults

variable {entry : PropertyEntry} {entries : List PropertyEntry} {first last : EngineProperties}

theorem exists_addDefault (readable : ∀ text ∈ entry.default, (entry.kind.read? text).isSome = true)
    (stored : EngineProperties) : ∃ after, addDefault stored entry = .ok after := by
  rw [addDefault]
  cases default : entry.default with
  | none => exact ⟨stored, rfl⟩
  | some text =>
      obtain ⟨value, read⟩ := Option.isSome_iff_exists.mp (readable text default)
      simp only [parse_eq_ok_iff.mpr read]
      split
      · exact ⟨stored, rfl⟩
      · exact ⟨_, rfl⟩

theorem exists_foldlM_addDefault
    (readable : ∀ entry ∈ entries, ∀ text ∈ entry.default, (entry.kind.read? text).isSome = true)
    (first : EngineProperties) : ∃ last, entries.foldlM addDefault first = .ok last := by
  induction entries generalizing first with
  | nil => exact ⟨first, rfl⟩
  | cons entry rest ih =>
      obtain ⟨next, added⟩ := exists_addDefault (readable entry List.mem_cons_self) first
      rw [List.foldlM_cons, added]
      exact ih (fun other member => readable other (List.mem_cons_of_mem _ member)) next

/-- What it means to add the defaults of some entries. -/
structure Defaulted (entries : List PropertyEntry) (first last : EngineProperties) : Prop where
  kept : ∀ key value, first.get? key = some value → last.get? key = some value
  filled : ∀ entry ∈ entries, entry.default.isSome = true → last.contains entry.engineKey = true
  origin : ∀ key value, last.get? key = some value → first.get? key = some value ∨
    ∃ entry ∈ entries, ∃ text ∈ entry.default, entry.engineKey = key ∧
      entry.kind.read? text = some value

theorem Defaulted.contains {entries : List PropertyEntry} (defaulted : Defaulted entries first last)
    (present : first.contains key = true) : last.contains key = true := by
  obtain ⟨value, found⟩ := Option.isSome_iff_exists.mp present
  exact Dictionary.contains_of_get? (defaulted.kept key value found)

theorem defaulted_addDefault (added : addDefault first entry = .ok last) :
    Defaulted [entry] first last := by
  rw [addDefault] at added
  split at added
  · rename_i noDefault
    cases added
    exact ⟨fun _ _ found => found, by simp [noDefault], fun _ _ found => .inl found⟩
  · rename_i text default
    split at added
    · rename_i present
      cases added
      exact ⟨fun _ _ found => found, by simp [present], fun _ _ found => .inl found⟩
    · rename_i absent
      obtain ⟨value, parsed, rfl⟩ := Outcome.map_eq_ok_iff.mp added
      refine ⟨fun key present found => ?_, by simp [Dictionary.contains],
        fun key present found => ?_⟩
      · have different : key ≠ entry.engineKey := by
          rintro rfl
          exact absent (Dictionary.contains_of_get? found)
        rw [Dictionary.get?_insert_of_ne _ _ different, found]
      · rw [Dictionary.get?_insert] at found
        split at found
        · rename_i same
          cases found
          exact .inr ⟨entry, List.mem_cons_self, text, default, same.symm,
            parse_eq_ok_iff.mp parsed⟩
        · exact .inl found

theorem Defaulted.trans {others : List PropertyEntry} {next : EngineProperties}
    (one : Defaulted entries first next) (two : Defaulted others next last) :
    Defaulted (entries ++ others) first last := by
  refine ⟨fun key value found => two.kept key value (one.kept key value found), ?_, ?_⟩
  · intro entry member default
    rcases List.mem_append.mp member with inFirst | inSecond
    · exact two.contains (one.filled entry inFirst default)
    · exact two.filled entry inSecond default
  · intro key value found
    rcases two.origin key value found with before | ⟨entry, member, given⟩
    · rcases one.origin key value before with start | ⟨entry, member, given⟩
      · exact .inl start
      · exact .inr ⟨entry, List.mem_append_left _ member, given⟩
    · exact .inr ⟨entry, List.mem_append_right _ member, given⟩

theorem defaulted_of_foldlM (folded : entries.foldlM addDefault first = .ok last) :
    Defaulted entries first last := by
  induction entries generalizing first with
  | nil =>
      cases folded
      exact ⟨fun _ _ found => found, by simp, fun _ _ found => .inl found⟩
  | cons entry rest ih =>
      rw [List.foldlM_cons] at folded
      obtain ⟨next, added, folded⟩ := Outcome.bind_eq_ok_iff.mp folded
      exact (defaulted_addDefault added).trans (ih folded)

end Defaults

section Given

theorem toEngineEntry_eq_ok_iff {entry : String × PropertyValue} :
    converter.toEngineEntry key text = .ok entry ↔
      converter.isReserved (converter.storedKey key) = false ∧ converter.storedKey key = entry.1 ∧
        converter.storedValue key text = .ok entry.2 := by
  obtain ⟨stored, value⟩ := entry
  simp only [toEngineEntry, Outcome.bind_eq_ok_iff, engineKey_eq_ok_iff, pure, Except.pure,
    Except.ok.injEq, Prod.mk.injEq]
  constructor
  · rintro ⟨_, ⟨unreserved, rfl⟩, _, valued, rfl, rfl⟩
    exact ⟨unreserved, rfl, valued⟩
  · rintro ⟨unreserved, rfl, valued⟩
    exact ⟨_, ⟨unreserved, rfl⟩, value, valued, rfl, rfl⟩

/-- What is stored comes from a property that is given or from a default. -/
theorem origin_of_toEngine (converted : converter.toEngine properties = .ok stored)
    (found : stored.get? key = some value) :
    (∃ given text, properties.get? given = some text ∧ converter.storedKey given = key ∧
        converter.isReserved key = false ∧ converter.storedValue given text = .ok value) ∨
      ∃ entry ∈ converter.entries, ∃ text ∈ entry.default, entry.engineKey = key ∧
        entry.kind.read? text = some value := by
  obtain ⟨given, mapped, folded⟩ := Outcome.bind_eq_ok_iff.mp converted
  rcases (defaulted_of_foldlM folded).origin key value found with start | default
  · left
    have member := Dictionary.mem_of_mem_ofList (Dictionary.get?_eq_some_iff.mp start)
    obtain ⟨⟨name, text⟩, present, entered⟩ := Outcome.exists_of_mapM_eq_ok mapped member
    obtain ⟨unreserved, rfl, valued⟩ := toEngineEntry_eq_ok_iff.mp entered
    exact ⟨name, text, Dictionary.get?_eq_some_iff.mpr present, rfl, unreserved, valued⟩
  · exact .inr default

theorem engineKey_of_toEngine (converted : converter.toEngine properties = .ok stored)
    (given : properties.contains key = true) :
    converter.engineKey key = .ok (converter.storedKey key) := by
  obtain ⟨text, found⟩ := Option.isSome_iff_exists.mp given
  obtain ⟨_, mapped, _⟩ := Outcome.bind_eq_ok_iff.mp converted
  obtain ⟨_, _, entered⟩ :=
    Outcome.exists_result_of_mapM_eq_ok mapped (Dictionary.get?_eq_some_iff.mp found)
  exact engineKey_eq_ok_iff.mpr ⟨(toEngineEntry_eq_ok_iff.mp entered).1, rfl⟩

/-- Of the properties that are stored under one key, the last one stays. -/
theorem get?_toEngine_of_last (converted : converter.toEngine properties = .ok stored)
    (given : properties.get? key = some text)
    (last : ∀ other, properties.contains other = true →
      converter.storedKey other = converter.storedKey key → ¬ key < other) :
    ∃ value, converter.toEngineEntry key text = .ok (converter.storedKey key, value) ∧
      stored.get? (converter.storedKey key) = some value := by
  obtain ⟨pairs, mapped, folded⟩ := Outcome.bind_eq_ok_iff.mp converted
  -- Properties are stored in the order of their keys, so what comes after is above.
  obtain ⟨front, back, split⟩ := List.append_of_mem (Dictionary.get?_eq_some_iff.mp given)
  have ordered := properties.ordered
  rw [split, List.pairwise_append, List.pairwise_cons] at ordered
  rw [split, List.mapM_append, List.mapM_cons] at mapped
  obtain ⟨before, _, mapped⟩ := Outcome.bind_eq_ok_iff.mp mapped
  obtain ⟨rest, restMapped, same⟩ := Outcome.bind_eq_ok_iff.mp mapped
  obtain ⟨⟨stored, value⟩, entered, restMapped⟩ := Outcome.bind_eq_ok_iff.mp restMapped
  obtain ⟨after, afterMapped, sameRest⟩ := Outcome.bind_eq_ok_iff.mp restMapped
  cases same
  cases sameRest
  obtain ⟨_, rfl, _⟩ := toEngineEntry_eq_ok_iff.mp entered
  refine ⟨value, entered, (defaulted_of_foldlM folded).kept _ _ ?_⟩
  apply Dictionary.get?_ofList_of_last
  intro inAfter
  obtain ⟨⟨_, _⟩, present, sameKey⟩ := List.mem_map.mp inAfter
  obtain ⟨⟨other, otherText⟩, inBack, otherEntered⟩ :=
    Outcome.exists_of_mapM_eq_ok afterMapped present
  have isGiven : (other, otherText) ∈ properties.entries := by
    rw [split]
    exact List.mem_append_right _ (List.mem_cons_of_mem _ inBack)
  have contained : properties.contains other = true :=
    Dictionary.contains_iff.mpr (List.mem_map_of_mem isGiven)
  exact last other contained ((toEngineEntry_eq_ok_iff.mp otherEntered).2.1.trans sameKey)
    (ordered.2.1.1 _ inBack)

theorem storedKey_genericKey {entry : PropertyEntry} (coherent : converter.Coherent)
    (member : entry ∈ converter.entries) :
    converter.storedKey entry.genericKey = entry.engineKey := by
  rw [storedKey, (byGeneric?_eq_some_iff coherent).mpr ⟨member, rfl⟩, Option.elim_some]

/-- What a converter stores is native. -/
theorem native_toEngine (coherent : converter.Coherent)
    (converted : converter.toEngine properties = .ok stored) : converter.Native stored := by
  intro key renamed
  rw [Option.eq_none_iff_forall_ne_some]
  intro value found
  rcases origin_of_toEngine converted found with
    ⟨given, _, _, rfl, _⟩ | ⟨entry, member, _, _, rfl, _⟩
  · exact not_isRenamed_storedKey coherent given renamed
  · rw [← storedKey_genericKey coherent member] at renamed
    exact not_isRenamed_storedKey coherent entry.genericKey renamed

end Given

end PropertyConverter

end CatalogGateway
