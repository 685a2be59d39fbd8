import CatalogGateway.Dictionary

/-!
# Look-ups in dictionaries

What each way of making a dictionary does to its look-ups.  As the order of the keys is
part of the type, look-ups determine a dictionary.
-/

namespace CatalogGateway

namespace Dictionary

variable {α : Type}

section Entries

variable {κ : Type} [DecidableEq κ] {entries : List (κ × α)}

theorem lookup_cons (key present : κ) (held : α) (rest : List (κ × α)) :
    ((present, held) :: rest).lookup key =
      if key = present then some held else rest.lookup key := by
  by_cases same : key = present
  · simp [same]
  · rw [if_neg same, List.lookup_cons, beq_false_of_ne same]

theorem lookup_filter_ne (key other : κ) (entries : List (κ × α)) :
    (entries.filter fun entry => decide (entry.1 ≠ key)).lookup other =
      if other = key then none else entries.lookup other := by
  induction entries with
  | nil => simp
  | cons entry rest ih =>
      obtain ⟨present, held⟩ := entry
      rw [lookup_cons, List.filter_cons]
      by_cases removed : present = key
      · rw [if_neg (by simpa using removed), ih, removed]
        split <;> rfl
      · rw [if_pos (by simpa using removed), lookup_cons, ih]
        by_cases found : other = present
        · simp [found, removed]
        · simp [found]

theorem lookup_map_at (key other : κ) (change : α → α) (entries : List (κ × α)) :
    (entries.map fun entry =>
        if entry.1 = key then (entry.1, change entry.2) else entry).lookup other =
      if other = key then (entries.lookup other).map change else entries.lookup other := by
  induction entries with
  | nil => simp
  | cons entry rest ih =>
      obtain ⟨present, held⟩ := entry
      rw [List.map_cons, lookup_cons]
      by_cases changed : present = key
      · subst changed
        rw [if_pos rfl, lookup_cons, ih]
        by_cases found : other = present
        · simp [found]
        · simp [found]
      · rw [if_neg changed, lookup_cons, ih]
        by_cases found : other = present
        · simp [found, changed]
        · simp [found]

/-- When no key occurs twice, a look-up finds the entries. -/
theorem lookup_eq_some_iff {key : κ} {value : α} (distinct : (entries.map Prod.fst).Nodup) :
    entries.lookup key = some value ↔ (key, value) ∈ entries := by
  induction entries with
  | nil => simp
  | cons entry rest ih =>
      obtain ⟨present, held⟩ := entry
      rw [List.map_cons, List.nodup_cons] at distinct
      rw [lookup_cons]
      by_cases same : key = present
      · subst same
        have fresh : (key, value) ∉ rest := fun member =>
          distinct.1 (List.mem_map.mpr ⟨_, member, rfl⟩)
        simp [fresh, eq_comm]
      · simp [same, ih distinct.2]

theorem lookup_filter {key : κ} {keep : κ × α → Bool}
    (distinct : (entries.map Prod.fst).Nodup) :
    (entries.filter keep).lookup key =
      (entries.lookup key).filter fun value => keep (key, value) := by
  apply Option.ext
  intro value
  have kept : ((entries.filter keep).map Prod.fst).Nodup :=
    distinct.sublist (List.filter_sublist.map _)
  rw [lookup_eq_some_iff kept, List.mem_filter, ← lookup_eq_some_iff distinct,
    Option.filter_eq_some_iff]

end Entries

theorem lookup_insertEntry (key other : String) (value : α)
    (entries : List (String × α)) :
    (insertEntry key value entries).lookup other =
      if other = key then some value else entries.lookup other := by
  induction entries with
  | nil => simp [insertEntry, lookup_cons]
  | cons entry rest ih =>
      obtain ⟨present, held⟩ := entry
      rw [insertEntry]
      split
      · rw [lookup_cons]
      · split
        · rename_i same
          rw [lookup_cons, lookup_cons, same]
          split <;> rfl
        · rename_i different
          rw [lookup_cons, lookup_cons, ih]
          by_cases found : other = present
          · simp [found, Ne.symm different]
          · simp [found]

theorem insertEntry_perm {key : String} {value : α} {entries : List (String × α)}
    (fresh : entries.lookup key = none) :
    (insertEntry key value entries).Perm ((key, value) :: entries) := by
  induction entries with
  | nil => exact List.Perm.refl _
  | cons entry rest ih =>
      obtain ⟨present, held⟩ := entry
      rw [lookup_cons] at fresh
      rw [insertEntry]
      split
      · exact List.Perm.refl _
      · split
        · rw [if_pos ‹_›] at fresh
          contradiction
        · rw [if_neg ‹_›] at fresh
          exact ((ih fresh).cons _).trans (List.Perm.swap _ _ _)

@[simp]
theorem get?_empty (key : String) : (empty : Dictionary α).get? key = none :=
  rfl

theorem get?_insert (dictionary : Dictionary α) (key other : String) (value : α) :
    (dictionary.insert key value).get? other =
      if other = key then some value else dictionary.get? other :=
  lookup_insertEntry key other value dictionary.entries

@[simp]
theorem get?_insert_self (dictionary : Dictionary α) (key : String) (value : α) :
    (dictionary.insert key value).get? key = some value := by
  simp [get?_insert]

theorem get?_insert_of_ne (dictionary : Dictionary α) {key other : String} (value : α)
    (different : other ≠ key) :
    (dictionary.insert key value).get? other = dictionary.get? other := by
  simp [get?_insert, different]

theorem get?_erase (dictionary : Dictionary α) (key other : String) :
    (dictionary.erase key).get? other =
      if other = key then none else dictionary.get? other :=
  lookup_filter_ne key other dictionary.entries

/-- Added entries with different keys are found, and otherwise what was there before. -/
theorem get?_insertMany {additions : List (String × α)}
    (distinct : (additions.map Prod.fst).Nodup) (dictionary : Dictionary α) (key : String) :
    (dictionary.insertMany additions).get? key =
      (additions.lookup key).or (dictionary.get? key) := by
  induction additions generalizing dictionary with
  | nil => rfl
  | cons entry rest ih =>
      obtain ⟨added, value⟩ := entry
      rw [List.map_cons, List.nodup_cons] at distinct
      have step : dictionary.insertMany ((added, value) :: rest) =
          (dictionary.insert added value).insertMany rest := rfl
      rw [step, ih distinct.2, get?_insert, lookup_cons]
      split
      · rename_i same
        have absent : rest.lookup key = none := by
          rw [same, List.lookup_eq_none_iff]
          intro other member
          have different : added ≠ other.1 := by
            rintro rfl
            exact distinct.1 (List.mem_map.mpr ⟨other, member, rfl⟩)
          simpa using different
        rw [absent, Option.none_or, Option.some_or]
      · rfl

theorem get?_ofList {entries : List (String × α)} (distinct : (entries.map Prod.fst).Nodup)
    (key : String) : (ofList entries).get? key = entries.lookup key := by
  rw [ofList, get?_insertMany distinct, get?_empty, Option.or_none]

theorem get?_insertMany_of_notMem {additions : List (String × α)} {key : String}
    (absent : key ∉ additions.map Prod.fst) (dictionary : Dictionary α) :
    (dictionary.insertMany additions).get? key = dictionary.get? key := by
  induction additions generalizing dictionary with
  | nil => rfl
  | cons entry rest ih =>
      rw [List.map_cons, List.mem_cons, not_or] at absent
      exact (ih absent.2 _).trans (get?_insert_of_ne dictionary entry.2 absent.1)

/-- Of several entries with one key the last is found. -/
theorem get?_ofList_of_last {front back : List (String × α)} {key : String} (value : α)
    (last : key ∉ back.map Prod.fst) :
    (ofList (front ++ (key, value) :: back)).get? key = some value := by
  have parts : ofList (front ++ (key, value) :: back) =
      ((ofList front).insert key value).insertMany back := by
    simp [ofList, insertMany, List.foldl_append]
  rw [parts, get?_insertMany_of_notMem last, get?_insert_self]

theorem ne_of_key_lt {first second : String × α} (below : first.1 < second.1) :
    first.1 ≠ second.1 := fun same =>
  String.lt_irrefl second.1 (same ▸ below)

theorem keys_nodup (dictionary : Dictionary α) : dictionary.keys.Nodup := by
  rw [keys, List.Nodup, List.pairwise_map]
  exact dictionary.ordered.imp ne_of_key_lt

/-- An entry of a dictionary is found under its key, as no key occurs twice. -/
theorem get?_eq_some_iff {dictionary : Dictionary α} {key : String} {value : α} :
    dictionary.get? key = some value ↔ (key, value) ∈ dictionary.entries :=
  lookup_eq_some_iff dictionary.keys_nodup

theorem get?_filter (keep : String → α → Bool) (dictionary : Dictionary α) (key : String) :
    (dictionary.filter keep).get? key = (dictionary.get? key).filter (keep key) :=
  lookup_filter dictionary.keys_nodup

theorem mem_values_iff {dictionary : Dictionary α} {value : α} :
    value ∈ dictionary.values ↔ ∃ key, dictionary.get? key = some value := by
  simp [values, get?_eq_some_iff]

theorem values_insert_subset (dictionary : Dictionary α) (key : String) (value : α) :
    (dictionary.insert key value).values ⊆ value :: dictionary.values := by
  intro found isValue
  obtain ⟨other, present⟩ := mem_values_iff.mp isValue
  rw [get?_insert] at present
  split at present
  · cases present
    exact List.mem_cons_self
  · exact List.mem_cons_of_mem _ (mem_values_iff.mpr ⟨other, present⟩)

theorem values_erase_subset (dictionary : Dictionary α) (key : String) :
    (dictionary.erase key).values ⊆ dictionary.values := by
  intro found isValue
  obtain ⟨other, present⟩ := mem_values_iff.mp isValue
  rw [get?_erase] at present
  split at present
  · cases present
  · exact mem_values_iff.mpr ⟨other, present⟩

theorem mem_of_mem_insertMany {additions : List (String × α)} {dictionary : Dictionary α}
    {entry : String × α} (member : entry ∈ (dictionary.insertMany additions).entries) :
    entry ∈ dictionary.entries ∨ entry ∈ additions := by
  induction additions generalizing dictionary with
  | nil => exact .inl member
  | cons addition rest ih =>
      rcases ih member with inserted | inRest
      · rcases mem_insertEntry inserted with rfl | old
        · exact .inr List.mem_cons_self
        · exact .inl old
      · exact .inr (List.mem_cons_of_mem _ inRest)

theorem mem_of_mem_ofList {entries : List (String × α)} {entry : String × α}
    (member : entry ∈ (ofList entries).entries) : entry ∈ entries := by
  rcases mem_of_mem_insertMany member with inEmpty | inEntries
  · cases inEmpty
  · exact inEntries

/-- The keys of a dictionary made of entries are keys of the entries. -/
theorem key_mem_of_mem_ofList {entries : List (String × α)} {entry : String × α}
    (member : entry ∈ (ofList entries).entries) : entry.1 ∈ entries.map Prod.fst :=
  List.mem_map_of_mem (mem_of_mem_ofList member)

theorem contains_iff {dictionary : Dictionary α} {key : String} :
    dictionary.contains key = true ↔ key ∈ dictionary.keys := by
  simp only [contains, Option.isSome_iff_exists, get?_eq_some_iff, keys, List.mem_map,
    Prod.exists]
  constructor
  · rintro ⟨value, member⟩
    exact ⟨key, value, member, rfl⟩
  · rintro ⟨_, value, member, rfl⟩
    exact ⟨value, member⟩

theorem contains_of_get? {dictionary : Dictionary α} {key : String} {value : α}
    (found : dictionary.get? key = some value) : dictionary.contains key = true :=
  Option.isSome_iff_exists.mpr ⟨value, found⟩

theorem contains_insert (dictionary : Dictionary α) (key other : String) (value : α) :
    (dictionary.insert key value).contains other =
      (decide (other = key) || dictionary.contains other) := by
  by_cases same : other = key <;> simp [contains, get?_insert, same]

theorem contains_insertMany (dictionary : Dictionary α) (additions : List (String × α))
    (key : String) : (dictionary.insertMany additions).contains key =
      (dictionary.contains key || decide (key ∈ additions.map Prod.fst)) := by
  induction additions generalizing dictionary with
  | nil => simp [insertMany]
  | cons addition rest ih =>
      have step : dictionary.insertMany (addition :: rest) =
          (dictionary.insert addition.1 addition.2).insertMany rest := rfl
      rw [step, ih, contains_insert, List.map_cons]
      simp only [List.mem_cons]
      by_cases same : key = addition.1 <;> simp [same]

theorem contains_ofList (entries : List (String × α)) (key : String) :
    (ofList entries).contains key = decide (key ∈ entries.map Prod.fst) := by
  rw [ofList, contains_insertMany]
  rfl

theorem contains_erase (dictionary : Dictionary α) (key other : String) :
    (dictionary.erase key).contains other =
      (decide (other ≠ key) && dictionary.contains other) := by
  by_cases same : other = key <;> simp [contains, get?_erase, same]

theorem entries_nodup (dictionary : Dictionary α) : dictionary.entries.Nodup :=
  dictionary.ordered.imp fun below same => ne_of_key_lt below (congrArg Prod.fst same)

/-- Dictionaries with the same look-ups are equal. -/
theorem ext_get? {first second : Dictionary α}
    (lookups : ∀ key, first.get? key = second.get? key) : first = second := by
  apply ext
  refine List.Perm.eq_of_pairwise ?_ first.ordered second.ordered ?_
  · intro entry other _ _ below above
    exact absurd (String.lt_trans below above) (String.lt_irrefl _)
  · rw [List.perm_ext_iff_of_nodup first.entries_nodup second.entries_nodup]
    rintro ⟨key, value⟩
    rw [← get?_eq_some_iff, ← get?_eq_some_iff, lookups key]

theorem erase_insert_of_absent {dictionary : Dictionary α} {key : String} {value : α}
    (absent : dictionary.get? key = none) :
    (dictionary.insert key value).erase key = dictionary := by
  apply ext_get?
  intro other
  rw [get?_erase, get?_insert]
  by_cases same : other = key <;> simp [same, absent]

theorem erase_of_absent {dictionary : Dictionary α} {key : String}
    (absent : dictionary.get? key = none) : dictionary.erase key = dictionary := by
  apply ext_get?
  intro other
  rw [get?_erase]
  by_cases same : other = key <;> simp [same, absent]

/-- A key above all others goes to the end. -/
theorem insertEntry_of_above {key : String} {value : α} :
    ∀ {entries : List (String × α)}, (∀ entry ∈ entries, entry.1 < key) →
      insertEntry key value entries = entries ++ [(key, value)]
  | [], _ => rfl
  | (present, held) :: rest, above => by
      have below : present < key := above (present, held) List.mem_cons_self
      have notBelow : ¬ key < present := String.lt_asymm below
      have different : key ≠ present := fun same =>
        String.lt_irrefl present (same ▸ below)
      rw [insertEntry, if_neg notBelow, if_neg different,
        insertEntry_of_above fun entry member =>
          above entry (List.mem_cons_of_mem _ member), List.cons_append]

theorem insertMany_of_ordered :
    ∀ {additions : List (String × α)} {dictionary : Dictionary α},
      (dictionary.entries ++ additions).Pairwise (fun first second => first.1 < second.1) →
      (dictionary.insertMany additions).entries = dictionary.entries ++ additions
  | [], dictionary, _ => by simp [insertMany]
  | (key, value) :: rest, dictionary, ordered => by
      have above : ∀ entry ∈ dictionary.entries, entry.1 < key := fun entry member =>
        (List.pairwise_append.mp ordered).2.2 entry member _ List.mem_cons_self
      have inserted : (dictionary.insert key value).entries =
          dictionary.entries ++ [(key, value)] := insertEntry_of_above above
      have step : (dictionary.insert key value).insertMany rest =
          dictionary.insertMany ((key, value) :: rest) := rfl
      rw [← step, insertMany_of_ordered (by simpa [inserted] using ordered), inserted]
      simp

/-- The entries of a dictionary give it back. -/
theorem ofList_entries (dictionary : Dictionary α) : ofList dictionary.entries = dictionary := by
  apply ext
  have ordered := dictionary.ordered
  rw [ofList, insertMany_of_ordered (by simpa [empty] using ordered)]
  simp [empty]

end Dictionary

end CatalogGateway
