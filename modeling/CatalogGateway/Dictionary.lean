/-!
# Dictionaries

A dictionary maps strings to values and lists its entries in ascending order of
their keys.  The order is part of the type, so two dictionaries with the same
look-ups are equal.
-/

namespace CatalogGateway

/-- A finite map from strings, with its entries in strictly ascending order of
keys. -/
structure Dictionary (α : Type) where
  /-- The entries, by ascending key. -/
  entries : List (String × α)
  /-- No key occurs twice and all of them ascend. -/
  ordered : entries.Pairwise fun first second => first.1 < second.1

namespace Dictionary

variable {α β : Type}

@[ext]
theorem ext {first second : Dictionary α}
    (entriesEq : first.entries = second.entries) : first = second := by
  cases first
  cases second
  cases entriesEq
  rfl

instance [DecidableEq α] : DecidableEq (Dictionary α) := fun first second =>
  if entriesEq : first.entries = second.entries then .isTrue (ext entriesEq)
  else .isFalse fun same => entriesEq (congrArg entries same)

/-- The dictionary without entries. -/
def empty : Dictionary α :=
  ⟨[], .nil⟩

instance : EmptyCollection (Dictionary α) := ⟨empty⟩

instance : Inhabited (Dictionary α) := ⟨empty⟩

/-- The value stored under a key. -/
def get? (dictionary : Dictionary α) (key : String) : Option α :=
  dictionary.entries.lookup key

def contains (dictionary : Dictionary α) (key : String) : Bool :=
  (dictionary.get? key).isSome

/-- The keys in ascending order. -/
def keys (dictionary : Dictionary α) : List String :=
  dictionary.entries.map Prod.fst

/-- The values by ascending key. -/
def values (dictionary : Dictionary α) : List α :=
  dictionary.entries.map Prod.snd

/-- Whether there is no entry. -/
def isEmpty (dictionary : Dictionary α) : Bool :=
  dictionary.entries.isEmpty

/-- The number of entries. -/
def size (dictionary : Dictionary α) : Nat :=
  dictionary.entries.length

/-- Put an entry in its place in an ascending list, replacing the value of a key
that is there already. -/
def insertEntry (key : String) (value : α) : List (String × α) → List (String × α)
  | [] => [(key, value)]
  | (present, held) :: rest =>
    if key < present then (key, value) :: (present, held) :: rest
    else if key = present then (key, value) :: rest
    else (present, held) :: insertEntry key value rest

theorem mem_insertEntry {key : String} {value : α} {entry : String × α} :
    ∀ {entries : List (String × α)}, entry ∈ insertEntry key value entries →
      entry = (key, value) ∨ entry ∈ entries
  | [], member => .inl (by simpa [insertEntry] using member)
  | (present, held) :: rest, member => by
      rw [insertEntry] at member
      split at member
      · simpa using member
      · split at member
        · rcases List.mem_cons.mp member with same | inRest
          · exact .inl same
          · exact .inr (List.mem_cons_of_mem _ inRest)
        · rcases List.mem_cons.mp member with same | inRest
          · exact .inr (same ▸ List.mem_cons_self)
          · rcases mem_insertEntry inRest with same | old
            · exact .inl same
            · exact .inr (List.mem_cons_of_mem _ old)

theorem insertEntry_ordered (key : String) (value : α) :
    ∀ {entries : List (String × α)},
      entries.Pairwise (fun first second => first.1 < second.1) →
      (insertEntry key value entries).Pairwise fun first second => first.1 < second.1
  | [], _ => by simp [insertEntry]
  | (present, held) :: rest, ordered => by
      rw [List.pairwise_cons] at ordered
      rw [insertEntry]
      split
      · rename_i below
        refine List.pairwise_cons.mpr
          ⟨fun entry member => ?_, List.pairwise_cons.mpr ordered⟩
        rcases List.mem_cons.mp member with same | inRest
        · exact same ▸ below
        · exact String.lt_trans below (ordered.1 entry inRest)
      · rename_i notBelow
        split
        · rename_i same
          exact List.pairwise_cons.mpr
            ⟨fun entry member => same ▸ ordered.1 entry member, ordered.2⟩
        · rename_i different
          refine List.pairwise_cons.mpr
            ⟨fun entry member => ?_, insertEntry_ordered key value ordered.2⟩
          rcases mem_insertEntry member with same | old
          · rw [same]
            rcases String.le_total key present with least | most
            · exact absurd (String.le_antisymm least (String.not_lt.mp notBelow)) different
            · exact String.not_le.mp fun least =>
                different (String.le_antisymm least most)
          · exact ordered.1 entry old

/-- The dictionary with a value stored under a key, in place of any value that
was there. -/
def insert (dictionary : Dictionary α) (key : String) (value : α) : Dictionary α :=
  ⟨insertEntry key value dictionary.entries, insertEntry_ordered key value dictionary.ordered⟩

/-- The entries whose key and value pass a test. -/
def filter (keep : String → α → Bool) (dictionary : Dictionary α) : Dictionary α :=
  ⟨dictionary.entries.filter fun entry => keep entry.1 entry.2,
    dictionary.ordered.filter _⟩

def erase (dictionary : Dictionary α) (key : String) : Dictionary α :=
  dictionary.filter fun present _ => present ≠ key

/-- The dictionary with every value replaced. -/
def mapValues (change : α → β) (dictionary : Dictionary α) : Dictionary β :=
  ⟨dictionary.entries.map fun entry => (entry.1, change entry.2),
    dictionary.ordered.map _ fun _ _ below => below⟩

/-- The dictionary extended by a list of entries, later ones winning. -/
def insertMany (dictionary : Dictionary α) (additions : List (String × α)) : Dictionary α :=
  additions.foldl (fun current entry => current.insert entry.1 entry.2) dictionary

def ofList (entries : List (String × α)) : Dictionary α :=
  empty.insertMany entries

end Dictionary

end CatalogGateway
