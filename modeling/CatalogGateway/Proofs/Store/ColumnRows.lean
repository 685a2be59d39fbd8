import CatalogGateway.Proofs.Engine.Encoding
import CatalogGateway.Store.Relational

/-!
# Rows of columns

A relational store keeps the columns of a table as rows that carry their index, in any
order.  Rows stand for a list of columns when they are a permutation of the rows that the
list has in order.  Looking up a column in such rows, and inserting, removing or changing
one, then comes to the same as in the list.
-/

namespace CatalogGateway

namespace ColumnRow

/-- The rows of columns in order, the first of which has a given index. -/
def rowsFrom (table : Nat) : Nat → List EngineColumn → List ColumnRow
  | _, [] => []
  | ordinal, column :: rest => ofColumn table ordinal column :: rowsFrom table (ordinal + 1) rest

/-- The rows of all columns of a table in order. -/
abbrev rowsOf (table : Nat) (columns : List EngineColumn) : List ColumnRow :=
  rowsFrom table 0 columns

variable {table start : Nat} {rows : List ColumnRow} {columns before after : List EngineColumn}

theorem rowsFrom_append :
    rowsFrom table start (before ++ after) =
      rowsFrom table start before ++ rowsFrom table (start + before.length) after := by
  induction before generalizing start with
  | nil => rfl
  | cons column rest ih =>
      rw [List.cons_append, rowsFrom, rowsFrom, ih, List.cons_append, List.length_cons,
        Nat.add_right_comm, Nat.add_assoc]

@[simp]
theorem length_rowsFrom : (rowsFrom table start columns).length = columns.length := by
  induction columns generalizing start with
  | nil => rfl
  | cons column rest ih => simp [rowsFrom, ih]

theorem map_name_rowsFrom :
    (rowsFrom table start columns).map name = columns.map EngineColumn.name := by
  induction columns generalizing start with
  | nil => rfl
  | cons column rest ih => simp [rowsFrom, ih, ofColumn]

theorem map_type_rowsFrom :
    (rowsFrom table start columns).map type = columns.map fun column => column.type.toJson := by
  induction columns generalizing start with
  | nil => rfl
  | cons column rest ih => simp [rowsFrom, ih, ofColumn]

/-- A row among those of columns belongs to one of them, which stands at its index. -/
theorem split_of_mem {row : ColumnRow} (member : row ∈ rowsFrom table start columns) :
    ∃ before column after, columns = before ++ column :: after ∧
      row = ofColumn table (start + before.length) column := by
  induction columns generalizing start with
  | nil => simp [rowsFrom] at member
  | cons column rest ih =>
      rcases List.mem_cons.mp member with rfl | later
      · exact ⟨[], column, rest, rfl, rfl⟩
      · obtain ⟨before, found, after, rfl, rfl⟩ := ih later
        refine ⟨column :: before, found, after, rfl, ?_⟩
        rw [List.length_cons, Nat.add_right_comm, Nat.add_assoc]

theorem ordinal_le_of_mem {row : ColumnRow} (member : row ∈ rowsFrom table start columns) :
    start ≤ row.ordinal := by
  obtain ⟨_, _, _, _, rfl⟩ := split_of_mem member
  exact Nat.le_add_right _ _

theorem ordinal_lt_of_mem {row : ColumnRow} (member : row ∈ rowsFrom table start columns) :
    row.ordinal < start + columns.length := by
  obtain ⟨_, _, _, rfl, rfl⟩ := split_of_mem member
  simp [ofColumn]

theorem pairwise_rowsFrom :
    (rowsFrom table start columns).Pairwise fun first second => first.ordinal < second.ordinal := by
  induction columns generalizing start with
  | nil => exact List.Pairwise.nil
  | cons column rest ih =>
      exact List.pairwise_cons.mpr ⟨fun row member => ordinal_le_of_mem member, ih⟩

theorem eq_of_ordinal_eq {first second : ColumnRow}
    (inFirst : first ∈ rowsFrom table start columns)
    (inSecond : second ∈ rowsFrom table start columns) (same : first.ordinal = second.ordinal) :
    first = second := by
  obtain ⟨left, column, _, rfl, rfl⟩ := split_of_mem inFirst
  obtain ⟨right, other, _, splits, rfl⟩ := split_of_mem inSecond
  have lengths : left.length = right.length := Nat.add_left_cancel same
  obtain ⟨_, rests⟩ := List.append_inj splits lengths
  rw [lengths, (List.cons.inj rests).1]

/-- Sorting the rows of a table by their index puts them in order. -/
theorem mergeSort_eq (stands : rows.Perm (rowsOf table columns)) :
    rows.mergeSort (fun first second => decide (first.ordinal ≤ second.ordinal)) =
      rowsOf table columns := by
  have sorted : (rows.mergeSort fun first second =>
      decide (first.ordinal ≤ second.ordinal)).Pairwise
        fun first second => first.ordinal ≤ second.ordinal := by
    apply (List.pairwise_mergeSort ?_ ?_ rows).imp
    · intro first second below
      exact of_decide_eq_true below
    · intro first second third
      simp only [decide_eq_true_eq]
      omega
    · intro first second
      simp only [Bool.or_eq_true, decide_eq_true_eq]
      omega
  have together := (List.mergeSort_perm rows fun first second =>
    decide (first.ordinal ≤ second.ordinal)).trans stands
  refine List.Perm.eq_of_pairwise ?_ sorted
    (pairwise_rowsFrom.imp fun below => Nat.le_of_lt below) together
  intro first second inRows inOrder above below
  exact eq_of_ordinal_eq (together.mem_iff.mp inRows) inOrder (Nat.le_antisymm above below)

section Lookup

/-- A column that is found in rows stands in the list at the index of its row. -/
theorem split_of_find? {column : String} {row : ColumnRow}
    (stands : rows.Perm (rowsOf table columns))
    (found : rows.find? (fun row => decide (row.name = column)) = some row) :
    ∃ before present after, columns = before ++ present :: after ∧
      before.length = row.ordinal ∧ present.name = column := by
  have named : row.name = column := by simpa using List.find?_some found
  obtain ⟨before, present, after, rfl, rfl⟩ :=
    split_of_mem (stands.mem_iff.mp (List.mem_of_find?_eq_some found))
  exact ⟨before, present, after, rfl, (Nat.zero_add _).symm, named⟩

theorem find?_isSome {column : String} (stands : rows.Perm (rowsOf table columns)) :
    (rows.find? fun row => decide (row.name = column)).isSome =
      columns.any fun present => decide (present.name = column) := by
  have names : (rows.map name).Perm (columns.map EngineColumn.name) :=
    (stands.map name).trans (List.Perm.of_eq map_name_rowsFrom)
  have member : column ∈ rows.map name ↔ column ∈ columns.map EngineColumn.name := names.mem_iff
  simp only [List.mem_map] at member
  rw [Bool.eq_iff_iff, List.find?_isSome, List.any_eq_true]
  simpa using member

end Lookup

section Changes

theorem map_eq_self {α : Type} {change : α → α} {list : List α}
    (fixes : ∀ item ∈ list, change item = item) : list.map change = list :=
  (List.map_congr_left fixes).trans (List.map_id' list)

/-- Move a row one place further when its index is not below a given one. -/
def shiftUp (index : Nat) (row : ColumnRow) : ColumnRow :=
  if index ≤ row.ordinal then { row with ordinal := row.ordinal + 1 } else row

/-- Move a row one place back when its index is above a given one. -/
def shiftDown (index : Nat) (row : ColumnRow) : ColumnRow :=
  if index < row.ordinal then { row with ordinal := row.ordinal - 1 } else row

theorem map_shiftUp_below {index : Nat} (below : start + columns.length ≤ index) :
    (rowsFrom table start columns).map (shiftUp index) = rowsFrom table start columns := by
  apply map_eq_self
  intro row member
  have := ordinal_lt_of_mem member
  exact if_neg (by omega)

theorem map_shiftUp_above {index : Nat} (above : index ≤ start) :
    (rowsFrom table start columns).map (shiftUp index) = rowsFrom table (start + 1) columns := by
  induction columns generalizing start with
  | nil => rfl
  | cons column rest ih =>
      have moved : shiftUp index (ofColumn table start column) =
          ofColumn table (start + 1) column := if_pos above
      rw [rowsFrom, List.map_cons, ih (Nat.le_succ_of_le above), moved]
      rfl

theorem map_shiftDown_below {index : Nat} (below : start + columns.length ≤ index + 1) :
    (rowsFrom table start columns).map (shiftDown index) = rowsFrom table start columns := by
  apply map_eq_self
  intro row member
  have := ordinal_lt_of_mem member
  exact if_neg (by omega)

theorem map_shiftDown_above {index : Nat} (above : index ≤ start) :
    (rowsFrom table (start + 1) columns).map (shiftDown index) = rowsFrom table start columns := by
  induction columns generalizing start with
  | nil => rfl
  | cons column rest ih =>
      have moved : shiftDown index (ofColumn table (start + 1) column) =
          ofColumn table start column := if_pos (Nat.lt_succ_of_le above)
      rw [rowsFrom, List.map_cons, ih (Nat.le_succ_of_le above), moved]
      rfl

theorem insertIdx_length (column : EngineColumn) :
    (before ++ after).insertIdx before.length column = before ++ column :: after := by
  induction before with
  | nil => rfl
  | cons first rest ih => simp [ih]

/-- Making room at an index and adding a row there inserts a column. -/
theorem insert_perm {index : Nat} {column : EngineColumn}
    (stands : rows.Perm (rowsOf table columns)) (within : index ≤ columns.length) :
    (rows.map (shiftUp index) ++ [ofColumn table index column]).Perm
      (rowsOf table (columns.insertIdx index column)) := by
  obtain ⟨before, after, rfl, rfl⟩ : ∃ before after, columns = before ++ after ∧
      before.length = index :=
    ⟨columns.take index, columns.drop index, (List.take_append_drop index columns).symm,
      List.length_take_of_le within⟩
  refine ((stands.map _).append_right _).trans ?_
  rw [insertIdx_length, rowsOf, rowsOf, rowsFrom_append, rowsFrom_append, rowsFrom,
    List.map_append, map_shiftUp_below (Nat.le_of_eq (Nat.zero_add _)),
    map_shiftUp_above (Nat.le_of_eq (Nat.zero_add _).symm), List.append_assoc, Nat.zero_add]
  exact List.Perm.append_left _ (List.perm_append_singleton _ _)

theorem filter_name_ne_rowsFrom {name : String}
    (unused : ∀ column ∈ columns, column.name ≠ name) :
    (rowsFrom table start columns).filter (fun row => !decide (row.name = name)) =
      rowsFrom table start columns := by
  apply List.filter_eq_self.mpr
  intro row member
  obtain ⟨before, column, after, rfl, rfl⟩ := split_of_mem member
  have different := unused column (by simp)
  simp [ofColumn, different]

variable {column : EngineColumn}

theorem name_ne_of_nodup (distinct : ((before ++ column :: after).map EngineColumn.name).Nodup) :
    ∀ present ∈ before ++ after, present.name ≠ column.name := by
  intro present member same
  have rearranged : ((before ++ column :: after).map EngineColumn.name).Perm
      ((column :: (before ++ after)).map EngineColumn.name) := List.perm_middle.map _
  exact (List.nodup_cons.mp (rearranged.nodup_iff.mp distinct)).1
    (List.mem_map.mpr ⟨present, member, same⟩)

theorem filter_name_ne
    (distinct : ((before ++ column :: after).map EngineColumn.name).Nodup) :
    (before ++ column :: after).filter (fun present => decide (present.name ≠ column.name)) =
      before ++ after := by
  rw [List.filter_append, List.filter_cons_of_neg (by simp), ← List.filter_append,
    List.filter_eq_self.mpr fun present member =>
      decide_eq_true (name_ne_of_nodup distinct present member)]

/-- Taking the row of a column away and moving those behind it one place back removes the
column. -/
theorem remove_perm (stands : rows.Perm (rowsOf table (before ++ column :: after)))
    (distinct : ((before ++ column :: after).map EngineColumn.name).Nodup) :
    ((rows.filter fun row => !decide (row.name = column.name)).map
        (shiftDown before.length)).Perm
      (rowsOf table ((before ++ column :: after).filter fun present =>
        decide (present.name ≠ column.name))) := by
  have others := name_ne_of_nodup distinct
  have remaining : (rowsOf table (before ++ column :: after)).filter
      (fun row => !decide (row.name = column.name)) =
        rowsFrom table 0 before ++ rowsFrom table (before.length + 1) after := by
    rw [rowsOf, rowsFrom_append, rowsFrom, List.filter_append,
      List.filter_cons_of_neg (by simp [ofColumn]), Nat.zero_add,
      filter_name_ne_rowsFrom fun present member =>
        others present (List.mem_append_left _ member),
      filter_name_ne_rowsFrom fun present member =>
        others present (List.mem_append_right _ member)]
  refine ((stands.filter _).map _).trans (List.Perm.of_eq ?_)
  rw [filter_name_ne distinct, remaining, List.map_append,
    map_shiftDown_below (Nat.le_trans (Nat.le_of_eq (Nat.zero_add _)) (Nat.le_succ _)),
    map_shiftDown_above (Nat.le_refl _), rowsOf, rowsFrom_append, Nat.zero_add]

/-- Changing the rows of a name changes the columns of that name. -/
theorem update_perm {name : String} {changeRow : ColumnRow → ColumnRow}
    {change : EngineColumn → EngineColumn}
    (changes : ∀ ordinal column, changeRow (ofColumn table ordinal column) =
      ofColumn table ordinal (change column))
    (stands : rows.Perm (rowsOf table columns)) :
    (rows.map fun row => if row.name = name then changeRow row else row).Perm
      (rowsOf table (columns.map fun column =>
        if column.name = name then change column else column)) := by
  have inOrder (start : Nat) (columns : List EngineColumn) :
      (rowsFrom table start columns).map
        (fun row => if row.name = name then changeRow row else row) =
      rowsFrom table start (columns.map fun column =>
        if column.name = name then change column else column) := by
    induction columns generalizing start with
    | nil => rfl
    | cons column rest ih =>
        rw [rowsFrom, List.map_cons, ih, changes, List.map_cons, rowsFrom]
        congr 1
        by_cases named : column.name = name
        · rw [if_pos named]
          exact if_pos named
        · rw [if_neg named]
          exact if_neg named
  exact (stands.map _).trans (List.Perm.of_eq (inOrder 0 columns))

end Changes

end ColumnRow

end CatalogGateway
