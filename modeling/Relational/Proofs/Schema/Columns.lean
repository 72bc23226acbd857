import Mathlib.Data.List.Nodup
import Relational.Database
import Relational.Proofs.Failure

/-!
# Columns by name and by position

A table whose columns differ in name finds every column by its name in any case, and the cells of a row under
some columns are as many as those columns.
-/

namespace Relational

open Text

theorem sameName_iff {a b : String} : sameName a b = true ↔ lower a = lower b := by
  simp [sameName]

namespace Schema

variable {s : Schema}

/-! ## Positions -/

theorem position?_congr {a b : String} (h : lower a = lower b) : s.position? a = s.position? b := by
  simp only [position?, sameName, h]

theorem position?_of_columns_eq {s' : Schema} (h : s'.columns = s.columns) (name : String) :
    s'.position? name = s.position? name := by
  rw [position?, position?, h]

theorem position?_eq_some_iff {name : String} {i : Nat} :
    s.position? name = some i ↔
      ∃ h : i < s.columns.length, lower s.columns[i].name = lower name ∧
        ∀ j (hj : j < i), lower s.columns[j].name ≠ lower name := by
  simp [position?, List.findIdx?_eq_some_iff_getElem, sameName_iff]

theorem position?_lt {name : String} {i : Nat} (h : s.position? name = some i) : i < s.columns.length :=
  (position?_eq_some_iff.1 h).1

theorem hasColumn_iff {name : String} : s.hasColumn name = true ↔ ∃ c ∈ s.columns, lower c.name = lower name := by
  simp [hasColumn, column?, List.find?_isSome, sameName_iff]

theorem hasColumn_iff_position {name : String} : s.hasColumn name = true ↔ ∃ i, s.position? name = some i := by
  rw [hasColumn_iff, ← Option.isSome_iff_exists, position?, List.findIdx?_isSome]
  simp [sameName_iff]

theorem column?_eq_some {name : String} {c : Column} (h : s.column? name = some c) :
    c ∈ s.columns ∧ lower c.name = lower name := by
  rw [column?, List.find?_eq_some_iff_append] at h
  obtain ⟨hname, before, after, hcolumns, -⟩ := h
  exact ⟨by simp [hcolumns], sameName_iff.1 hname⟩

/-- The names of the columns differ in any case. -/
def ColumnsDiffer (s : Schema) : Prop :=
  (s.columns.map fun c => lower c.name).Nodup

theorem ColumnsDiffer.nodup_columnNames (h : s.ColumnsDiffer) : (s.columnNames.map lower).Nodup := by
  rw [columnNames, List.map_map]
  exact h

/-- A column is found by any spelling of its name. -/
theorem ColumnsDiffer.column?_eq (h : s.ColumnsDiffer) {c : Column} (hc : c ∈ s.columns) {name : String}
    (hname : lower c.name = lower name) : s.column? name = some c := by
  cases hfound : s.column? name with
  | none =>
    rw [column?, List.find?_eq_none] at hfound
    exact absurd (sameName_iff.2 hname) (hfound c hc)
  | some d =>
    obtain ⟨hd, hlower⟩ := column?_eq_some hfound
    rw [List.inj_on_of_nodup_map h hd hc (hlower.trans hname.symm)]

theorem ColumnsDiffer.position?_eq (h : s.ColumnsDiffer) {i : Nat} (hi : i < s.columns.length) :
    s.position? s.columns[i].name = some i := by
  rw [position?_eq_some_iff]
  refine ⟨hi, rfl, ?_⟩
  intro j hj heq
  have hlt : j < s.columns.length := Nat.lt_trans hj hi
  have hget : (s.columns.map fun c => lower c.name)[j]? = (s.columns.map fun c => lower c.name)[i]? := by
    simpa [hlt, hi] using heq
  exact List.nodup_iff_getElem?_ne_getElem?.1 h j i hj (by simpa using hi) hget

/-- The column at the position of a name is the column of the name. -/
theorem ColumnsDiffer.getElem?_of_position? (h : s.ColumnsDiffer) {name : String} {i : Nat} {column : Column}
    (hi : s.position? name = some i) (hcolumn : s.column? name = some column) : s.columns[i]? = some column := by
  obtain ⟨hlt, hname, -⟩ := position?_eq_some_iff.1 hi
  rw [h.column?_eq (List.getElem_mem hlt) hname, Option.some.injEq] at hcolumn
  rw [List.getElem?_eq_getElem hlt, hcolumn]

/-- Names that differ in any case stand at different positions. -/
theorem nodup_positions {names : List String} (hnames : (names.map lower).Nodup)
    (hcolumns : ∀ name ∈ names, s.hasColumn name = true) : (names.map s.position?).Nodup := by
  induction names with
  | nil => exact List.nodup_nil
  | cons name names ih =>
    rw [List.map_cons, List.nodup_cons] at hnames ⊢
    rw [List.forall_mem_cons] at hcolumns
    refine ⟨fun hmem => hnames.1 ?_, ih hnames.2 hcolumns.2⟩
    obtain ⟨other, hother, hsame⟩ := List.mem_map.1 hmem
    obtain ⟨i, hi⟩ := hasColumn_iff_position.1 hcolumns.1
    rw [hi] at hsame
    obtain ⟨_, hname, -⟩ := position?_eq_some_iff.1 hi
    obtain ⟨_, hname', -⟩ := position?_eq_some_iff.1 hsame
    exact List.mem_map.2 ⟨other, hother, hname'.symm.trans hname⟩

/-! ## Cells -/

section Cells

variable {α β : Type}

theorem mem_cells {columns : List String} {row : List α} {cell : α} :
    cell ∈ s.cells columns row ↔ ∃ name ∈ columns, ∃ i, s.position? name = some i ∧ row[i]? = some cell := by
  simp only [cells, Index.keyAt, positions, List.mem_filterMap]
  constructor
  · rintro ⟨i, ⟨name, hname, hi⟩, hcell⟩
    exact ⟨name, hname, i, hi, hcell⟩
  · rintro ⟨name, hname, i, hi, hcell⟩
    exact ⟨i, ⟨name, hname, hi⟩, hcell⟩

theorem cells_congr {columns columns' : List String} (h : columns.map lower = columns'.map lower) (row : List α) :
    s.cells columns row = s.cells columns' row := by
  -- cells are taken by position, and no position depends on the case of a name
  have hpos : s.positions columns = s.positions columns' := by
    induction columns generalizing columns' with
    | nil =>
      rw [List.map_eq_nil_iff.1 h.symm]
    | cons a columns ih =>
      cases columns' with
      | nil => simp at h
      | cons b columns' =>
        simp only [List.map_cons, List.cons.injEq] at h
        have htail := ih h.2
        simp only [positions] at htail ⊢
        rw [List.filterMap_cons, List.filterMap_cons, position?_congr h.1, htail]
  rw [cells, cells, hpos]

theorem cells_map (f : α → β) (columns : List String) (row : List α) :
    s.cells columns (row.map f) = (s.cells columns row).map f := by
  simp only [cells, Index.keyAt, List.getElem?_map, List.map_filterMap]

theorem cells_ofTexts (columns row : List String) :
    s.cells columns (Cell.ofTexts row) = Cell.ofTexts (s.cells columns row) :=
  cells_map _ _ _

theorem cells_cons {name : String} {columns : List String} {i : Nat} {row : List α} {cell : α}
    (hi : s.position? name = some i) (hcell : row[i]? = some cell) :
    s.cells (name :: columns) row = cell :: s.cells columns row := by
  simp [cells, positions, Index.keyAt, hi, hcell]

/-- A row as wide as the table has one cell for each of some columns of the table. -/
theorem length_cells {columns : List String} {row : List α} (hcolumns : ∀ name ∈ columns, s.hasColumn name = true)
    (hrow : row.length = s.columns.length) : (s.cells columns row).length = columns.length := by
  induction columns with
  | nil => rfl
  | cons name columns ih =>
    obtain ⟨i, hi⟩ := hasColumn_iff_position.1 (hcolumns name (by simp))
    have hlt : i < row.length := hrow ▸ position?_lt hi
    rw [cells_cons hi (List.getElem?_eq_getElem hlt), List.length_cons, List.length_cons,
      ih (fun name hname => hcolumns name (List.mem_cons_of_mem _ hname))]

/-- Nothing but the columns matters to where a cell is. -/
theorem cells_of_columns_eq {s' : Schema} (h : s'.columns = s.columns) (columns : List String) (row : List α) :
    s'.cells columns row = s.cells columns row := by
  rw [cells, cells, positions, positions, funext (position?_of_columns_eq h)]

theorem hasColumn_of_columns_eq {s' : Schema} (h : s'.columns = s.columns) (name : String) :
    s'.hasColumn name = s.hasColumn name := by
  simp only [hasColumn, column?, h]

end Cells

/-! ## Resolving names -/

/-- The spelling of a column by the table. -/
def spelling (s : Schema) (name : String) : Option String :=
  (s.column? name).map Column.name

theorem spelling_eq_some {name spelled : String} (h : s.spelling name = some spelled) :
    spelled ∈ s.columnNames ∧ lower spelled = lower name := by
  obtain ⟨c, hc, rfl⟩ := Option.map_eq_some_iff.1 h
  obtain ⟨hmem, hlower⟩ := column?_eq_some hc
  exact ⟨List.mem_map_of_mem hmem, hlower⟩

/-- Resolving takes at least one name, and gives each as the table spells it. -/
theorem resolve_eq_ok {what : String} {names key : List String} :
    s.resolve what names = .ok key ↔
      names ≠ [] ∧ List.Forall₂ (fun name spelled => s.spelling name = some spelled) names key := by
  unfold resolve
  split
  · rename_i hempty
    simp [List.isEmpty_iff.1 hempty]
  · rename_i hempty
    rw [mapM_eq_ok, and_iff_right (by simpa using hempty)]
    constructor
    · refine fun h => h.imp ?_
      intro name spelled hname
      cases hc : s.column? name <;> simp_all [spelling]
    · refine fun h => h.imp ?_
      intro name spelled hname
      cases hc : s.column? name <;> simp_all [spelling]

theorem resolve_ne_nil {what : String} {names key : List String} (h : s.resolve what names = .ok key) :
    key ≠ [] := by
  obtain ⟨hne, hforall⟩ := resolve_eq_ok.1 h
  rintro rfl
  cases hforall
  exact hne rfl

theorem resolve_subset {what : String} {names key : List String} (h : s.resolve what names = .ok key) :
    key ⊆ s.columnNames := by
  obtain ⟨-, hforall⟩ := resolve_eq_ok.1 h
  clear h
  induction hforall with
  | nil => exact List.nil_subset _
  | cons hname _ ih => exact List.cons_subset.2 ⟨(spelling_eq_some hname).1, ih⟩

theorem filterMap_spelling {what : String} {names key : List String} (h : s.resolve what names = .ok key) :
    names.filterMap s.spelling = key := by
  obtain ⟨-, hforall⟩ := resolve_eq_ok.1 h
  clear h
  induction hforall with
  | nil => rfl
  | cons hname _ ih => rw [List.filterMap_cons_some hname, ih]

theorem hasColumn_of_mem {name : String} (h : name ∈ s.columnNames) : s.hasColumn name = true := by
  obtain ⟨c, hc, rfl⟩ := List.mem_map.1 h
  exact hasColumn_iff.2 ⟨c, hc, rfl⟩

end Schema

end Relational
