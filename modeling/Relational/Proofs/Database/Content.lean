import Relational.Database
import Relational.Proofs.Index
import Relational.Proofs.Schema.Declared

/-!
# Contents of tables

The content that a table should have is a function of its definition and its rows: the rows, and every index of
the definition filled with their keys. In such a table looking up rows by an index and looking at each row give
the same.
-/

namespace Relational

open Text

namespace Schema

/-- An index filled with the keys of rows. -/
def filled (s : Schema) (rows : List (List String)) (index : Index) : Index :=
  index.ofKeys (rows.map fun row => Index.upToNull (s.cells index.columns row))

/-- The content of a table with the given rows. -/
def contentOf (s : Schema) (rows : List (List String)) : Content :=
  ⟨rows.map Cell.ofTexts, s.emptyIndexes.map fun entry => (entry.1, s.filled rows entry.2)⟩

/-! ## Filling indexes -/

theorem fillIndex_texts (s : Schema) (rows : List (List String)) (index : Index) :
    s.fillIndex (rows.map Cell.ofTexts) index = .ok (s.filled rows index) := by
  have hkeys : (rows.map Cell.ofTexts).mapM (fun row => Cell.keyTexts (s.cells index.columns row))
      = .ok (rows.map fun row => Index.upToNull (s.cells index.columns row)) := by
    rw [mapM_eq_ok, List.forall₂_map_left_iff, List.forall₂_map_right_iff, List.forall₂_same]
    intro row _
    rw [cells_ofTexts]
    exact Cell.keyTexts_ofTexts _
  rw [fillIndex, hkeys]
  rfl

/-- Filling indexes again gives what filling the empty ones gives. -/
theorem fillIndexes_texts (s : Schema) (rows : List (List String)) (indexes : List (String × Index)) :
    s.fillIndexes (rows.map Cell.ofTexts) indexes
      = .ok (indexes.map fun entry => (entry.1, s.filled rows entry.2)) := by
  apply mapM_eq_ok_map
  rintro ⟨name, index⟩ -
  simp only [fillIndex_texts, ok_bind, pure_eq_ok]

theorem filled_filled (s s' : Schema) (rows rows' : List (List String)) (index : Index) :
    s.filled rows (s'.filled rows' index) = s.filled rows index := by
  rw [filled, filled, Index.columns_ofKeys]
  exact Index.ofKeys_congr (Index.clear_ofKeys _ _) _

/-- New rows in a content give the content of the new rows. -/
theorem withRows_contentOf {s s' : Schema} (h : s'.emptyIndexes = s.emptyIndexes) (rows rows' : List (List String)) :
    (s.contentOf rows).withRows s' (rows'.map Cell.ofTexts) = .ok (s'.contentOf rows') := by
  rw [Content.withRows, fillIndexes_texts, contentOf, contentOf, h, List.map_map]
  simp only [Function.comp_def, filled_filled]
  rfl

/-- The indexes of a table are empty at first. -/
theorem entries_emptyIndexes (s : Schema) : ∀ entry ∈ s.emptyIndexes, entry.2.entries = [] := by
  refine forall_mem_collectEntries (P := fun index : Index => index.entries = []) ?_
  intro entry hentry
  rcases List.mem_append.1 hentry with hentry | hentry
  · rcases List.mem_append.1 hentry with hentry | hentry
    · rw [keyIndexes] at hentry
      split at hentry
      · cases hentry
      · rw [List.mem_singleton.1 hentry]
        rfl
    · obtain ⟨rule, -, rfl⟩ := List.mem_map.1 hentry
      rfl
  · obtain ⟨index, -, rfl⟩ := List.mem_map.1 hentry
    rfl

theorem noContent_eq (s : Schema) : s.noContent = s.contentOf [] := by
  have hfilled : s.emptyIndexes.map (fun entry => (entry.1, s.filled [] entry.2)) = s.emptyIndexes := by
    nth_rewrite 2 [← List.map_id s.emptyIndexes]
    apply List.map_congr_left
    rintro ⟨name, index⟩ hentry
    obtain ⟨n, columns, unique, entries⟩ := index
    obtain rfl : entries = [] := s.entries_emptyIndexes _ hentry
    rfl
  rw [contentOf, hfilled]
  rfl

/-- Rows that are put where there were none make their content. -/
theorem withRows_noContent (s : Schema) (rows : List (List String)) :
    s.noContent.withRows s (rows.map Cell.ofTexts) = .ok (s.contentOf rows) := by
  rw [noContent_eq]
  exact withRows_contentOf rfl [] rows

end Schema

/-! ## Finding rows -/

/-- An index on some columns may spell them in another case. -/
theorem Content.indexOn?_eq_some {content : Content} {columns : List String} {index : Index}
    (h : content.indexOn? columns = some index) :
    ∃ entry ∈ content.indexes, entry.2 = index ∧ index.columns.map lower = columns.map lower := by
  obtain ⟨entry, hentry, rfl⟩ := Option.map_eq_some_iff.1 h
  exact ⟨entry, List.mem_of_find?_eq_some hentry, rfl, by simpa using List.find?_some hentry⟩

namespace Index

/-- Cut keys stand at the same places as whole ones, for a key without NULL. -/
theorem placesFrom_upToNull {key : List String} (h : hasNull key = false) (start : Nat) (keys : List (List String)) :
    placesFrom start key (keys.map upToNull) = placesFrom start key keys := by
  induction keys generalizing start with
  | nil => rfl
  | cons k keys ih =>
    rw [List.map_cons, placesFrom, placesFrom, ih]
    simp only [beq_iff_eq, upToNull_eq_iff h]

end Index

namespace Table

theorem scan_eq_placesFrom (s : Schema) (columns key : List String) (rows : List (List String)) :
    scan s columns key (rows.map Cell.ofTexts) = Index.placesFrom 0 key (rows.map (s.cells columns)) := by
  suffices h : ∀ start, ((rows.map Cell.ofTexts).zipIdx start).filterMap
      (fun place => if s.cells columns place.1 == Cell.ofTexts key then some place.2 else none)
      = Index.placesFrom start key (rows.map (s.cells columns)) by
    exact h 0
  induction rows with
  | nil => intro start; rfl
  | cons row rows ih =>
    intro start
    rw [List.map_cons, List.zipIdx_cons, List.map_cons, Index.placesFrom, ← ih]
    by_cases hkey : s.cells columns row = key
    · simp [Schema.cells_ofTexts, hkey]
    · have hne : Cell.ofTexts (s.cells columns row) ≠ Cell.ofTexts key := fun h => hkey (Cell.ofTexts_injective h)
      simp [Schema.cells_ofTexts, hkey, hne]

/-- The rows of a table are texts, as wide as the table, and its content is what they make it. -/
structure Holds (t : Table) (rows : List (List String)) : Prop where
  content : t.content = some (t.schema.contentOf rows)
  wide : ∀ row ∈ rows, row.length = t.schema.columns.length

/-- A table with a well-formed definition and the content that its rows make. -/
structure Sound (t : Table) : Prop where
  wellFormed : t.schema.WellFormed
  holds : ∃ rows, t.Holds rows

variable {t : Table} {rows : List (List String)}

theorem Holds.rows_eq (h : t.Holds rows) : t.rows = rows.map Cell.ofTexts := by
  rw [Table.rows, h.content]
  rfl

theorem Holds.getD_rows (h : t.Holds rows) {i : Nat} {row : List String} (hrow : rows[i]? = some row) :
    t.rows.getD i [] = Cell.ofTexts row := by
  rw [h.rows_eq, List.getD_eq_getElem?_getD, List.getElem?_map, hrow]
  rfl

theorem Holds.loaded (h : t.Holds rows) : t.loaded = .ok (t.schema.contentOf rows) := by
  rw [Table.loaded, h.content]

theorem mem_scan {s : Schema} {columns key : List String} {rows : List (List Cell)} {i : Nat} :
    i ∈ scan s columns key rows ↔ ∃ row, rows[i]? = some row ∧ s.cells columns row = Cell.ofTexts key := by
  simp only [scan, List.mem_filterMap, Prod.exists, List.mem_zipIdx_iff_getElem?, Option.ite_none_right_eq_some,
    Option.some.injEq, beq_iff_eq]
  constructor
  · rintro ⟨row, j, hrow, hcells, rfl⟩
    exact ⟨row, hrow, hcells⟩
  · rintro ⟨row, hrow, hcells⟩
    exact ⟨row, i, hrow, hcells, rfl⟩

theorem getElem?_map_ofTexts {rows : List (List String)} {i : Nat} {cells : List Cell} :
    (rows.map Cell.ofTexts)[i]? = some cells ↔ ∃ row, rows[i]? = some row ∧ Cell.ofTexts row = cells := by
  rw [List.getElem?_map, Option.map_eq_some_iff]

/-- Among rows of texts a scan compares texts. -/
theorem mem_scan_ofTexts {s : Schema} {columns key : List String} {rows : List (List String)} {i : Nat} :
    i ∈ scan s columns key (rows.map Cell.ofTexts) ↔ ∃ row, rows[i]? = some row ∧ s.cells columns row = key := by
  rw [mem_scan]
  constructor
  · rintro ⟨cells, hcells, hkey⟩
    obtain ⟨row, hrow, rfl⟩ := getElem?_map_ofTexts.1 hcells
    rw [Schema.cells_ofTexts] at hkey
    exact ⟨row, hrow, Cell.ofTexts_injective hkey⟩
  · rintro ⟨row, hrow, rfl⟩
    exact ⟨Cell.ofTexts row, getElem?_map_ofTexts.2 ⟨row, hrow, rfl⟩, Schema.cells_ofTexts _ _⟩

theorem scan_pairwise (s : Schema) (columns key : List String) (rows : List (List Cell)) :
    (scan s columns key rows).Pairwise (· < ·) := by
  have hplaces : rows.zipIdx.Pairwise fun place other => place.2 < other.2 := by
    rw [List.pairwise_iff_getElem]
    intro i j hi hj hlt
    simpa using hlt
  refine hplaces.filterMap _ ?_
  intro place other hlt i hi j hj
  simp only [Option.ite_none_right_eq_some, Option.some.injEq] at hi hj
  rw [← hi.2, ← hj.2]
  exact hlt

theorem scan_congr {s : Schema} {columns columns' : List String} (h : columns.map lower = columns'.map lower)
    (key : List String) (rows : List (List Cell)) : scan s columns key rows = scan s columns' key rows := by
  simp only [scan, Schema.cells_congr h]

/-- A filled index finds what looking at each row finds. -/
theorem search_filled (s : Schema) (rows : List (List String)) (index : Index) {key : List String}
    (hkey : Index.hasNull key = false) :
    (s.filled rows index).search key = scan s index.columns key (rows.map Cell.ofTexts) := by
  have hkeys : rows.map (fun row => Index.upToNull (s.cells index.columns row))
      = (rows.map (s.cells index.columns)).map Index.upToNull := by
    rw [List.map_map]
    rfl
  rw [scan_eq_placesFrom, Schema.filled, Index.search_ofKeys hkey, hkeys, Index.placesFrom_upToNull hkey]

/-- Whether an index is used or not, the rows found are those that hold the key. -/
theorem Holds.findRows (h : t.Holds rows) (columns : List String) {key : List String}
    (hkey : Index.hasNull key = false) : t.findRows columns key = .ok (scan t.schema columns key t.rows) := by
  rw [Table.findRows, h.loaded, ok_bind, pure_eq_ok, h.rows_eq]
  congr 1
  cases hindex : (t.schema.contentOf rows).indexOn? columns with
  | none => rfl
  | some index =>
    obtain ⟨entry, hmem, rfl, hcolumns⟩ := Content.indexOn?_eq_some hindex
    obtain ⟨source, -, rfl⟩ := List.mem_map.1 hmem
    rw [Schema.filled, Index.columns_ofKeys] at hcolumns
    show (t.schema.filled rows source.2).search key = scan t.schema columns key (rows.map Cell.ofTexts)
    rw [search_filled _ _ _ hkey, scan_congr hcolumns]

end Table

end Relational
