import Relational.Proofs.Database.Keys
import Relational.Proofs.Database.StoredRows

/-!
# Unique indexes

A unique index is declared only where the rows have different keys. Later changes are not held to it: a row may be put
in, at the end of a table or in the place of another, whose key another row has. That is the one way to rows with one
key under a unique index, in memory or in the files; nothing else that can happen to a database makes any.
-/

namespace Relational

namespace Schema

/-- Under each unique index rows at different positions have equal keys only if a part of the key is NULL. -/
def UniqueIndexesApart (s : Schema) (cells : List (List Cell)) : Prop :=
  ∀ declared ∈ s.indexes, declared.2.unique = true → ∀ (i j : Nat) (row other : List Cell), i ≠ j →
    cells[i]? = some row → cells[j]? = some other → s.cells declared.2.columns row = s.cells declared.2.columns other →
    ∃ cell ∈ s.cells declared.2.columns row, cell.isNull = true

/-- Under a unique index the row at a position has a key without NULL that another row has too. -/
def DoublesKey (s : Schema) (cells : List (List Cell)) (i : Nat) : Prop :=
  ∃ declared ∈ s.indexes, declared.2.unique = true ∧ ∃ j row other, j ≠ i ∧ cells[i]? = some row ∧
    cells[j]? = some other ∧ s.cells declared.2.columns row = s.cells declared.2.columns other ∧
    ∀ cell ∈ s.cells declared.2.columns row, cell.isNull = false

theorem DoublesKey.not_uniqueIndexesApart {s : Schema} {cells : List (List Cell)} {i : Nat} (h : s.DoublesKey cells i) :
    ¬ s.UniqueIndexesApart cells := by
  obtain ⟨declared, hdeclared, hunique, j, row, other, hne, hrow, hother, hsame, hpresent⟩ := h
  intro hapart
  obtain ⟨cell, hcell, hnull⟩ := hapart declared hdeclared hunique i j row other hne.symm hrow hother hsame
  rw [hpresent cell hcell] at hnull
  cases hnull

/-- The keys of the rows are apart under each unique index. -/
def IndexesApart (s : Schema) (rows : List (List String)) : Prop :=
  ∀ declared ∈ s.indexes, declared.2.unique = true → s.Apart declared.2.columns rows

variable {s s' : Schema} {rows rows' : List (List String)} {i : Nat}

theorem IndexesApart.uniqueIndexesApart (h : s.IndexesApart rows) : s.UniqueIndexesApart (rows.map Cell.ofTexts) :=
  fun declared hdeclared hunique _ _ _ _ hne hrow hother hsame =>
    (h declared hdeclared hunique).exists_isNull hne hrow hother hsame

theorem IndexesApart.nil (s : Schema) : s.IndexesApart [] := by
  intro declared _ _ i j row other hrow
  simp at hrow

theorem doublesKey_of_sameKey {declared : String × IndexSpec} (hdeclared : declared ∈ s.indexes)
    (hunique : declared.2.unique = true) {j : Nat} {row other : List String} (hne : j ≠ i) (hrow : rows[i]? = some row)
    (hother : rows[j]? = some other) (hsame : s.SameKey declared.2.columns row other) :
    s.DoublesKey (rows.map Cell.ofTexts) i := by
  refine ⟨declared, hdeclared, hunique, j, Cell.ofTexts row, Cell.ofTexts other, hne,
    Table.getElem?_map_ofTexts.2 ⟨row, hrow, rfl⟩, Table.getElem?_map_ofTexts.2 ⟨other, hother, rfl⟩, ?_, ?_⟩
  · rw [cells_ofTexts, cells_ofTexts, hsame.1]
  · rw [cells_ofTexts]
    exact Cell.forall_isNull_eq_false_iff.2 hsame.2

/-! ## What keeps the keys apart -/

/-- One row may be new, if it doubles no key. -/
theorem IndexesApart.put (h : s.IndexesApart rows)
    (hold : ∀ j row, j ≠ i → rows'[j]? = some row → rows[j]? = some row)
    (hnew : ¬ s.DoublesKey (rows'.map Cell.ofTexts) i) : s.IndexesApart rows' := by
  intro declared hdeclared hunique a b row other hrow hother hsame
  by_contra hne
  by_cases ha : a = i
  · subst ha
    exact hnew (doublesKey_of_sameKey hdeclared hunique (Ne.symm hne) hrow hother hsame)
  · by_cases hb : b = i
    · subst hb
      exact hnew (doublesKey_of_sameKey hdeclared hunique hne hother hrow hsame.symm)
    · exact hne (h declared hdeclared hunique a b row other (hold a row ha hrow) (hold b other hb hother) hsame)

theorem IndexesApart.sameRules (hsame : s.SameRules s') (h : s.IndexesApart rows) : s'.IndexesApart rows := by
  intro declared hdeclared hunique i j row other hrow hother hkey
  rw [← hsame.indexes] at hdeclared
  refine h declared hdeclared hunique i j row other hrow hother ?_
  rwa [SameKey, cells_of_columns_eq hsame.columns, cells_of_columns_eq hsame.columns]

/-! ## Declaring a unique index -/

theorem mem_search_filled (s : Schema) (rows : List (List String)) (index : Index) {key : List String}
    (hkey : Index.hasNull key = false) :
    i ∈ (s.filled rows index).search key ↔ ∃ row, rows[i]? = some row ∧ s.cells index.columns row = key := by
  rw [Table.search_filled s rows index hkey, Table.mem_scan_ofTexts]

/-- Without a duplicate key, one key is found in one row at most. -/
theorem eq_of_mem_search {index : Index} (h : Database.duplicateKey? index = none) {key : List String} {i j : Nat}
    (hi : i ∈ index.search key) (hj : j ∈ index.search key) : i = j := by
  have hkey : key ∈ index.keys := by
    by_contra hnot
    have hnone : index.entries.lookup key = none := by
      rw [List.lookup_eq_none_iff]
      intro entry hentry
      rw [bne_iff_ne]
      rintro rfl
      exact hnot (List.mem_map_of_mem hentry)
    rw [Index.search, hnone] at hi
    simp at hi
  have hfew : (index.search key).length ≤ 1 := by
    have hnone := List.find?_eq_none.1 h key hkey
    simpa using hnone
  rw [List.mem_iff_getElem] at hi hj
  obtain ⟨a, ha, rfl⟩ := hi
  obtain ⟨b, hb, rfl⟩ := hj
  obtain rfl : a = b := by omega
  rfl

/-- An index is unique only if the keys of the rows are apart. -/
theorem IndexesApart.addIndex {index : String} {columns : List String} {unique : Bool}
    (hindex : s.addIndex index columns unique = .ok s') (hapart : unique = true →
      Database.duplicateKey? (s.filled rows (.empty index (columns.filterMap s.spelling) unique)) = none)
    (h : s.IndexesApart rows) : s'.IndexesApart rows := by
  obtain ⟨-, -, key, hkey, rfl⟩ := Schema.addIndex_eq_ok.1 hindex
  rw [filterMap_spelling hkey] at hapart
  intro declared hdeclared hunique
  rcases List.mem_append.1 hdeclared with hdeclared | hdeclared
  · exact h declared hdeclared hunique
  · rw [List.mem_singleton.1 hdeclared] at hunique ⊢
    intro i j row other hrow hother hsame
    have hi := (mem_search_filled s rows (.empty index key unique) hsame.2).2 ⟨row, hrow, rfl⟩
    have hj := (mem_search_filled s rows (.empty index key unique) hsame.2).2 ⟨other, hother, hsame.1⟩
    exact eq_of_mem_search (hapart hunique) hi hj

end Schema

/-- Rows that stand in a table, with keys that are apart under each unique index. -/
def RowInvariant.apartRows : RowInvariant where
  holds := fun s rows => (∀ row ∈ rows, s.Standing row) ∧ s.IndexesApart rows
  nil := fun s => ⟨fun _ h => (List.not_mem_nil h).elim, .nil s⟩
  standing := And.left
  sameRules := fun hsame h => ⟨RowInvariant.standingRows.sameRules hsame h.1, h.2.sameRules hsame⟩
  indexed := fun hindex hapart h =>
    ⟨RowInvariant.standingRows.indexed hindex hapart h.1, h.2.addIndex hindex hapart⟩

namespace Database

variable {db db' : Database}

/-- The rows of every table are apart under its unique indexes, whether it is in memory or could be loaded. -/
def UniqueIndexesApart (db : Database) : Prop :=
  ∀ s cells, db.Shows s cells → s.UniqueIndexesApart cells

/-- The change puts a row in a table, at its end or in the place of another, that doubles a key. The table with the row
is in memory then, or at least in the files. -/
def Doubles (db db' : Database) : Prop :=
  ∃ entry ∈ db.tables, ∃ s cells i row, entry.2.schema.SameRules s ∧ db'.Shows s cells ∧ s.DoublesKey cells i ∧
    (i = entry.2.rows.length ∧ cells = entry.2.rows ++ [row] ∨ cells = entry.2.rows.set i row)

/-- A row put in a table keeps the keys apart, if it doubles none. -/
theorem Exchanges.apart {t : Table} {s : Schema} {now : Timestamp} {rows rows' : List (List String)}
    (h : Exchanges t.schema now rows rows') (ht : t.Holds rows) (hapart : t.schema.IndexesApart rows)
    (hsame : t.schema.SameRules s) (hnew : ∀ i row, (i = t.rows.length ∧ rows'.map Cell.ofTexts = t.rows ++ [row] ∨
      rows'.map Cell.ofTexts = t.rows.set i row) → ¬ s.DoublesKey (rows'.map Cell.ofTexts) i) :
    s.IndexesApart rows' := by
  have hold := hapart.sameRules hsame
  cases h with
  | @inserted raw row hstored =>
    refine hold.put (i := rows.length) (fun j other hne hother => ?_) (hnew _ (Cell.ofTexts row) (.inl ⟨?_, ?_⟩))
    · rcases getElem?_concat_eq_some.1 hother with hother | ⟨hlast, -⟩
      · exact hother
      · exact absurd hlast hne
    · rw [ht.rows_eq, List.length_map]
    · rw [ht.rows_eq, List.map_append]
      rfl
  | @updated raw row i hi hstored =>
    refine hold.put (fun j other hne hother => ?_) (hnew i (Cell.ofTexts row) (.inr ?_))
    · rcases getElem?_set_eq_some hother with ⟨hat, -⟩ | ⟨-, hother⟩
      · exact absurd hat hne
      · exact hother
    · rw [ht.rows_eq, List.map_set]
  | deleted i => exact fun declared hdeclared hunique => (hold declared hdeclared hunique).eraseIdx i

/-- A move that doubles no key keeps the keys apart. -/
theorem Move.apartRows (hmove : Move db db') (h : db.Consistent .apartRows) (hdouble : ¬ Doubles db db') :
    db'.Consistent .apartRows := by
  refine hmove.consistent h fun entry hentry now rows rows' hrows hkeeps hexchanges s hsame hshows => ⟨?_, ?_⟩
  · exact RowInvariant.standingRows.sameRules hsame (hexchanges.standing hkeeps.1)
  · refine hexchanges.apart hrows hkeeps.2 hsame fun i row hput hdoubles => hdouble ?_
    exact ⟨entry, hentry, s, _, i, row, hsame, hshows, hdoubles, hput⟩

theorem Consistent.uniqueIndexesApart (h : db.Consistent .apartRows) : db.UniqueIndexesApart := by
  intro s cells hshows
  obtain ⟨rows, rfl, hkeeps⟩ := h.holds_shown hshows
  exact hkeeps.2.uniqueIndexesApart

/-- A history of a database: it begins without tables, and each state comes from the one before by a move. -/
structure History (states : Nat → Database) : Prop where
  start : ∃ path : Option String, states 0 = empty (path.map .empty)
  moves : ∀ n, Move (states n) (states (n + 1))

/-- In all states of a history the keys are apart under unique indexes, exactly if no move puts in a row that doubles a
key. -/
theorem History.uniqueIndexesApart_iff {states : Nat → Database} (h : History states) :
    (∀ n, (states n).UniqueIndexesApart) ↔ ∀ n, ¬ Doubles (states n) (states (n + 1)) := by
  constructor
  · rintro hapart n ⟨entry, hentry, s, cells, i, row, hsame, hshows, hdoubles, -⟩
    exact hdoubles.not_uniqueIndexesApart (hapart (n + 1) s cells hshows)
  · intro hnone
    suffices hconsistent : ∀ n, (states n).Consistent .apartRows from fun n => (hconsistent n).uniqueIndexesApart
    intro n
    induction n with
    | zero =>
      obtain ⟨path, hstart⟩ := h.start
      rw [hstart]
      exact .empty path
    | succ n ih => exact (h.moves n).apartRows ih (hnone n)

/-! ## Two labels of one kind -/

namespace Label

/-- A table of labels gets a unique index on their kinds, and then two labels of one kind. -/
def history : Nat → Database
  | 0 => empty none
  | 1 => ((history 0).addTable moment schema).2
  | 2 => ((history 1).createIndex moment "label" "by_kind" ["kind"] true).2
  | 3 => ((history 2).insertRow moment "label" (.cells ["1", "x"])).2
  | 4 => ((history 3).insertRow moment "label" (.cells ["2", "x"])).2
  | n + 5 => ((history (n + 4)).deleteRow moment "label" (-1)).2

theorem history_moves : History history where
  start := ⟨none, rfl⟩
  moves
    | 0 => .addTable moment declared ⟨rfl, by decide⟩
    | 1 => .createIndex moment "label" "by_kind" ["kind"] true
    | 2 => .insertRow moment "label" (.cells ["1", "x"])
    | 3 => .insertRow moment "label" (.cells ["2", "x"])
    | n + 4 => .deleteRow moment "label" (-1)

/-- The labels with their unique index. -/
def doubled : Table :=
  storedTable { schema with indexes := [("by_kind", ⟨["kind"], true⟩)] } [["1", "x"], ["2", "x"]] moment

theorem history_tables : (history 4).tables = [("label", doubled)] := by
  decide +kernel

theorem doubled_doublesKey : doubled.schema.DoublesKey doubled.rows 1 :=
  ⟨("by_kind", ⟨["kind"], true⟩), by decide, rfl, 0, [.text "2", .text "x"], [.text "1", .text "x"], by decide, rfl,
    rfl, by decide +kernel, by decide +kernel⟩

end Label

/-- Some move of the history doubles a key. -/
theorem label_history_doubles : ∃ n, Doubles (Label.history n) (Label.history (n + 1)) := by
  by_contra hnone
  have hapart := (Label.history_moves.uniqueIndexesApart_iff.2 fun n hdoubles => hnone ⟨n, hdoubles⟩) 4
  refine Label.doubled_doublesKey.not_uniqueIndexesApart (hapart _ _ (.inl ⟨("label", Label.doubled), ?_, rfl, rfl⟩))
  rw [Label.history_tables]
  exact .head _

/-- The two labels have one kind, though the index on their kinds is unique. -/
theorem label_kind_doubled : History Label.history ∧ ∃ entry ∈ (Label.history 4).tables,
    entry.2.schema.indexes = [("by_kind", ⟨["kind"], true⟩)] ∧
      ¬ entry.2.schema.UniqueIndexesApart entry.2.rows := by
  refine ⟨Label.history_moves, ("label", Label.doubled), ?_, rfl, Label.doubled_doublesKey.not_uniqueIndexesApart⟩
  rw [Label.history_tables]
  exact .head _

end Database

end Relational
