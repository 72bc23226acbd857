import Relational.Proofs.Database.Indexes
import Relational.Proofs.Equality
import Relational.Proofs.Schema.Scope

/-!
# Rows found through an index

The rows of a condition are the same whether an index is used or each row is looked at. Where an equality under AND is
true in a row, the row holds the stored form of the literal, and the index on the column has its position under that
key; the other positions in question are sorted out by the condition itself.
-/

namespace Relational

open Text

namespace Plan

/-- The truth of a condition in the row at a position. -/
def truth (now : Timestamp) (s : Schema) (rows : List (List Cell)) (c : Condition) (i : Nat) :
    Except Failure Truth := do
  c.evaluate (s.rowScope now (← Cell.texts (rows.getD i [])))

/-- A row is selected where the condition is true. -/
theorem selectsRow_eq (now : Timestamp) (s : Schema) (rows : List (List Cell)) (c : Condition) (i : Nat) :
    selectsRow now s rows c i = (truth now s rows c i).map (· == some true) := by
  rw [selectsRow, truth]
  cases Cell.texts (rows.getD i []) with
  | error failure => rfl
  | ok texts => rfl

theorem select_sublist {test : Nat → Except Failure Bool} {is js : List Nat} (h : select test is = .ok js) :
    js.Sublist is := by
  induction is generalizing js with
  | nil =>
    cases h
    exact .refl []
  | cons i is ih =>
    obtain ⟨passes, -, h⟩ := bind_eq_ok.1 h
    obtain ⟨rest, hrest, h⟩ := bind_eq_ok.1 h
    cases h
    split
    · exact (ih hrest).cons_cons i
    · exact (ih hrest).cons i

/-- The positions that are selected are those that pass. -/
theorem mem_select {test : Nat → Except Failure Bool} {is js : List Nat} (h : select test is = .ok js) {i : Nat} :
    i ∈ js ↔ i ∈ is ∧ test i = .ok true := by
  induction is generalizing js with
  | nil =>
    cases h
    simp
  | cons j is ih =>
    obtain ⟨passes, hpasses, h⟩ := bind_eq_ok.1 h
    obtain ⟨rest, hrest, h⟩ := bind_eq_ok.1 h
    cases h
    have hmem := ih hrest
    rw [List.mem_cons]
    cases passes with
    | true =>
      rw [if_pos rfl, List.mem_cons, hmem]
      constructor
      · rintro (rfl | ⟨hi, htest⟩)
        · exact ⟨.inl rfl, hpasses⟩
        · exact ⟨.inr hi, htest⟩
      · rintro ⟨rfl | hi, htest⟩
        · exact .inl rfl
        · exact .inr ⟨hi, htest⟩
    | false =>
      rw [if_neg Bool.false_ne_true, hmem]
      constructor
      · rintro ⟨hi, htest⟩
        exact ⟨.inr hi, htest⟩
      · rintro ⟨rfl | hi, htest⟩
        · rw [hpasses] at htest
          cases htest
        · exact ⟨hi, htest⟩

/-! ## Equalities that are true -/

variable {db : Database} {s : Schema} {scope : Scope} {c : Condition} {name : String} {value : Literal}
  {index : Index} {key : String}

theorem equality?_eq_some (h : equality? c = some (name, value)) :
    ∃ table, c = .compare .eq (.column table name) (.literal value) ∨
      c = .compare .eq (.literal value) (.column table name) := by
  unfold equality? at h
  split at h
  · rename_i table _ _
    cases h
    exact ⟨table, .inl rfl⟩
  · rename_i table _
    cases h
    exact ⟨table, .inr rfl⟩
  · cases h

theorem lookup?_eq_some (h : lookup? db s name value = some (index, key)) : ∃ text, ∃ column : Column,
    value.text? = some text ∧ s.column? name = some column ∧
      (column.type.isFloating || column.type.isDecimal) = false ∧ suits column.type value = true ∧
      db.indexOn? s.name [column.name] = some index ∧ encode column.type column.choices text = .ok key := by
  unfold lookup? at h
  simp only [Option.bind_eq_bind, Option.bind_eq_some_iff] at h
  obtain ⟨text, htext, column, hcolumn, h⟩ := h
  split at h
  · cases h
  · rename_i hsuits
    rw [Bool.not_eq_true, Bool.or_eq_false_iff, Bool.not_eq_false'] at hsuits
    simp only [Option.bind_eq_some_iff] at h
    obtain ⟨found, hfound, key', hkey, h⟩ := h
    cases h
    refine ⟨text, column, htext, hcolumn, hsuits.1, hsuits.2, hfound, ?_⟩
    cases hencode : encode column.type column.choices text with
    | error failure =>
      rw [hencode] at hkey
      cases hkey
    | ok stored =>
      rw [hencode] at hkey
      cases hkey
      rfl

/-- Two values of which an equality is true. -/
theorem apply_eq_true {v w : Value} (h : Comparison.apply .eq v w = .ok (some true)) :
    v.isNull = false ∧ w.isNull = false ∧ alignedOrder v w = .ok .eq := by
  unfold Comparison.apply at h
  split at h
  · cases h
  · rename_i hpresent
    rw [Bool.not_eq_true, Bool.or_eq_false_iff] at hpresent
    refine ⟨hpresent.1, hpresent.2, ?_⟩
    cases horder : alignedOrder v w with
    | error failure =>
      rw [horder] at h
      cases h
    | ok order =>
      rw [horder] at h
      cases order
      · cases h
      · rfl
      · cases h

/-- A column that has a value equal to a literal. -/
def Matches (scope : Scope) (name : String) (value : Literal) : Prop :=
  ∃ table v w, scope.column table name = .ok v ∧ value.evaluate = .ok w ∧ v.isNull = false ∧ v.Meets w

theorem matches_of_equality (hc : equality? c = some (name, value)) (h : c.evaluate scope = .ok (some true)) :
    Matches scope name value := by
  obtain ⟨table, rfl | rfl⟩ := equality?_eq_some hc
  · simp only [Condition.evaluate, bind_eq_ok, Expr.evaluate] at h
    obtain ⟨v, hv, w, hw, h⟩ := h
    obtain ⟨hpresent, -, horder⟩ := apply_eq_true h
    exact ⟨table, v, w, hv, hw, hpresent, .inl horder⟩
  · simp only [Condition.evaluate, bind_eq_ok, Expr.evaluate] at h
    obtain ⟨w, hw, v, hv, h⟩ := h
    obtain ⟨-, hpresent, horder⟩ := apply_eq_true h
    exact ⟨table, v, w, hv, hw, hpresent, .inr horder⟩

/-- Both sides of a conjunction that is true are true. -/
theorem both_true {left right : Condition} (h : (Condition.logic .and left right).evaluate scope = .ok (some true)) :
    left.evaluate scope = .ok (some true) ∧ right.evaluate scope = .ok (some true) := by
  simp only [Condition.evaluate, bind_eq_ok] at h
  obtain ⟨t, hleft, h⟩ := h
  split at h
  · rename_i hfalse
    subst hfalse
    cases h
  · obtain ⟨u, hright, h⟩ := bind_eq_ok.1 h
    rw [hleft, hright]
    rcases t with - | - | - <;> rcases u with - | - | - <;> cases h
    exact ⟨rfl, rfl⟩

/-- An index answers an equality that is true wherever the whole condition is. -/
theorem opportunity?_eq_some (hc : opportunity? db s c = some (index, key)) :
    ∃ name value, lookup? db s name value = some (index, key) ∧
      ∀ scope, c.evaluate scope = .ok (some true) → Matches scope name value := by
  fun_induction opportunity? db s c with
  | case1 left right ihleft ihright =>
    rcases Option.or_eq_some_iff.1 hc with hfound | ⟨-, hfound⟩
    · obtain ⟨name, value, hlookup, hmatches⟩ := ihleft hfound
      exact ⟨name, value, hlookup, fun scope h => hmatches scope (both_true h).1⟩
    · obtain ⟨name, value, hlookup, hmatches⟩ := ihright hfound
      exact ⟨name, value, hlookup, fun scope h => hmatches scope (both_true h).2⟩
  | case2 c =>
    obtain ⟨⟨name, value⟩, hequality, hfound⟩ := Option.bind_eq_some_iff.1 hc
    exact ⟨name, value, hfound, fun scope h => matches_of_equality hequality h⟩

/-! ## Rows in question -/

section Rows

variable {t : Table} {rows : List (List String)} {now : Timestamp} {i : Nat}

theorem truth_of_row (hrows : t.Holds rows) {row : List String} (hrow : rows[i]? = some row) :
    truth now t.schema t.rows c i = c.evaluate (t.schema.rowScope now row) := by
  rw [truth, hrows.getD_rows hrow, Cell.texts_ofTexts, ok_bind]

/-- The index that answers an equality is one of the table. -/
theorem exists_entry_of_lookup? (ht : db.table? t.schema.name = some t)
    (h : lookup? db t.schema name value = some (index, key)) : ∃ content, t.content = some content ∧
      ∃ entry ∈ content.indexes, ∃ column, t.schema.column? name = some column ∧ entry.2 = index ∧
        index.columns.map lower = [column.name].map lower := by
  obtain ⟨-, column, -, hcolumn, -, -, hindex, -⟩ := lookup?_eq_some h
  rw [Database.indexOn?, ht, Option.bind_some, Table.indexOn?, Option.bind_eq_some_iff] at hindex
  obtain ⟨content, hcontent, hindex⟩ := hindex
  obtain ⟨entry, hentry, hsame, hcolumns⟩ := Content.indexOn?_eq_some hindex
  exact ⟨content, hcontent, entry, hentry, column, hcolumn, hsame, hcolumns⟩

/-- A row with a value equal to the literal stands in the index under the stored form of the literal. -/
theorem mem_search_of_matches (hs : t.schema.WellFormed) (hrows : t.Holds rows) {row : List String}
    (hrow : rows[i]? = some row) (hstanding : t.schema.Standing row) (ht : db.table? t.schema.name = some t)
    (hfound : lookup? db t.schema name value = some (index, key))
    (hmatches : Matches (t.schema.rowScope now row) name value) : i ∈ index.search [key] := by
  obtain ⟨content, hcontent, entry, hentry, other, hother, rfl, hcolumns⟩ := exists_entry_of_lookup? ht hfound
  obtain ⟨text, column, htext, hcolumn, hexact, hsuits, -, hkey⟩ := lookup?_eq_some hfound
  obtain rfl : column = other := Option.some.inj (hcolumn.symm.trans hother)
  obtain ⟨hmem, hname⟩ := Schema.column?_eq_some hcolumn
  obtain ⟨j, hj, rfl⟩ := List.getElem_of_mem hmem
  have hcell : j < row.length := hstanding.wide ▸ hj
  have hzip : (t.schema.columns[j], row[j]) ∈ t.schema.columns.zip row := by
    rw [List.mem_iff_getElem]
    exact ⟨j, List.length_zip ▸ Nat.lt_min.2 ⟨hj, hcell⟩, List.getElem_zip⟩
  have hencoded := Schema.encode_of_encodeRow hstanding.encoded _ hzip
  -- the cell of the row is the stored form of the literal
  obtain ⟨table, v, w, hv, hw, hpresent, hmeets⟩ := hmatches
  rw [Schema.rowScope_column hs hstanding.wide (List.getElem?_eq_getElem hj) (List.getElem?_eq_getElem hcell)
    hname.symm now table, Except.ok.injEq] at hv
  subst hv
  obtain ⟨hsame, hnull⟩ := key_of_meets hsuits hexact htext hkey hencoded hw hpresent hmeets
  -- and the index has the row under its cell
  refine ((hrows.indexesCoherent hs).mem_search _ hcontent entry hentry _ _).2 ⟨?_, Cell.ofTexts row, ?_, ?_⟩
  · simpa [Index.hasNull, hsame] using hnull
  · rw [hrows.rows_eq]
    exact Table.getElem?_map_ofTexts.2 ⟨row, hrow, rfl⟩
  · rw [Schema.cells_congr hcolumns, Schema.cells_ofTexts, hsame,
      Schema.cells_cons (hs.columnsDiffer.position?_eq hj) (List.getElem?_eq_getElem hcell)]
    rfl

/-- The positions in question are in order, and are positions of rows. -/
theorem candidates_pairwise (hfit : t.Fit .standingRows) (ht : db.table? t.schema.name = some t) (c : Condition) :
    (candidates db t.schema t.rows.length c).Pairwise (· < ·) ∧
      ∀ i ∈ candidates db t.schema t.rows.length c, i < t.rows.length := by
  unfold candidates
  split
  · rename_i index key hc
    obtain ⟨name, value, hfound, -⟩ := opportunity?_eq_some hc
    obtain ⟨content, hcontent, entry, hentry, -, -, rfl, -⟩ := exists_entry_of_lookup? ht hfound
    obtain ⟨rows, hrows, -⟩ := hfit.rows content hcontent
    have hascending := (hrows.indexesCoherent hfit.wellFormed).ascending content hcontent entry hentry [key]
    have hsorted : (entry.2.search [key]).mergeSort (· ≤ ·) = entry.2.search [key] := by
      apply List.mergeSort_of_pairwise
      exact hascending.imp fun hlt => decide_eq_true (Nat.le_of_lt hlt)
    rw [hsorted]
    exact ⟨hascending.filter _, fun i hi => by simpa using (List.mem_filter.1 hi).2⟩
  · exact ⟨List.pairwise_lt_range, fun i hi => List.mem_range.1 hi⟩

/-- Every row in which the condition is true comes into question. -/
theorem mem_candidates (hfit : t.Fit .standingRows) (ht : db.table? t.schema.name = some t) (hi : i < t.rows.length)
    (htrue : truth now t.schema t.rows c i = .ok (some true)) : i ∈ candidates db t.schema t.rows.length c := by
  unfold candidates
  split
  · rename_i index key hc
    obtain ⟨name, value, hfound, hmatches⟩ := opportunity?_eq_some hc
    obtain ⟨content, hcontent, -⟩ := exists_entry_of_lookup? ht hfound
    obtain ⟨rows, hrows, hstanding⟩ := hfit.rows content hcontent
    have hlt : i < rows.length := by
      rw [hrows.rows_eq, List.length_map] at hi
      exact hi
    have hrow := List.getElem?_eq_getElem hlt
    rw [truth_of_row hrows hrow] at htrue
    have hsearch := mem_search_of_matches hfit.wellFormed hrows hrow (hstanding _ (List.getElem_mem hlt)) ht hfound
      (hmatches _ htrue)
    rw [List.mem_filter, List.mem_mergeSort]
    exact ⟨hsearch, decide_eq_true hi⟩
  · exact List.mem_range.2 hi

/-- The rows that are found are in order, and are those in which the condition is true, even if it cannot be evaluated
in others. -/
theorem matching_eq_ok (hfit : t.Fit .standingRows) (ht : db.table? t.schema.name = some t) {c? : Option Condition}
    {ids : List Nat} (h : matching db now t.schema t.rows c? = .ok ids) : ids.Pairwise (· < ·) ∧
      ∀ i, i ∈ ids ↔ i < t.rows.length ∧ ∀ c ∈ c?, truth now t.schema t.rows c i = .ok (some true) := by
  cases c? with
  | none =>
    cases h
    exact ⟨List.pairwise_lt_range, fun i => by simp⟩
  | some c =>
    obtain ⟨hascending, hplaces⟩ := candidates_pairwise hfit ht c
    refine ⟨hascending.sublist (select_sublist h), fun i => ?_⟩
    have hselects : selectsRow now t.schema t.rows c i = .ok true ↔
        truth now t.schema t.rows c i = .ok (some true) := by
      rw [selectsRow_eq]
      cases truth now t.schema t.rows c i with
      | error failure => exact iff_of_false (fun h => by cases h) fun h => by cases h
      | ok truth => simp [Except.map]
    rw [mem_select h, hselects]
    simp only [Option.mem_def, Option.some.injEq, forall_eq']
    constructor
    · rintro ⟨hi, htrue⟩
      exact ⟨hplaces i hi, htrue⟩
    · rintro ⟨hi, htrue⟩
      exact ⟨mem_candidates hfit ht hi htrue, htrue⟩

end Rows

end Plan

namespace Database

namespace Label

/-- The labels of a number and a kind. -/
def query : Condition :=
  .logic .and (.compare .eq (.column none "number") (.literal (.number "7")))
    (.compare .eq (.literal (.string "x")) (.column (some "label") "Kind"))

end Label

end Database

end Relational
