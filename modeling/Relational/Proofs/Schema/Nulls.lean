import Relational.Proofs.Database.Transition
import Relational.Proofs.Schema.Scope
import Relational.Proofs.Schema.Standing

/-!
# Spellings of NULL in a row

A table takes a row whatever the spelling of NULL in it is: the checks, the stored form and the rules between rows are
those of the row in which every NULL is spelled plainly.
-/

namespace Relational

open Text
open Schema (plainNull)

/-! ## Cells -/

namespace Schema

theorem plainNull_of_null {text : String} (h : isNullText text = true) : plainNull text = nullText :=
  if_pos h

theorem plainNull_of_present {text : String} (h : isNullText text = false) : plainNull text = text :=
  if_neg (by simp [h])

@[simp]
theorem isNullText_plainNull (text : String) : isNullText (plainNull text) = isNullText text := by
  cases h : isNullText text with
  | true => rw [plainNull_of_null h, isNullText_nullText]
  | false => rw [plainNull_of_present h, h]

@[simp]
theorem plainNull_plainNull (text : String) : plainNull (plainNull text) = plainNull text := by
  cases h : isNullText text with
  | true => rw [plainNull_of_null h, plainNull_of_null isNullText_nullText]
  | false => rw [plainNull_of_present h, plainNull_of_present h]

end Schema

theorem Column.validate_plainNull (column : Column) (now : Timestamp) (context : List (String × Value)) (text : String) :
    column.validate now context (plainNull text) = column.validate now context text := by
  cases h : isNullText text with
  | true => simp only [validate, Schema.isNullText_plainNull, h, if_true]
  | false => rw [Schema.plainNull_of_present h]

theorem encode_plainNull (type : DataType) (choices : List String) (text : String) :
    encode type choices (plainNull text) = encode type choices text := by
  cases h : isNullText text with
  | true => simp only [encode, Schema.isNullText_plainNull, h, if_true]
  | false => rw [Schema.plainNull_of_present h]

/-! ## Rows -/

namespace Schema

variable {s : Schema} {now : Timestamp} {row : List String}

theorem checkCells_plainNull (now : Timestamp) (context : List (String × Value)) (columns : List Column)
    (row : List String) :
    checkCells now context (columns.zip (row.map plainNull)) = checkCells now context (columns.zip row) := by
  induction columns generalizing row with
  | nil => rfl
  | cons column columns ih =>
    cases row with
    | nil => rfl
    | cons text row =>
      simp only [List.map_cons, List.zip_cons_cons, checkCells, Column.validate_plainNull, ih]

theorem encodeRow_plainNull (s : Schema) (row : List String) : s.encodeRow (row.map plainNull) = s.encodeRow row := by
  have hcells : ∀ cells : List (Column × String), (cells.map (Prod.map id plainNull)).mapM
      (fun cell => encode cell.1.type cell.1.choices cell.2)
        = cells.mapM (fun cell => encode cell.1.type cell.1.choices cell.2) := by
    intro cells
    induction cells with
    | nil => rfl
    | cons cell cells ih =>
      rw [List.map_cons, List.mapM_cons, List.mapM_cons, ih, Prod.map_snd, Prod.map_fst, encode_plainNull, id]
  rw [encodeRow, List.zip_map_right]
  exact hcells _

/-- A blank cell of the key is missing because it is NULL. -/
theorem keyCellMissing_plainNull (hs : s.WellFormed) (hwidth : row.length = s.columns.length) (name : String) :
    s.keyCellMissing (s.rowValues (row.map plainNull)) (row.map plainNull) name
      = s.keyCellMissing (s.rowValues (row.map plainNull)) row name := by
  unfold keyCellMissing
  cases hposition : s.position? name with
  | none => rfl
  | some i =>
    obtain ⟨hi, hname, -⟩ := position?_eq_some_iff.1 hposition
    have hcell : row[i]? = some row[i] := List.getElem?_eq_getElem (hwidth ▸ hi)
    have hplain : (row.map plainNull)[i]? = some (plainNull row[i]) := by rw [List.getElem?_map, hcell, Option.map_some]
    simp only [Option.bind_some, hcell, hplain, Option.any_some]
    by_cases hblank : strip row[i] = ""
    · have hnull : plainNull row[i] = nullText := plainNull_of_null (by simp [isNullText, hblank])
      have hcolumn : s.columns[i]? = some s.columns[i] := List.getElem?_eq_getElem hi
      have hnamed := (Column.declare_eq_ok.1 (hs.columns _ (List.getElem_mem hi))).1
      have hfound : ((s.rowValues (row.map plainNull)).lookup (lower s.columns[i].name)).isSome = true :=
        isSome_lookup_rowValues (by rw [List.length_map, hwidth]) (List.mem_map.2 ⟨_, List.getElem_mem hi, rfl⟩)
      obtain ⟨v, hv⟩ := Option.isSome_iff_exists.1 hfound
      have hvalue := value_of_lookup hs hcolumn hplain (afterPoint_lower hnamed) hv
      rw [hnull] at hvalue
      rw [← hname, hv, Option.any_some, hvalue, Value.isNull_ofText_nullText, Bool.true_or, Bool.true_or]
    · have hkept : strip (plainNull row[i]) ≠ "" := by
        unfold plainNull
        split
        · decide
        · exact hblank
      rw [beq_eq_false_iff_ne.2 hkept, beq_eq_false_iff_ne.2 hblank]

theorem validateRow_plainNull (hs : s.WellFormed) (now : Timestamp) (row : List String) :
    s.validateRow now (row.map plainNull) = s.validateRow now row := by
  have hplain : (row.map plainNull).map plainNull = row.map plainNull := by simp
  unfold validateRow
  by_cases hwidth : row.length = s.columns.length
  · simp only [hplain, List.length_map, checkCells_plainNull, funext (keyCellMissing_plainNull hs hwidth)]
  · simp [hwidth]

theorem storedRow_plainNull (hs : s.WellFormed) (now : Timestamp) (row : List String) :
    Database.storedRow s now (row.map plainNull) = Database.storedRow s now row := by
  rw [Database.storedRow, Database.storedRow, validateRow_plainNull hs, encodeRow_plainNull]

end Schema

/-- Rows that differ in the spelling of NULL are inserted alike. -/
theorem Database.insertRow_plainNull {db : Database} {name : String}
    (hs : ∀ t, db.table? name = some t → t.schema.WellFormed) (now : Timestamp) (row : List String) :
    db.insertRow now name (.cells (row.map plainNull)) = db.insertRow now name (.cells row) := by
  unfold insertRow RowInput.toRow
  cases ht : db.table name with
  | error failure => rfl
  | ok t => simp only [ok_bind, Schema.storedRow_plainNull (hs t (table_eq_ok.1 ht))]

end Relational
