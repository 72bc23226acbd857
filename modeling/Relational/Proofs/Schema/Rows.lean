import Relational.Database.Change
import Relational.Proofs.Encoding
import Relational.Proofs.Schema.Declared

/-!
# Rows that a table takes

A row that was checked and brought to its stored form has one cell for every column, and no cell of the primary
key in it is NULL.
-/

namespace Relational

namespace Column

/-- A column of the primary key takes no NULL. -/
theorem validate_primaryKey {column : Column} {now : Timestamp} {context : List (String × Value)} {text : String}
    (h : column.validate now context text = .ok ()) (hkey : column.primaryKey = true) : isNullText text = false := by
  unfold validate at h
  split at h
  · simp at h
  · rename_i hnull
    simpa using hnull

end Column

namespace Schema

variable {s : Schema} {now : Timestamp} {row stored : List String}

theorem checkCells_eq_ok {context : List (String × Value)} {cells : List (Column × String)} :
    checkCells now context cells = .ok () ↔ ∀ cell ∈ cells, cell.1.validate now context cell.2 = .ok () := by
  induction cells with
  | nil => simp [checkCells]
  | cons cell cells ih =>
    obtain ⟨column, text⟩ := cell
    rw [checkCells, List.forall_mem_cons]
    split
    · rename_i hok
      rw [ih, and_iff_right hok]
    · rename_i hrejected
      simp [hrejected]
    · rename_i failure _ hfailed
      simp [hfailed]

/-- The checks of a row. -/
theorem validateRow_eq_ok : s.validateRow now row = .ok () ↔ row.length = s.columns.length ∧
    (∀ cell ∈ s.columns.zip row, cell.1.validate now (s.rowValues (row.map plainNull)) cell.2 = .ok ()) ∧
    (∀ name ∈ s.primaryKey, s.keyCellMissing (s.rowValues (row.map plainNull)) row name = false) ∧
    ∀ check ∈ s.checks, checkCondition check.2 (.ofValues (s.rowValues (row.map plainNull)) now) = .ok () := by
  unfold validateRow
  by_cases hwidth : row.length = s.columns.length
  · simp only [bne_iff_ne, ne_eq, hwidth, not_true_eq_false, if_false, true_and]
    rw [check_bind_eq_ok, checkCells_eq_ok]
    refine and_congr_right fun _ => ?_
    split
    · rename_i name hname
      have hmissing := List.find?_some hname
      have hmem := List.mem_of_find?_eq_some hname
      simp only [reject_bind, reject_ne_ok, false_iff, not_and]
      intro hpresent
      rw [hpresent name hmem] at hmissing
      cases hmissing
    · rename_i hnone
      have hfind : s.primaryKey.find? (s.keyCellMissing (s.rowValues (row.map plainNull)) row) = none := by
        cases hfound : s.primaryKey.find? (s.keyCellMissing (s.rowValues (row.map plainNull)) row) with
        | none => rfl
        | some name => exact absurd hfound (hnone name)
      rw [List.find?_eq_none] at hfind
      rw [forM_eq_ok, and_iff_right fun name hname => by simpa using hfind name hname]
  · simp [hwidth]

/-! ## What the checks fail with -/

section FailsOnly

variable {P : Failure → Prop} {context : List (String × Value)}

/-- The checks of cells fail as those of the columns do, if the name of a column may stand before a rejection. -/
theorem checkCells_failsOnly {cells : List (Column × String)}
    (hcolumn : ∀ name cause, P (.rejection cause) → P (.rejection (.inColumn name cause)))
    (hcells : ∀ cell ∈ cells, FailsOnly P (cell.1.validate now context cell.2)) :
    FailsOnly P (checkCells now context cells) := by
  induction cells with
  | nil => exact .ok ()
  | cons cell cells ih =>
    rw [List.forall_mem_cons] at hcells
    obtain ⟨hcell, hcells⟩ := hcells
    rw [checkCells]
    split
    · exact ih hcells
    · rename_i cause hrejected
      exact .error (hcolumn _ cause (hcell _ hrejected))
    · rename_i failure _ hfailed
      exact .error (hcell _ hfailed)

/-- The check of a row fails for its width, for its key, or as the checks of its cells and the conditions do. -/
theorem validateRow_failsOnly (hwidth : ∀ expected given, P (.rejection (.rowWidth expected given)))
    (hkey : ∀ name ∈ s.primaryKey, s.keyCellMissing (s.rowValues (row.map plainNull)) row name = true →
      P (.rejection (.keyCellNull (some name))))
    (hcolumn : ∀ name cause, P (.rejection cause) → P (.rejection (.inColumn name cause)))
    (hcells : ∀ cell ∈ s.columns.zip row,
      FailsOnly P (cell.1.validate now (s.rowValues (row.map plainNull)) cell.2))
    (hchecks : ∀ text scope, FailsOnly P (checkCondition text scope)) : FailsOnly P (s.validateRow now row) := by
  unfold validateRow
  dsimp only
  split
  · exact .error (hwidth _ _)
  · refine (checkCells_failsOnly hcolumn hcells).bind fun _ _ => ?_
    split
    · rename_i name hname
      exact .error (hkey name (List.mem_of_find?_eq_some hname) (List.find?_some hname))
    · exact .forM fun check _ => hchecks _ _

end FailsOnly

/-! ## Stored rows -/

theorem encodeRow_eq_ok : s.encodeRow row = .ok stored ↔
    List.Forall₂ (fun cell text => encode cell.1.type cell.1.choices cell.2 = .ok text) (s.columns.zip row) stored := by
  rw [encodeRow, mapM_eq_ok]

theorem storedRow_ok (h : Database.storedRow s now row = .ok stored) :
    s.validateRow now row = .ok () ∧ s.encodeRow row = .ok stored :=
  check_bind_eq_ok.1 h

theorem length_storedRow (h : Database.storedRow s now row = .ok stored) : stored.length = s.columns.length := by
  obtain ⟨hvalid, hencode⟩ := storedRow_ok h
  have hlength := (encodeRow_eq_ok.1 hencode).length_eq
  rw [List.length_zip, (validateRow_eq_ok.1 hvalid).1, Nat.min_self] at hlength
  exact hlength.symm

/-- A cell of a stored row is the stored form of the cell that was given. -/
theorem getElem?_encodeRow (h : s.encodeRow row = .ok stored) {i : Nat} {column : Column} {text : String}
    (hcolumn : s.columns[i]? = some column) (htext : row[i]? = some text) :
    ∃ cell, stored[i]? = some cell ∧ encode column.type column.choices text = .ok cell := by
  have hzip : (s.columns.zip row)[i]? = some (column, text) := List.getElem?_zip_eq_some.2 ⟨hcolumn, htext⟩
  obtain ⟨cell, hcell, hencode⟩ := exists_getElem?_of_forall₂ (encodeRow_eq_ok.1 h) hzip
  exact ⟨cell, hcell, hencode⟩

/-- The cell of a column that belongs to the primary key. -/
theorem storedRow_marked (h : Database.storedRow s now row = .ok stored) {i : Nat} {column : Column} {text : String}
    (hcolumn : s.columns[i]? = some column) (hkey : column.primaryKey = true) (htext : stored[i]? = some text) :
    isNullText text = false := by
  obtain ⟨hvalid, hencode⟩ := storedRow_ok h
  obtain ⟨hwidth, hcells, -⟩ := validateRow_eq_ok.1 hvalid
  -- column, text given and text stored stand at one position
  have hi : i < s.columns.length := (List.getElem?_eq_some_iff.1 hcolumn).1
  have hgiven := List.getElem?_eq_getElem (hwidth ▸ hi : i < row.length)
  obtain ⟨cell, hcell, hstored⟩ := getElem?_encodeRow hencode hcolumn hgiven
  rw [htext, Option.some.injEq] at hcell
  subst hcell
  have hmem : (column, row[i]) ∈ s.columns.zip row :=
    List.mem_of_getElem? (List.getElem?_zip_eq_some.2 ⟨hcolumn, hgiven⟩)
  have hpresent := Column.validate_primaryKey (hcells _ hmem) hkey
  exact (isNullText_encode hstored).trans hpresent

/-- No part of the primary key of a stored row is NULL. -/
theorem storedRow_key (hs : s.WellFormed) (h : Database.storedRow s now row = .ok stored) :
    Index.hasNull (s.cells s.primaryKey stored) = false := by
  rw [Index.hasNull, List.any_eq_false]
  intro text htext
  obtain ⟨name, hname, i, hi, hcell⟩ := mem_cells.1 htext
  obtain ⟨c, hc, rfl, hkey⟩ := hs.key.marked name hname
  obtain ⟨j, hj, rfl⟩ := List.getElem_of_mem hc
  rw [hs.columnsDiffer.position?_eq hj, Option.some.injEq] at hi
  subst hi
  rw [storedRow_marked h (List.getElem?_eq_getElem hj) hkey hcell]
  exact Bool.false_ne_true

end Schema

end Relational
