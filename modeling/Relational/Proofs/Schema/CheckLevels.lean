import Relational.Proofs.Schema.Scope

/-!
# Conditions of a column and of the table

A condition on one column can be declared for the column or for the table. The column looks at its own value, under its
name and as `value`, and does not look at NULL at all; the table looks at the values of the row. A condition that names
no other column sees the same value in both places, so that both let the same rows pass, but for those in which the
column is NULL.
-/

namespace Relational

open Text

/-- Of all columns the condition names none but one, in any case and after the name of any table. -/
def Condition.NamesOnly (name : String) (c : Condition) : Prop :=
  ∀ table other, Reading.column table other ∈ c.readings → lower other = lower name

/-- Scopes of one moment that have one value for a column agree on a condition that names no other. -/
theorem Condition.NamesOnly.evaluate_eq {name : String} {c : Condition} (h : c.NamesOnly name) {scope scope' : Scope}
    {v : Value} (hnow : scope.now = scope'.now)
    (hscope : ∀ table other, lower other = lower name → scope.column table other = .ok v)
    (hscope' : ∀ table other, lower other = lower name → scope'.column table other = .ok v) :
    c.evaluate scope = c.evaluate scope' := by
  apply Condition.evaluate_congr
  intro r hr
  cases r with
  | function function =>
    show clockValue? scope.now function = clockValue? scope'.now function
    rw [hnow]
  | column table other =>
    show scope.column table other = scope'.column table other
    have hother := h table other hr
    rw [hscope table other hother, hscope' table other hother]

/-- No condition is empty. -/
theorem isEmpty_of_compile {text : String} {c : Condition} (hc : Condition.compile text = .ok c) :
    text.isEmpty = false := by
  rw [← Bool.not_eq_true, String.isEmpty_iff]
  rintro rfl
  cases hc

/-! ## What a column asks of a value -/

namespace Column

/-- The column with a condition. -/
def withCheck (column : Column) (text : String) : Column :=
  { column with check := some text }

/-- What the condition of a column sees of a text, beside the values of the row. -/
def scope (column : Column) (now : Timestamp) (context : List (String × Value)) (text : String) : Scope :=
  .ofValues (("value", Value.ofText column.type text) :: (lower column.name, Value.ofText column.type text) :: context)
    now

/-- What a condition sees where a column is NULL. -/
def nullScope (column : Column) (now : Timestamp) : Scope where
  column? := fun _ _ => some (.ofText column.type nullText)
  now := now

/-- A text other than NULL is of the type of the column, no longer than it may be, and has no more digits. -/
structure Fits (column : Column) (text : String) : Prop where
  accepted : accepts column.type column.choices text = true
  length : column.type.isString = true → ∀ limit ∈ limit? column.maxLength, (text.length : Int) ≤ limit
  digits : column.type.isDecimal = true → column.checkDigits text = .ok ()

variable {column : Column} {now : Timestamp} {context : List (String × Value)} {cell text : String} {c : Condition}

theorem validate_eq_ok_of_present (hnull : isNullText cell = false) :
    column.validate now context cell = .ok () ↔ column.Fits cell ∧ column.checkValue now context cell = .ok () := by
  have hfits : column.Fits cell ↔ accepts column.type column.choices cell = true ∧
      (column.type.isString = true → ∀ limit ∈ limit? column.maxLength, (cell.length : Int) ≤ limit) ∧
      (column.type.isDecimal = true → column.checkDigits cell = .ok ()) :=
    ⟨fun h => ⟨h.accepted, h.length, h.digits⟩, fun h => ⟨h.1, h.2.1, h.2.2⟩⟩
  rw [hfits, validate, hnull]
  cases accepts column.type column.choices cell with
  | false => simp
  | true =>
    -- the length is of texts, the digits are of decimal numbers
    cases hlimit : limit? column.maxLength with
    | none => cases column.type.isString <;> cases column.type.isDecimal <;> simp [check_bind_eq_ok]
    | some limit =>
      by_cases hlong : limit < (cell.length : Int)
      · have hbeyond : ¬ (cell.length : Int) ≤ limit := by omega
        cases column.type.isString <;> cases column.type.isDecimal <;> simp [hlong, hbeyond, check_bind_eq_ok]
      · have hwithin : (cell.length : Int) ≤ limit := by omega
        cases column.type.isString <;> cases column.type.isDecimal <;> simp [hlong, hwithin, check_bind_eq_ok]

theorem checkValue_eq (hcheck : column.check = some text) (hc : Condition.compile text = .ok c) :
    column.checkValue now context cell = checkCondition text (column.scope now context cell) := by
  rw [checkValue, hcheck]
  dsimp only
  rw [isEmpty_of_compile hc]
  rfl

/-- A column with a condition asks more of a value than without it, but of NULL it asks the same. -/
theorem validate_check (hnone : column.check = none) (hc : Condition.compile text = .ok c) :
    (column.withCheck text).validate now context cell = .ok () ↔
      column.validate now context cell = .ok () ∧
        (isNullText cell = false → checkCondition text (column.scope now context cell) = .ok ()) := by
  cases hnull : isNullText cell with
  | true =>
    rw [validate_eq_ok_of_null hnull, validate_eq_ok_of_null hnull]
    simp [withCheck]
  | false =>
    have hfits : (column.withCheck text).Fits cell ↔ column.Fits cell :=
      ⟨fun h => ⟨h.accepted, h.length, h.digits⟩, fun h => ⟨h.accepted, h.length, h.digits⟩⟩
    have hplain : column.checkValue now context cell = .ok () := by rw [checkValue, hnone]
    have hchecked : (column.withCheck text).checkValue now context cell
        = checkCondition text (column.scope now context cell) := checkValue_eq rfl hc
    rw [validate_eq_ok_of_present hnull, validate_eq_ok_of_present hnull, hfits, hplain, hchecked]
    simp

end Column

/-! ## One item of a list changes -/

section Modify

variable {α β : Type} {f : α → α} {as : List α} {i : Nat}

theorem map_modify_eq {g : α → β} (h : ∀ a, g (f a) = g a) : (as.modify i f).map g = as.map g := by
  induction as generalizing i with
  | nil => simp
  | cons a as ih =>
    cases i with
    | zero => simp [List.modify_zero_cons, h]
    | succ i => simp [List.modify_succ_cons, ih]

theorem zip_modify (bs : List β) : (as.modify i f).zip bs = (as.zip bs).modify i fun pair => (f pair.1, pair.2) := by
  induction as generalizing i bs with
  | nil => simp
  | cons a as ih =>
    cases bs with
    | nil => cases i <;> rfl
    | cons b bs =>
      cases i with
      | zero => simp [List.modify_zero_cons]
      | succ i => simp [List.modify_succ_cons, ih]

theorem forall_mem_modify {P : α → Prop} {Q : Prop} {a : α} (ha : as[i]? = some a) (h : P (f a) ↔ P a ∧ Q) :
    (∀ b ∈ as.modify i f, P b) ↔ (∀ b ∈ as, P b) ∧ Q := by
  induction as generalizing i with
  | nil => simp at ha
  | cons b as ih =>
    cases i with
    | zero =>
      obtain rfl : b = a := by simpa using ha
      rw [List.modify_zero_cons, List.forall_mem_cons, List.forall_mem_cons, h, and_right_comm]
    | succ i =>
      rw [List.modify_succ_cons, List.forall_mem_cons, List.forall_mem_cons, ih (by simpa using ha), and_assoc]

end Modify

/-! ## Definitions that differ in one condition -/

namespace Schema

/-- The definition with a condition that is declared for the column at a position. -/
def withColumnCheck (s : Schema) (i : Nat) (text : String) : Schema :=
  { s with columns := s.columns.modify i fun column => column.withCheck text }

/-- The definition with a condition that is declared for the table, at a position among the others. -/
def withTableCheck (s : Schema) (k : Nat) (name text : String) : Schema :=
  { s with checks := s.checks.take k ++ (name, text) :: s.checks.drop k }

variable {s : Schema} {i : Nat} {column : Column} {now : Timestamp} {row : List String} {text cell : String}
  {c : Condition}

theorem rowValues_withColumnCheck (s : Schema) (i : Nat) (text : String) (row : List String) :
    (s.withColumnCheck i text).rowValues row = s.rowValues row := by
  simp only [rowValues, withColumnCheck, zip_modify, List.flatMap_def]
  rw [map_modify_eq]
  intro pair
  rfl

theorem keyCellMissing_withColumnCheck (context : List (String × Value)) (row : List String) (name : String) :
    (s.withColumnCheck i text).keyCellMissing context row name = s.keyCellMissing context row name := by
  have hposition : (s.withColumnCheck i text).position? name = s.position? name := by
    have hnames : (s.withColumnCheck i text).columns.map Column.name = s.columns.map Column.name :=
      map_modify_eq fun _ => rfl
    have hfind : ∀ columns : List Column, columns.findIdx? (fun column => sameName column.name name)
        = (columns.map Column.name).findIdx? fun other => sameName other name := by
      intro columns
      rw [List.findIdx?_map]
      rfl
    rw [position?, position?, hfind, hfind, hnames]
  rw [keyCellMissing, keyCellMissing, hposition]

/-- A condition of a column is asked of the rows in which the column is not NULL. -/
theorem validateRow_withColumnCheck (hcolumn : s.columns[i]? = some column) (hnone : column.check = none)
    (hc : Condition.compile text = .ok c) :
    (s.withColumnCheck i text).validateRow now row = .ok () ↔ s.validateRow now row = .ok () ∧
      ∀ cell, row[i]? = some cell → isNullText cell = false →
        checkCondition text (column.scope now (s.rowValues (row.map plainNull)) cell) = .ok () := by
  have hwidth : (s.withColumnCheck i text).columns.length = s.columns.length := List.length_modify ..
  rw [validateRow_eq_ok, validateRow_eq_ok, hwidth, and_assoc]
  refine and_congr_right fun hrow => ?_
  have hi : i < row.length := hrow ▸ (List.getElem?_eq_some_iff.1 hcolumn).1
  have hcell : row[i]? = some row[i] := List.getElem?_eq_getElem hi
  simp only [rowValues_withColumnCheck, keyCellMissing_withColumnCheck]
  generalize s.rowValues (row.map plainNull) = context
  have hpair : (s.columns.zip row)[i]? = some (column, row[i]) := List.getElem?_zip_eq_some.2 ⟨hcolumn, hcell⟩
  have hcells : (∀ pair ∈ (s.withColumnCheck i text).columns.zip row, pair.1.validate now context pair.2 = .ok ()) ↔
      (∀ pair ∈ s.columns.zip row, pair.1.validate now context pair.2 = .ok ()) ∧
        (isNullText row[i] = false → checkCondition text (column.scope now context row[i]) = .ok ()) := by
    rw [withColumnCheck, zip_modify]
    exact forall_mem_modify hpair (Column.validate_check hnone hc)
  have hcheck : (∀ text', row[i]? = some text' → isNullText text' = false →
      checkCondition text (column.scope now context text') = .ok ()) ↔
        (isNullText row[i] = false → checkCondition text (column.scope now context row[i]) = .ok ()) := by
    simp [hcell]
  rw [hcells, hcheck, and_right_comm]
  rfl

/-- A condition of the table is asked of all rows. -/
theorem validateRow_withTableCheck (k : Nat) (name : String) :
    (s.withTableCheck k name text).validateRow now row = .ok () ↔ s.validateRow now row = .ok () ∧
      checkCondition text (.ofValues (s.rowValues (row.map plainNull)) now) = .ok () := by
  have hchecks : ∀ P : String × String → Prop, (∀ check ∈ (s.withTableCheck k name text).checks, P check) ↔
      (∀ check ∈ s.checks, P check) ∧ P (name, text) := by
    intro P
    have hsplit : (∀ check ∈ s.checks, P check) ↔
        (∀ check ∈ s.checks.take k, P check) ∧ ∀ check ∈ s.checks.drop k, P check := by
      rw [← List.forall_mem_append, List.take_append_drop]
    rw [hsplit, withTableCheck, List.forall_mem_append, List.forall_mem_cons, and_assoc]
    exact and_congr_right fun _ => and_comm
  rw [validateRow_eq_ok, validateRow_eq_ok, hchecks]
  simp only [and_assoc]
  rfl

/-! ## Where the levels agree -/

/-- The condition of a column sees the value of the column, however it spells its name. -/
theorem column_scope (hs : s.WellFormed) (hcolumn : s.columns[i]? = some column) (hcell : row[i]? = some cell)
    (table : Option String) {name : String} (hname : lower name = lower column.name) :
    (column.scope now (s.rowValues row) cell).column table name = .ok (.ofText column.type cell) := by
  have hnamed := (Column.declare_eq_ok.1 (hs.columns column (List.mem_of_getElem? hcolumn))).1
  have hfound : (column.scope now (s.rowValues row) cell).column? table name
      = some (.ofText column.type cell) := by
    apply Scope.lookup_eq_some
    · rw [hname, List.lookup_cons]
      split
      · rfl
      · rw [List.lookup_cons_self]
    · intro qualifier v hv
      rw [hname, List.lookup_cons] at hv
      split at hv
      · exact (Option.some.inj hv).symm
      · rw [List.lookup_cons] at hv
        split at hv
        · exact (Option.some.inj hv).symm
        · exact value_of_lookup hs hcolumn hcell (afterPoint_qualified hnamed qualifier) hv
  unfold Scope.column
  rw [hfound]

/-- Both levels accept the same rows, but for those that the table accepts without the condition, in which the column is
NULL, and the condition is false of NULL or fails on it. -/
theorem validateRow_levels_iff (hs : s.WellFormed) (hcolumn : s.columns[i]? = some column)
    (hnone : column.check = none) (hc : Condition.compile text = .ok c) (honly : c.NamesOnly column.name) (k : Nat)
    (name : String) :
    ((s.withColumnCheck i text).validateRow now row = .ok () ↔
        (s.withTableCheck k name text).validateRow now row = .ok ()) ↔
      ¬ (s.validateRow now row = .ok () ∧ (∃ cell, row[i]? = some cell ∧ isNullText cell = true) ∧
        checkCondition text (column.nullScope now) ≠ .ok ()) := by
  rw [validateRow_withColumnCheck hcolumn hnone hc, validateRow_withTableCheck]
  by_cases hvalid : s.validateRow now row = .ok ()
  · have hwidth : row.length = s.columns.length := (validateRow_eq_ok.1 hvalid).1
    have hi : i < row.length := hwidth ▸ (List.getElem?_eq_some_iff.1 hcolumn).1
    have hcell : row[i]? = some row[i] := List.getElem?_eq_getElem hi
    have hplain : (row.map plainNull)[i]? = some (plainNull row[i]) := by rw [List.getElem?_map, hcell]; rfl
    have htable : ∀ table other, lower other = lower column.name →
        (s.rowScope now (row.map plainNull)).column table other = .ok (.ofText column.type (plainNull row[i])) :=
      fun table other hother =>
        rowScope_column hs (by rw [List.length_map, hwidth]) hcolumn hplain hother now table
    cases hnull : isNullText row[i] with
    | false =>
      rw [plainNull, hnull] at hplain htable
      have hsame : checkCondition text (column.scope now (s.rowValues (row.map plainNull)) row[i])
          = checkCondition text (s.rowScope now (row.map plainNull)) := by
        refine checkCondition_congr fun c' hc' => ?_
        obtain rfl : c = c' := Except.ok.inj (hc.symm.trans hc')
        exact honly.evaluate_eq rfl (fun table other hother => column_scope hs hcolumn hplain table hother) htable
      rw [rowScope] at hsame
      simp [hvalid, hcell, hnull, hsame]
    | true =>
      rw [plainNull, hnull] at htable
      have hsame : checkCondition text (s.rowScope now (row.map plainNull))
          = checkCondition text (column.nullScope now) := by
        refine checkCondition_congr fun c' hc' => ?_
        obtain rfl : c = c' := Except.ok.inj (hc.symm.trans hc')
        exact honly.evaluate_eq rfl htable fun _ _ _ => rfl
      rw [rowScope] at hsame
      simp [hvalid, hcell, hnull, hsame]
  · simp [hvalid]

end Schema

end Relational
