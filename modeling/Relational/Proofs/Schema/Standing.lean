import Relational.Proofs.Clock
import Relational.Proofs.Entries
import Relational.Proofs.Schema.Rows
import Relational.Proofs.Value

/-!
# Rows that stand in a table

A row that was checked and stored is in the form in which it would be stored again, and passes the same checks
again: the checks see no more of a text than its value, and a stored text has the value of the text that was given.
Only a condition that reads the clock can change its mind.
-/

namespace Relational

open Text Decimal

/-! ## Checks of one value -/

theorem isSome_lookup_cons {α β : Type} [BEq α] {key k : α} {value : β} {entries : List (α × β)}
    (h : (entries.lookup key).isSome = true) : (((k, value) :: entries).lookup key).isSome = true := by
  rw [List.lookup_cons]
  split
  · rfl
  · exact h

theorem encodePresent_of_isDecimal {type : DataType} (h : type.isDecimal = true) (text : String) :
    encodePresent type text = strip text := by
  cases type <;> simp_all [DataType.isDecimal, DataType.kind, encodePresent]

namespace Column

variable {column : Column} {context : List (String × Value)} {text stored : String}

/-- A column looks at a text as it looks at its stored form. -/
theorem validate_encode (h : encode column.type column.choices text = .ok stored) (now : Timestamp) :
    column.validate now context stored = column.validate now context text := by
  have hnull := isNullText_encode h
  rcases encode_eq_ok.1 h with ⟨hblank, -⟩ | ⟨hpresent, haccepts, hstored⟩
  · rw [validate, validate, if_pos hblank, if_pos (hnull.trans hblank)]
  · have htaken : accepts column.type column.choices text = true := by rw [accepts, haccepts, Bool.or_true]
    have htaken' : accepts column.type column.choices stored = true := by
      rw [hstored, accepts, (encodePresent_stable haccepts).1, Bool.or_true]
    have hcheck : column.checkValue now context stored = column.checkValue now context text := by
      simp only [checkValue, Value.ofText_encode h hpresent]
    simp only [validate, hnull, hpresent, htaken, htaken', Bool.not_true, Bool.false_eq_true, if_false, hcheck]
    cases hstring : column.type.isString with
    | true =>
      have hsame : stored = text := by simp only [hstored, encodePresent, DataType.isString_iff.1 hstring]
      rw [hsame]
    | false =>
      cases hdecimal : column.type.isDecimal with
      | true =>
        -- digits are counted without the blanks around them
        have hdigits : decimalDigits stored = decimalDigits text := by
          rw [decimalDigits, decimalDigits, hstored, encodePresent_of_isDecimal hdecimal, strip_strip]
        simp only [checkDigits, hdigits, Bool.false_eq_true, if_false]
      | false => simp only [Bool.false_eq_true, if_false]

theorem validate_eq_ok_of_null {now : Timestamp} (hnull : isNullText text = true) :
    column.validate now context text = .ok () ↔ column.primaryKey = false ∧ column.nullable = true := by
  rw [validate, if_pos hnull]
  cases column.primaryKey <;> cases column.nullable <;> simp

/-- The condition of the column does not read the clock. -/
def ClockFree (column : Column) (names : List String) : Prop :=
  ∀ text ∈ column.check, Relational.ClockFree names text

theorem validate_clockFree {names : List String} (hfree : column.ClockFree names)
    (hnames : ∀ name ∈ names, (context.lookup name).isSome = true) (now now' : Timestamp) :
    column.validate now context text = column.validate now' context text := by
  have hcheck : column.checkValue now context text = column.checkValue now' context text := by
    unfold checkValue
    split
    · rfl
    · rename_i condition hcondition
      split
      · rfl
      · refine checkCondition_clockFree (fun name hname => ?_) now now' (hfree condition hcondition)
        exact isSome_lookup_cons (isSome_lookup_cons (hnames _ hname))
  rw [validate, validate, hcheck]

end Column

namespace Schema

variable {s : Schema} {now : Timestamp} {row stored : List String}

/-! ## The stored form of a row -/

theorem plainNull_encode {type : DataType} {choices : List String} {text stored : String}
    (h : encode type choices text = .ok stored) :
    Value.ofText type (plainNull stored) = Value.ofText type (plainNull text) := by
  have hnull := isNullText_encode h
  unfold plainNull
  rw [hnull]
  split
  · rfl
  · rename_i hpresent
    exact Value.ofText_encode h (by simpa using hpresent)

/-- Cells beside the cells that are stored for them. -/
abbrev Stores (columns : List Column) (row stored : List String) : Prop :=
  List.Forall₂ (fun cell text => encode cell.1.type cell.1.choices cell.2 = .ok text) (columns.zip row) stored

/-- The conditions of a table see the same values in a row and in its stored form. -/
theorem rowValues_stored (h : Stores s.columns row stored) :
    s.rowValues (stored.map plainNull) = s.rowValues (row.map plainNull) := by
  unfold rowValues
  unfold Stores at h
  generalize s.columns = columns at h ⊢
  induction columns generalizing row stored with
  | nil => rfl
  | cons column columns ih =>
    cases row with
    | nil =>
      cases h
      rfl
    | cons text row =>
      cases h with
      | cons hcell hcells =>
        simp only [List.map_cons, List.zip_cons_cons, List.flatMap_cons, ih hcells, plainNull_encode hcell]

/-- What holds of the cells of a row passes on to the cells of its stored form. -/
theorem forall_mem_stored {columns : List Column} {P Q : Column → String → Prop} (h : Stores columns row stored)
    (himp : ∀ column text stored, encode column.type column.choices text = .ok stored → P column text →
      Q column stored)
    (hrow : ∀ cell ∈ columns.zip row, P cell.1 cell.2) : ∀ cell ∈ columns.zip stored, Q cell.1 cell.2 := by
  induction columns generalizing row stored with
  | nil => simp
  | cons column columns ih =>
    cases row with
    | nil =>
      cases h
      simp
    | cons text row =>
      cases h with
      | cons hcell hcells =>
        rw [List.zip_cons_cons, List.forall_mem_cons] at hrow ⊢
        exact ⟨himp _ _ _ hcell hrow.1, ih hcells hrow.2⟩

/-- Cells that are each their own stored form make a row that is. -/
theorem encodeRow_self (hwidth : row.length = s.columns.length)
    (h : ∀ cell ∈ s.columns.zip row, encode cell.1.type cell.1.choices cell.2 = .ok cell.2) :
    s.encodeRow row = .ok row := by
  have hcells : s.encodeRow row = .ok ((s.columns.zip row).map Prod.snd) := mapM_eq_ok_map h
  rw [hcells, List.map_snd_zip (Nat.le_of_eq hwidth)]

theorem strip_ne_of_encode {type : DataType} {choices : List String} {text stored : String}
    (h : encode type choices text = .ok stored) : strip stored ≠ "" := by
  have hnull := isNullText_encode h
  rcases encode_eq_ok.1 h with ⟨-, rfl⟩ | ⟨hpresent, -⟩
  · decide
  · rw [hpresent, isNullText, Bool.or_eq_false_iff, beq_eq_false_iff_ne] at hnull
    exact hnull.1

/-- Columns of a row are found by their names. -/
theorem isSome_lookup_rowValues (hwidth : row.length = s.columns.length) {name : String}
    (h : name ∈ s.columns.map fun column => lower column.name) : ((s.rowValues row).lookup name).isSome = true := by
  obtain ⟨column, hcolumn, rfl⟩ := List.mem_map.1 h
  obtain ⟨i, hi, rfl⟩ := List.getElem_of_mem hcolumn
  have hrow : i < row.length := hwidth ▸ hi
  cases hfound : (s.rowValues row).lookup (lower s.columns[i].name) with
  | some v => rfl
  | none =>
    refine absurd ?_ (not_mem_of_lookup_eq_none hfound)
    have hcell : (s.columns[i], row[i]) ∈ s.columns.zip row := by
      rw [List.mem_iff_getElem]
      exact ⟨i, List.length_zip ▸ Nat.lt_min.2 ⟨hi, hrow⟩, List.getElem_zip⟩
    exact List.mem_map.2 ⟨(lower s.columns[i].name, Value.ofText s.columns[i].type row[i]),
      List.mem_flatMap.2 ⟨_, hcell, by simp⟩, rfl⟩

/-! ## Rows that stand -/

/-- No condition of the table reads the clock. -/
structure ClockFree (s : Schema) : Prop where
  columns : ∀ column ∈ s.columns, column.ClockFree (s.columns.map fun column => lower column.name)
  checks : ∀ check ∈ s.checks, Relational.ClockFree (s.columns.map fun column => lower column.name) check.2

/-- A row that is stored as it is, keeps NULL to the columns that take it, and is checked with success at any time
if the conditions do not read the clock. -/
structure Standing (s : Schema) (row : List String) : Prop where
  wide : row.length = s.columns.length
  encoded : s.encodeRow row = .ok row
  present : ∀ cell ∈ s.columns.zip row, cell.1.nullable = false → isNullText cell.2 = false
  valid : s.ClockFree → ∀ now, s.validateRow now row = .ok ()

/-- The checks pass at any time if they passed once. -/
theorem validateRow_clockFree (hs : s.ClockFree) (h : s.validateRow now row = .ok ()) (now' : Timestamp) :
    s.validateRow now' row = .ok () := by
  obtain ⟨hwidth, hcells, hkey, hchecks⟩ := validateRow_eq_ok.1 h
  have hnames : ∀ name ∈ s.columns.map (fun column => lower column.name),
      ((s.rowValues (row.map plainNull)).lookup name).isSome = true :=
    fun name hname => isSome_lookup_rowValues (by rw [List.length_map, hwidth]) hname
  refine validateRow_eq_ok.2 ⟨hwidth, fun cell hcell => ?_, hkey, fun check hcheck => ?_⟩
  · rw [Column.validate_clockFree (hs.columns _ (List.of_mem_zip hcell).1) hnames now' now]
    exact hcells cell hcell
  · rw [← hchecks check hcheck]
    exact checkCondition_clockFree (fun name hname => hnames _ hname) now' now (hs.checks check hcheck)

/-- The stored form of a row passes the checks that the row passes. -/
theorem validateRow_stored (h : s.validateRow now row = .ok ()) (hstores : Stores s.columns row stored)
    (hwide : stored.length = s.columns.length) : s.validateRow now stored = .ok () := by
  obtain ⟨-, hcells, hkey, hchecks⟩ := validateRow_eq_ok.1 h
  rw [← rowValues_stored hstores] at hcells hkey hchecks
  refine validateRow_eq_ok.2 ⟨hwide, ?_, fun name hname => ?_, hchecks⟩
  · exact forall_mem_stored hstores (fun column text stored hencode hvalid =>
      (Column.validate_encode hencode now).trans hvalid) hcells
  · have hpresent : ∀ text ∈ stored, (strip text == "") = false := by
      intro text htext
      obtain ⟨i, hi, rfl⟩ := List.getElem_of_mem htext
      exact beq_eq_false_iff_ne.2 (strip_ne_of_encode (hstores.get (hstores.length_eq ▸ hi) hi))
    have hmissing := hkey name hname
    rw [keyCellMissing, Bool.or_eq_false_iff] at hmissing ⊢
    refine ⟨hmissing.1, ?_⟩
    cases hcell : (s.position? name).bind fun i => stored[i]? with
    | none => rfl
    | some text =>
      obtain ⟨i, -, htext⟩ := Option.bind_eq_some_iff.1 hcell
      exact hpresent text (List.mem_of_getElem? htext)

/-- What is stored for a row stands. -/
theorem storedRow_standing (h : Database.storedRow s now row = .ok stored) : s.Standing stored := by
  obtain ⟨hvalid, hencode⟩ := storedRow_ok h
  have hwide := length_storedRow h
  have hstores : Stores s.columns row stored := encodeRow_eq_ok.1 hencode
  refine ⟨hwide, encodeRow_self hwide ?_, ?_, ?_⟩
  · exact forall_mem_stored (P := fun _ _ => True) hstores (fun _ _ _ hcell _ => encode_encode hcell)
      fun _ _ => trivial
  · refine forall_mem_stored
      (P := fun column text => column.validate now (s.rowValues (row.map plainNull)) text = .ok ())
      (Q := fun column text => column.nullable = false → isNullText text = false) hstores
      (fun column text stored hcell hvalidate hnullable => ?_) (validateRow_eq_ok.1 hvalid).2.1
    rw [isNullText_encode hcell, ← Bool.not_eq_true]
    intro hnull
    rw [((Column.validate_eq_ok_of_null hnull).1 hvalidate).2] at hnullable
    cases hnullable
  · exact fun hs => validateRow_clockFree hs (validateRow_stored hvalid hstores hwide)

/-! ## The same rules -/

theorem Standing.congr {s s' : Schema} (hname : s.name = s'.name) (hcolumns : s.columns = s'.columns)
    (hkey : s.primaryKey = s'.primaryKey) (hchecks : s.checks = s'.checks) (h : s.Standing row) : s'.Standing row := by
  obtain ⟨⟩ := s
  obtain ⟨⟩ := s'
  dsimp only at hname hcolumns hkey hchecks
  subst hname hcolumns hkey hchecks
  exact ⟨h.wide, h.encoded, h.present, fun hs => h.valid ⟨hs.columns, hs.checks⟩⟩

/-- Definitions that ask the same of a row, and have the same indexes. -/
structure SameRules (s s' : Schema) : Prop where
  name : s.name = s'.name
  columns : s.columns = s'.columns
  primaryKey : s.primaryKey = s'.primaryKey
  checks : s.checks = s'.checks
  indexes : s.indexes = s'.indexes

theorem SameRules.refl (s : Schema) : s.SameRules s :=
  ⟨rfl, rfl, rfl, rfl, rfl⟩

theorem SameRules.symm {s s' : Schema} (h : s.SameRules s') : s'.SameRules s :=
  ⟨h.name.symm, h.columns.symm, h.primaryKey.symm, h.checks.symm, h.indexes.symm⟩

theorem SameRules.trans {s s' s'' : Schema} (h : s.SameRules s') (h' : s'.SameRules s'') : s.SameRules s'' :=
  ⟨h.name.trans h'.name, h.columns.trans h'.columns, h.primaryKey.trans h'.primaryKey, h.checks.trans h'.checks,
    h.indexes.trans h'.indexes⟩

theorem SameRules.standing {s s' : Schema} (h : s.SameRules s') (hrow : s.Standing row) : s'.Standing row :=
  hrow.congr h.name h.columns h.primaryKey h.checks

theorem SameRules.columnNames {s s' : Schema} (h : s.SameRules s') : s.columnNames = s'.columnNames := by
  rw [Schema.columnNames, Schema.columnNames, h.columns]

/-! ## What a row is checked against -/

/-- What a row is checked against. -/
structure Demands where
  name : String
  columns : List Column
  primaryKey : List String
  checks : List (String × String)

/-- What a table demands of a row. -/
def demands (s : Schema) : Demands :=
  ⟨s.name, s.columns, s.primaryKey, s.checks⟩

/-- The check of a row looks at nothing else. -/
theorem validateRow_of_demands {s s' : Schema} (h : s.demands = s'.demands) (now : Timestamp) (row : List String) :
    s.validateRow now row = s'.validateRow now row := by
  obtain ⟨⟩ := s
  obtain ⟨⟩ := s'
  simp only [demands, Demands.mk.injEq] at h
  obtain ⟨rfl, rfl, rfl, rfl⟩ := h
  rfl

theorem SameRules.demands {s s' : Schema} (h : s.SameRules s') : s.demands = s'.demands := by
  simp only [Schema.demands, h.name, h.columns, h.primaryKey, h.checks]

theorem demands_addIndex {s s' : Schema} {index : String} {columns : List String} {unique : Bool}
    (h : s.addIndex index columns unique = .ok s') : s'.demands = s.demands := by
  obtain ⟨-, -, key, -, rfl⟩ := addIndex_eq_ok.1 h
  rfl

end Schema

end Relational
