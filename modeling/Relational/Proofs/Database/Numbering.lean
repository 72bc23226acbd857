import Relational.Proofs.Database.TypeRules
import Relational.Proofs.Delete
import Relational.Proofs.Schema.Scope

/-!
# The next number of a column

A column that counts on by itself gives a new row one more than the largest integer that it holds. So the number is in
no row of the column yet, and no key on the column alone can reject the row that has it.
-/

namespace Relational

open Text Decimal

/-- A column of integers that counts on by itself and has no default. -/
structure Column.Counts (column : Column) : Prop where
  integer : column.type.isInteger = true
  counts : column.autoIncrement = true
  plain : column.default = none

theorem Cell.getElem?_ofTexts {row : List String} {i : Nat} {text : String} :
    (Cell.ofTexts row)[i]? = some (.text text) ↔ row[i]? = some text := by
  simp [Cell.ofTexts]

/-! ## The largest number -/

theorem le_foldl_max (ns : List Int) (m : Int) : m ≤ ns.foldl max m ∧ ∀ n ∈ ns, n ≤ ns.foldl max m := by
  induction ns generalizing m with
  | nil => simp
  | cons n ns ih =>
    obtain ⟨hstart, hall⟩ := ih (max m n)
    rw [List.foldl_cons, List.forall_mem_cons]
    exact ⟨by omega, by omega, hall⟩

/-- Every integer that a row holds at a place is less than a number. -/
def Below (rows : List (List String)) (i : Nat) (n : Int) : Prop :=
  ∀ row ∈ rows, ∀ text ∈ row[i]?, ∀ m, readInteger? text = some m → m < n

theorem Below.mono {rows : List (List String)} {i : Nat} {m n : Int} (h : Below rows i m) (hle : m ≤ n) :
    Below rows i n :=
  fun row hrow text htext k hk => Int.lt_of_lt_of_le (h row hrow text htext k hk) hle

theorem Below.of_append {rows new : List (List String)} {i : Nat} {n : Int} (h : Below (rows ++ new) i n) :
    Below rows i n ∧ Below new i n :=
  ⟨fun row hrow => h row (List.mem_append_left new hrow), fun row hrow => h row (List.mem_append_right rows hrow)⟩

/-- A number that is larger than those of the rows is in none of them. -/
theorem Below.ne_intText {rows : List (List String)} {i : Nat} {n : Int} (h : Below rows i n) {row : List String}
    (hrow : row ∈ rows) : row[i]? ≠ some (intText n) := by
  intro hcell
  exact Int.lt_irrefl n (h row hrow _ hcell n (readInteger?_intText n))

namespace Database

variable {db : Database} {now : Timestamp} {name column : String} {t t₀ : Table} {rows : List (List String)} {i : Nat}

/-- The next number of a column of a table that holds texts. -/
theorem nextNumber_eq (ht : db.table? name = some t) (hrows : t.Holds rows)
    (hposition : t.schema.position? column = some i) : db.nextNumber name column
      = .ok (((rows.filterMap (·[i]?)).filterMap readInteger?).foldl max 0 + 1) := by
  have hcells : ((rows.map Cell.ofTexts).filterMap fun row => row[i]?) = (rows.filterMap (·[i]?)).map Cell.text := by
    simp only [List.filterMap_map, List.map_filterMap, Function.comp_def, Cell.ofTexts, List.getElem?_map]
  have hnumbers : ((rows.filterMap (·[i]?)).map Cell.text).mapM cellInteger?
      = .ok ((rows.filterMap (·[i]?)).map readInteger?) := by
    rw [mapM_eq_ok, List.forall₂_map_left_iff, List.forall₂_map_right_iff, List.forall₂_same]
    exact fun _ _ => rfl
  simp only [nextNumber, ht, hposition, hrows.loaded, ok_bind, Schema.contentOf, hcells, hnumbers, pure_eq_ok,
    List.filterMap_map, Function.comp_def, id_eq]

/-- The next number of a column is larger than all that it holds. -/
theorem below_nextNumber (ht : db.table? name = some t) (hrows : t.Holds rows)
    (hposition : t.schema.position? column = some i) :
    ∃ n, db.nextNumber name column = .ok n ∧ 1 ≤ n ∧ Below rows i n := by
  refine ⟨_, nextNumber_eq ht hrows hposition, ?_, ?_⟩
  · have hle := (le_foldl_max ((rows.filterMap (·[i]?)).filterMap readInteger?) 0).1
    omega
  · intro row hrow text htext m hm
    have hmem : m ∈ (rows.filterMap (·[i]?)).filterMap readInteger? :=
      List.mem_filterMap.2 ⟨text, List.mem_filterMap.2 ⟨row, hrow, htext⟩, hm⟩
    exact Int.lt_add_one_of_le ((le_foldl_max _ 0).2 m hmem)

/-- A table that was not loaded has no next number. -/
theorem nextNumber_of_content_eq_none (ht : db.table? name = some t) (hcontent : t.content = none)
    (hposition : t.schema.position? column = some i) :
    db.nextNumber name column = fail (.missingKey (lower t.schema.name)) := by
  simp only [nextNumber, ht, hposition, Table.loaded, hcontent, fail_bind]

end Database

theorem Table.loaded_raised (t : Table) : FailsOnly Failure.Raised t.loaded := by
  unfold loaded
  split
  · exact .ok _
  · exact fail_raised _

theorem Table.findRows_raised (t : Table) (columns key : List String) :
    FailsOnly Failure.Raised (t.findRows columns key) :=
  t.loaded_raised.bind fun _ _ => .ok _

/-! ## Rejections by a key -/

/-- The rejection is by a key: a column of this name is NULL in the primary key, or the primary key or a rule of
uniqueness on this column alone is that of another row. -/
def Rejection.ForKeyOf (name : String) : Rejection → Prop
  | .keyCellNull column => ∀ other ∈ column, sameName other name = true
  | .inColumn _ cause => cause.ForKeyOf name
  | .keyTaken _ columns => columns ≠ [] ∧ ∀ other ∈ columns, sameName other name = true
  | _ => False

/-- A failure that is such a rejection. -/
def Failure.ForKeyOf (name : String) : Failure → Prop
  | .rejection cause => cause.ForKeyOf name
  | .refusal _ | .fault _ => False

/-- A step that does not fail for a key on the column alone. -/
abbrev KeepsKeyOf {α : Type} (name : String) (x : Except Failure α) : Prop :=
  FailsOnly (fun failure => ¬ failure.ForKeyOf name) x

theorem Rejection.ForKeyOf.kind {name : String} {cause : Rejection} (h : cause.ForKeyOf name) :
    cause.kind = .primaryKey ∨ cause.kind = .unique := by
  induction cause with
  | keyCellNull => exact .inl rfl
  | inColumn _ cause ih => exact ih h
  | keyTaken primary => cases primary <;> simp [Rejection.kind]
  | _ => exact h.elim

theorem reject_keepsKeyOf {α : Type} {name : String} {cause : Rejection} (hkey : cause.kind ≠ .primaryKey)
    (hunique : cause.kind ≠ .unique) : KeepsKeyOf name (reject cause : Except Failure α) :=
  .error fun h : cause.ForKeyOf name => h.kind.elim hkey hunique

theorem Failure.Raised.not_forKeyOf {failure : Failure} (h : failure.Raised) (name : String) :
    ¬ failure.ForKeyOf name := by
  cases failure with
  | rejection => exact h.elim
  | refusal | fault => exact id

theorem checkCondition_keepsKeyOf (name text : String) (scope : Scope) :
    KeepsKeyOf name (checkCondition text scope) := by
  intro failure hfailed
  rcases checkCondition_failsOnly text scope failure hfailed with ⟨cause, rfl, hkind⟩ | ⟨fault, rfl⟩
  · intro h
    rcases Rejection.ForKeyOf.kind h with hkey | hkey <;> simp [hkind] at hkey
  · exact id

namespace Column

variable {column : Column} {name : String}

theorem checkDigits_keepsKeyOf (column : Column) (name text : String) : KeepsKeyOf name (column.checkDigits text) := by
  unfold checkDigits
  dsimp only
  repeat' split
  all_goals first | exact .ok () | exact reject_keepsKeyOf nofun nofun

theorem checkValue_keepsKeyOf (column : Column) (now : Timestamp) (context : List (String × Value))
    (name text : String) : KeepsKeyOf name (column.checkValue now context text) := by
  unfold checkValue
  split
  · exact .ok ()
  · split
    · exact .ok ()
    · exact checkCondition_keepsKeyOf _ _ _

/-- A column rejects a value for a key only if the value is NULL, and then for its own. -/
theorem validate_keepsKeyOf {text : String} (h : sameName column.name name = true → isNullText text = false)
    (now : Timestamp) (context : List (String × Value)) : KeepsKeyOf name (column.validate now context text) := by
  have hvalue := column.checkValue_keepsKeyOf now context name text
  have hkept : KeepsKeyOf name (if column.type.isDecimal then
      (do column.checkDigits text; column.checkValue now context text)
      else column.checkValue now context text) := by
    split
    · exact (column.checkDigits_keepsKeyOf name text).bind fun _ _ => hvalue
    · exact hvalue
  unfold validate
  split
  · rename_i hnull
    split
    · -- a key is missing here only in the column itself
      refine .error fun hkey : ∀ other ∈ some column.name, sameName other name = true => ?_
      rw [h (hkey _ rfl)] at hnull
      cases hnull
    · split
      · exact reject_keepsKeyOf nofun nofun
      · exact .ok ()
  · cases accepts column.type column.choices text with
    | false => exact reject_keepsKeyOf nofun nofun
    | true =>
      simp only [Bool.not_true, Bool.false_eq_true, if_false]
      split
      · split
        · split
          · exact reject_keepsKeyOf nofun nofun
          · exact hkept
        · exact hkept
      · exact hkept

end Column

/-! ## A row with a number -/

theorem Value.isNull_ofText_intText {type : DataType} (hkind : type.kind = .integer) (n : Int) :
    (Value.ofText type (intText n)).isNull = false := by
  have hread : (Value.readData? (intText n) type.kind).isNone = false := by
    rw [hkind, Value.readData?, strip_intText, readInteger?_intText]
    rfl
  rw [Value.ofText_of_isNullText (isNullText_intText n), Value.isNull, Value.ofData?, Option.isNone_map, hread]

/-- A number is stored as it is. -/
theorem encode_intText {type : DataType} {choices : List String} {n : Int} {stored : String}
    (hkind : type.kind = .integer) (h : encode type choices (intText n) = .ok stored) : stored = intText n := by
  obtain ⟨-, m, hread, -, rfl⟩ := encode_integer hkind h (isNullText_intText n)
  rw [strip_intText, readInteger?_intText, Option.some.injEq] at hread
  rw [hread]

namespace Schema

/-- A row with a number in a column of integers. -/
structure Numbered (s : Schema) (column : Column) (i : Nat) (n : Int) (row : List String) : Prop where
  wellFormed : s.WellFormed
  integer : column.type.kind = .integer
  columnAt : s.columns[i]? = some column
  cell : row[i]? = some (intText n)

namespace Numbered

variable {s : Schema} {column : Column} {i : Nat} {n : Int} {row stored : List String} {now : Timestamp}

theorem position? (h : s.Numbered column i n row) : s.position? column.name = some i := by
  obtain ⟨hi, rfl⟩ := List.getElem?_eq_some_iff.1 h.columnAt
  exact h.wellFormed.columnsDiffer.position?_eq hi

/-- A column of the same name is the column. -/
theorem position?_of_sameName (h : s.Numbered column i n row) {name : String} (hname : sameName name column.name = true) :
    s.position? name = some i := by
  rw [Schema.position?_congr (sameName_iff.1 hname), h.position?]

theorem text_of_mem_zip (h : s.Numbered column i n row) {cell : Column × String} (hcell : cell ∈ s.columns.zip row)
    (hname : sameName cell.1.name column.name = true) : cell.2 = intText n := by
  obtain ⟨j, hj⟩ := List.getElem?_of_mem hcell
  obtain ⟨hcolumn, htext⟩ := List.getElem?_zip_eq_some.1 hj
  obtain ⟨hlt, heq⟩ := List.getElem?_eq_some_iff.1 hcolumn
  have hposition := h.wellFormed.columnsDiffer.position?_eq hlt
  rw [heq, h.position?_of_sameName hname, Option.some.injEq] at hposition
  rw [← hposition, h.cell, Option.some.injEq] at htext
  exact htext.symm

/-- The number is no missing part of the primary key. -/
theorem keyCellMissing_eq_false (h : s.Numbered column i n row) {name : String}
    (hname : sameName name column.name = true) :
    s.keyCellMissing (s.rowValues (row.map plainNull)) row name = false := by
  have hplain : (row.map plainNull)[i]? = some (intText n) := by
    rw [List.getElem?_map, h.cell, Option.map_some, plainNull, isNullText_intText]
    rfl
  have hnamed := (Column.declare_eq_ok.1 (h.wellFormed.columns column (List.mem_of_getElem? h.columnAt))).1
  have hvalue : ((s.rowValues (row.map plainNull)).lookup (lower name)).any Value.isNull = false := by
    cases hlookup : (s.rowValues (row.map plainNull)).lookup (lower name) with
    | none => rfl
    | some v =>
      rw [sameName_iff.1 hname] at hlookup
      rw [value_of_lookup h.wellFormed h.columnAt hplain (afterPoint_lower hnamed) hlookup]
      exact Value.isNull_ofText_intText h.integer n
  have htext : (strip (intText n) == "") = false := by
    have hnull := isNullText_intText n
    rw [isNullText, Bool.or_eq_false_iff] at hnull
    exact hnull.1
  rw [keyCellMissing, hvalue, h.position?_of_sameName hname]
  simp only [Option.bind_some, h.cell, Option.any_some, htext, Bool.or_self]

theorem validateRow_keepsKeyOf (h : s.Numbered column i n row) (now : Timestamp) :
    KeepsKeyOf column.name (s.validateRow now row) := by
  refine validateRow_failsOnly (fun _ _ => id) (fun name _ hmissing hkey => ?_) (fun _ _ => id)
    (fun cell hcell => ?_) (checkCondition_keepsKeyOf column.name)
  · rw [h.keyCellMissing_eq_false (hkey name rfl)] at hmissing
    cases hmissing
  · refine Column.validate_keepsKeyOf (fun hname => ?_) now _
    rw [h.text_of_mem_zip hcell hname]
    exact isNullText_intText n

theorem storedRow_keepsKeyOf (h : s.Numbered column i n row) (now : Timestamp) :
    KeepsKeyOf column.name (Database.storedRow s now row) := by
  refine (h.validateRow_keepsKeyOf now).bind fun _ _ => ?_
  refine FailsOnly.mapM fun cell _ => ?_
  dsimp only
  unfold encode
  split
  · exact .ok _
  · split
    · exact .ok _
    · exact .error id

/-- The number is stored as it is. -/
theorem storedRow_numbered (h : s.Numbered column i n row) (hstored : Database.storedRow s now row = .ok stored) :
    s.Numbered column i n stored := by
  obtain ⟨cell, hcell, hencode⟩ := getElem?_encodeRow (storedRow_ok hstored).2 h.columnAt h.cell
  exact ⟨h.wellFormed, h.integer, h.columnAt, by rw [hcell, encode_intText h.integer hencode]⟩

/-- No key on the column alone is that of a row with smaller numbers. -/
theorem checkKey_keepsKeyOf {t : Table} {rows : List (List String)} (h : t.schema.Numbered column i n row)
    (hrows : t.Holds rows) (hbelow : Below rows i n) (rule : Bool × List String) :
    KeepsKeyOf column.name (Database.checkKey t row none rule) := by
  by_cases halone : rule.2 ≠ [] ∧ ∀ name ∈ rule.2, sameName name column.name = true
  · have hfree : Database.checkKey t row none rule = .ok () := by
      refine (Database.checkKey_eq_ok hrows).2 fun k other hother hsame => ?_
      obtain ⟨name, hname⟩ := List.exists_mem_of_ne_nil _ halone.1
      have hmem : intText n ∈ t.schema.cells rule.2 row :=
        mem_cells.2 ⟨name, hname, i, h.position?_of_sameName (halone.2 name hname), h.cell⟩
      rw [← hsame.1, mem_cells] at hmem
      obtain ⟨name', hname', j, hj, hcell⟩ := hmem
      rw [h.position?_of_sameName (halone.2 name' hname'), Option.some.injEq] at hj
      subst hj
      exact absurd hcell (hbelow.ne_intText (List.mem_of_getElem? hother))
    rw [hfree]
    exact .ok ()
  · unfold Database.checkKey
    dsimp only
    split
    · exact .ok ()
    · rename_i hnull
      rw [hrows.findRows _ (by simpa using hnull), ok_bind]
      split
      · exact .ok ()
      · exact .error halone

end Numbered

end Schema

namespace Database

variable {K : RowInvariant} {db : Database} {now : Timestamp} {name : String} {t t₀ : Table} {column : Column}
  {rows : List (List String)} {row : List String} {i : Nat} {n : Int}

theorem checkReferences_keepsKeyOf (db : Database) (s : Schema) (row : List String) (name : String) :
    KeepsKeyOf name (checkReferences db s row) := by
  refine checkAll_failsOnly fun entry _ => ?_
  unfold checkReference
  split
  · exact reject_keepsKeyOf nofun nofun
  · dsimp only
    split
    · exact .ok ()
    · split
      · exact reject_keepsKeyOf nofun nofun
      · refine FailsOnly.bind (fun failure hfailed => ?_) fun found _ => ?_
        · exact (Table.findRows_raised _ _ _ failure hfailed).not_forKeyOf name
        split
        · exact reject_keepsKeyOf nofun nofun
        · exact .ok ()

/-- A row with a number that is larger than those of the other rows is not rejected by a key on the column alone. -/
theorem insertion_keepsKeyOf (ht : db.table? name = some t) (hrows : t.Holds rows)
    (hnumbered : t.schema.Numbered column i n row) (hbelow : Below rows i n) :
    KeepsKeyOf column.name (db.insertion now name (.cells row)) := by
  rw [insertion, table_eq_ok.2 ht, ok_bind]
  refine (hnumbered.storedRow_keepsKeyOf now).bind fun stored hstored => ?_
  refine FailsOnly.bind (checkTogether_failsOnly ?_) fun _ _ => ?_
  · simp only [List.forall_mem_cons]
    exact ⟨checkAll_failsOnly fun rule _ => (hnumbered.storedRow_numbered hstored).checkKey_keepsKeyOf hrows hbelow rule,
      checkReferences_keepsKeyOf _ _ _ _, by simp⟩
  · rw [hrows.loaded]
    exact .ok _

theorem insertRow_keepsKeyOf (h : db.Consistent K) (now : Timestamp) (ht : db.table? name = some t)
    (hrows : t.Holds rows) (hnumbered : t.schema.Numbered column i n row) (hbelow : Below rows i n) :
    KeepsKeyOf column.name (db.answer (.insertRow now name (.cells row))).1 := by
  intro failure hfailed
  have hself : db.answer (.insertRow now name (.cells row))
      = (db.upon db.directory).answer (.insertRow now name (.cells row)) := rfl
  rw [hself] at hfailed
  cases hinsertion : db.insertion now name (.cells row) with
  | error refused =>
    rw [insertRow_refused hinsertion] at hfailed
    cases hfailed
    exact insertion_keepsKeyOf ht hrows hnumbered hbelow failure hinsertion
  | ok checked =>
    obtain ⟨t', content, stored⟩ := checked
    obtain ⟨-, rows', -, rfl, -⟩ := insertion_eq_ok h hinsertion
    rw [insertRow_made hinsertion] at hfailed
    obtain ⟨path, fault, rfl⟩ := make_put_failsOnly _ _ _ failure hfailed
    exact id

end Database

end Relational
