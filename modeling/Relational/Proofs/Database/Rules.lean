import Relational.Database.Rules
import Relational.Proofs.Database.Content

/-!
# What the rules between rows say

Each check succeeds exactly if what it looks for holds of the rows, whether it looks with an index or without.
-/

namespace Relational

namespace Database

/-! ## Checks in a row -/

theorem checkAll_eq_ok {α : Type} {check : α → Except Failure Unit} {as : List α} :
    checkAll check as = .ok () ↔ ∀ a ∈ as, check a = .ok () := by
  induction as with
  | nil => simp [checkAll]
  | cons a as ih => rw [checkAll, check_bind_eq_ok, ih, List.forall_mem_cons]

theorem checkTogether_eq_ok {checks : List (Except Failure Unit)} :
    checkTogether checks = .ok () ↔ ∀ check ∈ checks, check = .ok () := by
  rw [checkTogether, check_bind_eq_ok, checkAll_eq_ok, checkAll_eq_ok]
  constructor
  · exact fun h => h.2
  · intro h
    refine ⟨?_, h⟩
    intro check hcheck
    rw [h check hcheck]

end Database

/-! ## Keys -/

namespace Table

variable {t : Table} {rows : List (List String)}

/-- A table has one list of texts as its rows. -/
theorem Holds.unique {rows' : List (List String)} (h : t.Holds rows) (h' : t.Holds rows') : rows = rows' := by
  have heq : rows.map Cell.ofTexts = rows'.map Cell.ofTexts := by rw [← h.rows_eq, h'.rows_eq]
  exact List.map_injective_iff.2 (fun _ _ => Cell.ofTexts_injective) heq

theorem Holds.mem_scan (h : t.Holds rows) {columns key : List String} {i : Nat} :
    i ∈ scan t.schema columns key t.rows ↔ ∃ row, rows[i]? = some row ∧ t.schema.cells columns row = key := by
  rw [h.rows_eq, mem_scan_ofTexts]

/-- Some row of the table holds a key in some columns. -/
def HasKey (t : Table) (columns key : List String) : Prop :=
  ∃ row ∈ t.rows, t.schema.cells columns row = Cell.ofTexts key

theorem Holds.hasKey_iff (h : t.Holds rows) {columns key : List String} :
    t.HasKey columns key ↔ ∃ row ∈ rows, t.schema.cells columns row = key := by
  rw [HasKey, h.rows_eq]
  constructor
  · rintro ⟨cells, hcells, hkey⟩
    obtain ⟨row, hrow, rfl⟩ := List.mem_map.1 hcells
    rw [Schema.cells_ofTexts] at hkey
    exact ⟨row, hrow, Cell.ofTexts_injective hkey⟩
  · rintro ⟨row, hrow, rfl⟩
    exact ⟨Cell.ofTexts row, List.mem_map_of_mem hrow, Schema.cells_ofTexts _ _⟩

end Table

namespace Schema

/-- Two rows have one key without NULL. -/
def SameKey (s : Schema) (columns row other : List String) : Prop :=
  s.cells columns other = s.cells columns row ∧ Index.hasNull (s.cells columns row) = false

/-- No row but `except` has a key of `row`. -/
def KeysFree (s : Schema) (rows : List (List String)) (except : Option Nat) (row : List String) : Prop :=
  ∀ rule ∈ Database.keyRules s, ∀ i other, rows[i]? = some other → s.SameKey rule.2 row other → some i = except

end Schema

namespace Database

variable {t : Table} {rows : List (List String)}

theorem checkKey_eq_ok (h : t.Holds rows) {row : List String} {except : Option Nat} {rule : Bool × List String} :
    checkKey t row except rule = .ok () ↔
      ∀ i other, rows[i]? = some other → t.schema.SameKey rule.2 row other → some i = except := by
  unfold checkKey
  cases hnull : Index.hasNull (t.schema.cells rule.2 row) with
  | true => simp [Schema.SameKey, hnull]
  | false =>
    simp only [hnull, Bool.false_eq_true, if_false]
    rw [h.findRows _ hnull, ok_bind]
    have hall : ((Table.scan t.schema rule.2 (t.schema.cells rule.2 row) t.rows).all fun i => some i == except)
        = true ↔ ∀ i other, rows[i]? = some other → t.schema.SameKey rule.2 row other → some i = except := by
      simp only [List.all_eq_true, h.mem_scan, beq_iff_eq, Schema.SameKey, hnull, and_true]
      exact ⟨fun hall i other hother hkey => hall i ⟨other, hother, hkey⟩,
        fun hall i ⟨other, hother, hkey⟩ => hall i other hother hkey⟩
    split
    · rename_i hfree
      simp [← hall, hfree]
    · rename_i htaken
      simp [← hall, htaken]

theorem checkKeys_eq_ok (h : t.Holds rows) {row : List String} {except : Option Nat} :
    checkKeys t row except = .ok () ↔ t.schema.KeysFree rows except row := by
  rw [checkKeys, checkAll_eq_ok, Schema.KeysFree]
  simp only [checkKey_eq_ok h]

/-! ## References to other rows -/

/-- All tables are sound. -/
def TablesSound (db : Database) : Prop :=
  ∀ entry ∈ db.tables, entry.2.Sound

theorem mem_of_table? {db : Database} {name : String} {t : Table} (h : db.table? name = some t) :
    (keyOf name, t) ∈ db.tables :=
  mem_of_lookup_eq_some h

/-- The table that a foreign key refers to is there. It has the columns referred to, and a row with the key that
`row` has in the columns of the foreign key, unless a part of it is NULL. -/
def ReferencePresent (db : Database) (s : Schema) (row : List String) (fk : ForeignKey) : Prop :=
  ∃ parent, db.table? fk.refTable = some parent ∧ (Index.hasNull (s.cells fk.columns row) = false →
    (∀ name ∈ fk.refColumns, parent.schema.hasColumn name = true) ∧
      parent.HasKey fk.refColumns (s.cells fk.columns row))

theorem scan_eq_nil_iff {t : Table} {columns key : List String} :
    Table.scan t.schema columns key t.rows = [] ↔ ¬ t.HasKey columns key := by
  rw [List.eq_nil_iff_forall_not_mem]
  simp only [Table.mem_scan]
  constructor
  · rintro h ⟨row, hrow, hkey⟩
    obtain ⟨i, hi⟩ := List.mem_iff_getElem?.1 hrow
    exact h i ⟨row, hi, hkey⟩
  · rintro h i ⟨row, hi, hkey⟩
    exact h ⟨row, List.mem_of_getElem? hi, hkey⟩

theorem checkReference_eq_ok {db : Database} (hdb : db.TablesSound) {s : Schema} {row : List String}
    {fk : ForeignKey} : checkReference db s row fk = .ok () ↔ db.ReferencePresent s row fk := by
  unfold checkReference ReferencePresent
  cases hparent : db.table? fk.refTable with
  | none => simp
  | some parent =>
    obtain ⟨rows, hholds⟩ := (hdb _ (mem_of_table? hparent)).holds
    simp only [Option.some.injEq, exists_eq_left']
    cases hnull : Index.hasNull (s.cells fk.columns row) with
    | true => simp
    | false =>
      rw [if_neg Bool.false_ne_true, forall_prop_of_true rfl]
      split
      · rename_i hmissing
        have hnot : ¬ ∀ name ∈ fk.refColumns, parent.schema.hasColumn name = true := by simpa using hmissing
        simp [hnot]
      · rename_i hpresent
        have hall : ∀ name ∈ fk.refColumns, parent.schema.hasColumn name = true := by simpa using hpresent
        rw [hholds.findRows _ hnull, ok_bind, and_iff_right hall]
        split
        · rename_i hempty
          rw [List.isEmpty_iff, scan_eq_nil_iff] at hempty
          simp [hempty]
        · rename_i hfound
          rw [List.isEmpty_iff, scan_eq_nil_iff, not_not] at hfound
          simp [hfound]

/-- Every reference of a row is there. -/
def ReferencesPresent (db : Database) (s : Schema) (row : List String) : Prop :=
  ∀ rule ∈ s.foreignKeys, db.ReferencePresent s row rule.2

theorem checkReferences_eq_ok {db : Database} (hdb : db.TablesSound) {s : Schema} {row : List String} :
    checkReferences db s row = .ok () ↔ db.ReferencesPresent s row := by
  rw [checkReferences, checkAll_eq_ok, ReferencesPresent]
  simp only [checkReference_eq_ok hdb]

/-! ## References from other rows -/

/-- The key in a row that a foreign key could refer to, and that a new row in its place does not have. -/
def GivesUpKey (s : Schema) (fk : ForeignKey) (row : List String) (newRow : Option (List String)) : Prop :=
  (∀ name ∈ fk.refColumns, s.hasColumn name = true) ∧ Index.hasNull (s.cells fk.refColumns row) = false ∧
    newRow.map (s.cells fk.refColumns) ≠ some (s.cells fk.refColumns row)

/-- Only the row at `position` of the table under `key` itself may refer to the key that it gives up. -/
def Unreferenced (db : Database) (key : String) (s : Schema) (row : List String) (position : Nat)
    (newRow : Option (List String)) : Prop :=
  ∀ entry ∈ db.tables, ∀ rule ∈ entry.2.schema.foreignKeys, keyOf rule.2.refTable = key →
    GivesUpKey s rule.2 row newRow → ∀ i ∈ Table.scan entry.2.schema rule.2.columns (s.cells rule.2.refColumns row)
      entry.2.rows, entry.1 = key ∧ i = position

theorem others_eq_nil_iff {childKey key : String} {position : Nat} {found : List Nat} :
    (if childKey == key then found.filter (· != position) else found) = [] ↔
      ∀ i ∈ found, childKey = key ∧ i = position := by
  by_cases hown : childKey = key
  · simp [hown, List.filter_eq_nil_iff]
  · simp [hown, List.eq_nil_iff_forall_not_mem]

theorem checkNotReferencedBy_eq_ok {key childKey : String} {s : Schema} {row : List String} {position : Nat}
    {newRow : Option (List String)} {child : Table} (hchild : child.Sound) {fk : ForeignKey} :
    checkNotReferencedBy key s (Cell.ofTexts row) position newRow childKey child fk = .ok () ↔
      (keyOf fk.refTable = key → GivesUpKey s fk row newRow →
        ∀ i ∈ Table.scan child.schema fk.columns (s.cells fk.refColumns row) child.rows,
          childKey = key ∧ i = position) := by
  unfold checkNotReferencedBy GivesUpKey
  obtain ⟨rows, hholds⟩ := hchild.holds
  -- the check looks for rows only if all of these hold; otherwise nothing is given up
  by_cases hkey : keyOf fk.refTable = key
  swap
  · simp [hkey]
  by_cases hall : ∀ name ∈ fk.refColumns, s.hasColumn name = true
  swap
  · have hmissing : fk.refColumns.all s.hasColumn = false := by simpa using hall
    simp [hall, hmissing]
  have hpresent : fk.refColumns.all s.hasColumn = true := by simpa using hall
  have hcells : Cell.keyTexts (s.cells fk.refColumns (Cell.ofTexts row))
      = .ok (Index.upToNull (s.cells fk.refColumns row)) := by
    rw [Schema.cells_ofTexts]
    exact Cell.keyTexts_ofTexts _
  rw [if_neg (by simp [hkey, hpresent]), hcells, ok_bind, Index.hasNull_upToNull]
  cases hnull : Index.hasNull (s.cells fk.refColumns row) with
  | true => simp
  | false =>
    rw [Index.upToNull_of_hasNull_eq_false hnull, Bool.false_or]
    by_cases hsame : newRow.map (s.cells fk.refColumns) = some (s.cells fk.refColumns row)
    · simp [hsame]
    · rw [if_neg (by simpa using hsame), hholds.findRows _ hnull, ok_bind]
      rw [forall_prop_of_true hkey, forall_prop_of_true ⟨hall, rfl, hsame⟩, ← others_eq_nil_iff]
      simp only [List.isEmpty_iff]
      split
      · simp
      · simp

theorem checkNotReferenced_eq_ok {db : Database} (hdb : db.TablesSound) {key : String} {s : Schema}
    {row : List String} {position : Nat} {newRow : Option (List String)} :
    checkNotReferenced db key s (Cell.ofTexts row) position newRow = .ok () ↔
      db.Unreferenced key s row position newRow := by
  rw [checkNotReferenced, checkAll_eq_ok, Unreferenced]
  refine forall₂_congr fun entry hentry => ?_
  rw [checkAll_eq_ok]
  exact forall₂_congr fun rule _ => checkNotReferencedBy_eq_ok (hdb entry hentry)

end Database

end Relational
