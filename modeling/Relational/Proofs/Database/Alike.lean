import Relational.Proofs.Database.Answers
import Relational.Proofs.Database.References

/-!
# Databases that differ in their indexes

Two databases are alike if they have the same tables with the same rows, whatever indexes are declared on them. The
checks of a change do not depend on the indexes, for where there is no index each row is looked at. So alike databases
answer the replacement and the removal of a row alike, and are alike afterwards.
-/

namespace Relational

open Text

/-! ## Tables without their indexes -/

/-- The definition without indexes, and without the number of rows and the moments that are kept beside it. -/
def Schema.unindexed (s : Schema) : Schema :=
  { s with indexes := [], rowCount := 0, createdAt := default, modifiedAt := default, written := [] }

/-- The table without indexes. -/
def Table.unindexed (t : Table) : Table :=
  ⟨t.schema.unindexed, t.content.map fun content => ⟨content.rows, []⟩⟩

namespace Table

variable {K : RowInvariant} {t t' : Table}

@[simp] theorem rows_unindexed (t : Table) : t.unindexed.rows = t.rows := by
  obtain ⟨s, content⟩ := t
  cases content <;> rfl

theorem rows_of_unindexed_eq (h : t.unindexed = t'.unindexed) : t.rows = t'.rows := by
  rw [← rows_unindexed t, h, rows_unindexed]

theorem loaded_unindexed (t : Table) :
    t.unindexed.loaded = t.loaded.map fun content => ⟨content.rows, []⟩ := by
  obtain ⟨s, content⟩ := t
  cases content <;> rfl

/-- An index finds the rows that are found by looking at each. -/
theorem Fit.findRows_unindexed (h : t.Fit K) (columns : List String) {key : List String}
    (hkey : Index.hasNull key = false) : t.unindexed.findRows columns key = t.findRows columns key := by
  cases hcontent : t.content with
  | none =>
    have hmissing : t.loaded = fail (.missingKey (lower t.schema.name)) := by rw [loaded, hcontent]
    rw [findRows, findRows, loaded_unindexed, hmissing]
    rfl
  | some content =>
    obtain ⟨rows, hrows, -⟩ := h.rows content hcontent
    rw [hrows.findRows columns hkey, findRows, loaded_unindexed, hrows.loaded, hrows.rows_eq]
    rfl

end Table

/-! ## Directories that take the same files -/

namespace Directory

/-- Directories in which the same files can be written. What the files hold does not matter. -/
structure Alike (d d' : Directory) : Prop where
  path : d.path = d'.path
  refused : d.refused = d'.refused
  folders : ∀ name, d.isFolder name = d'.isFolder name

theorem Alike.refl (d : Directory) : d.Alike d :=
  ⟨rfl, rfl, fun _ => rfl⟩

theorem isFolder_setEntry (d : Directory) (file text name : String) :
    ({ d with entries := setEntry file (.file text) d.entries } : Directory).isFolder name
      = (name != file && d.isFolder name) := by
  rw [isFolder, isFolder, entry?, entry?, lookup_setEntry]
  by_cases hname : name = file
  · simp [hname]
  · simp [hname]

theorem Alike.write? {d d' : Directory} (h : d.Alike d') (file text text' : String) :
    d.write? file text = none ∧ d'.write? file text' = none ∨
      ∃ saved saved', d.write? file text = some saved ∧ d'.write? file text' = some saved' ∧ saved.Alike saved' := by
  have hrefused : (d'.isFolder file || d'.refused.contains (.write, file))
      = (d.isFolder file || d.refused.contains (.write, file)) := by rw [← h.folders, ← h.refused]
  rw [Directory.write?, Directory.write?, hrefused]
  split
  · exact .inl ⟨rfl, rfl⟩
  · refine .inr ⟨_, _, rfl, rfl, h.path, h.refused, fun name => ?_⟩
    rw [isFolder_setEntry, isFolder_setEntry, h.folders]

end Directory

namespace Storage

variable {d d' : Directory}

theorem writeDocument_alike (h : d.Alike d') (file : String) (document document' : Json) :
    (writeDocument d file document).1 = (writeDocument d' file document').1 ∧
      (writeDocument d file document).2.Alike (writeDocument d' file document').2 := by
  rw [writeDocument, writeDocument]
  rcases h.write? file document.print document'.print with ⟨hfails, hfails'⟩ | ⟨saved, saved', hsaves, hsaves', hsaved⟩
  · rw [hfails, hfails']
    refine ⟨?_, h⟩
    rw [inaccessible, inaccessible, Directory.pathOf, Directory.pathOf, h.path]
  · rw [hsaves, hsaves']
    exact ⟨rfl, hsaved⟩

/-- A table is written to one directory if it is written to the other, whatever is written. -/
theorem save_alike (h : d.Alike d') {s s' : Schema} (hname : s.name = s'.name) (rows rows' : List (List Cell)) :
    (save s rows d).1 = (save s' rows' d').1 ∧ (save s rows d).2.Alike (save s' rows' d').2 := by
  have hfirst := writeDocument_alike h (rowsFile s'.name) (rowsJson s rows) (rowsJson s' rows')
  rw [save, save, andThen, andThen, hname]
  generalize writeDocument d (rowsFile s'.name) (rowsJson s rows) = outcome at hfirst ⊢
  generalize writeDocument d' (rowsFile s'.name) (rowsJson s' rows') = outcome' at hfirst ⊢
  obtain ⟨written, saved⟩ := outcome
  obtain ⟨written', saved'⟩ := outcome'
  obtain ⟨rfl, hsaved⟩ := hfirst
  cases written with
  | error failure => exact ⟨rfl, hsaved⟩
  | ok => exact writeDocument_alike hsaved (schemaFile s'.name) s.toJson s'.toJson

end Storage

/-! ## Checks without indexes -/

namespace Database

variable {K : RowInvariant} {db db' : Database} {t : Table} {now : Timestamp} {name : String}

/-- The tables of a database without indexes, and without a directory. -/
def unindexed (db : Database) : Database :=
  ⟨db.tables.map fun entry => (entry.1, entry.2.unindexed), none⟩

theorem table?_unindexed (db : Database) (name : String) :
    db.unindexed.table? name = (db.table? name).map Table.unindexed :=
  lookup_map_value _ _ _

theorem setTable_unindexed (db : Database) (key : String) (t : Table) :
    (db.setTable key t).unindexed = db.unindexed.setTable key t.unindexed := by
  simp only [unindexed, setTable, map_setEntry]

theorem checkAll_congr {α : Type} {check check' : α → Except Failure Unit} {as : List α}
    (h : ∀ a ∈ as, check a = check' a) : checkAll check as = checkAll check' as := by
  induction as with
  | nil => rfl
  | cons a as ih =>
    rw [List.forall_mem_cons] at h
    rw [checkAll, checkAll, h.1, ih h.2]

theorem checkAll_map {α β : Type} (f : α → β) (check : β → Except Failure Unit) (as : List α) :
    checkAll check (as.map f) = checkAll (fun a => check (f a)) as := by
  induction as with
  | nil => rfl
  | cons a as ih => rw [List.map_cons, checkAll, checkAll, ih]

theorem checkKeys_unindexed (h : t.Fit K) (row : List String) (except : Option Nat) :
    checkKeys t.unindexed row except = checkKeys t row except := by
  have hrules : keyRules t.unindexed.schema = keyRules t.schema := rfl
  rw [checkKeys, checkKeys, hrules]
  refine checkAll_congr fun rule _ => ?_
  have hcells : t.unindexed.schema.cells rule.2 row = t.schema.cells rule.2 row := rfl
  simp only [checkKey, hcells]
  split
  · rfl
  · rename_i hkey
    rw [h.findRows_unindexed _ (Bool.eq_false_of_not_eq_true hkey)]

theorem checkReferences_unindexed (h : db.Consistent K) (s : Schema) (row : List String) :
    checkReferences db.unindexed s.unindexed row = checkReferences db s row := by
  refine checkAll_congr fun entry _ => ?_
  have hcells : s.unindexed.cells entry.2.columns row = s.cells entry.2.columns row := rfl
  simp only [checkReference, table?_unindexed, hcells]
  cases hparent : db.table? entry.2.refTable with
  | none => rfl
  | some parent =>
    have hfit := h.fit _ (mem_of_table? hparent)
    have hcolumns : parent.unindexed.schema.hasColumn = parent.schema.hasColumn := rfl
    simp only [Option.map_some, hcolumns]
    split
    · rfl
    · rename_i hkey
      rw [hfit.findRows_unindexed _ (Bool.eq_false_of_not_eq_true hkey)]

theorem checkNotReferenced_unindexed (h : db.Consistent K) (key : String) (s : Schema) (row : List Cell)
    (position : Nat) (newRow : Option (List String)) :
    checkNotReferenced db.unindexed key s.unindexed row position newRow
      = checkNotReferenced db key s row position newRow := by
  rw [checkNotReferenced, unindexed, checkAll_map]
  refine checkAll_congr fun child hchild => ?_
  refine checkAll_congr fun entry _ => ?_
  have hcolumns : s.unindexed.hasColumn = s.hasColumn := rfl
  have hnewCells : s.unindexed.cells entry.2.refColumns = s.cells (α := String) entry.2.refColumns := rfl
  have hcells : s.unindexed.cells entry.2.refColumns row = s.cells entry.2.refColumns row := rfl
  have hname : child.2.unindexed.schema.name = child.2.schema.name := rfl
  simp only [checkNotReferencedBy, hcolumns, hnewCells, hcells, hname]
  split
  · rfl
  · cases Cell.keyTexts (s.cells entry.2.refColumns row) with
    | error failure => rfl
    | ok cells =>
      simp only [ok_bind]
      split
      · rfl
      · rename_i hkey
        rw [Bool.or_eq_true, not_or] at hkey
        rw [(h.fit child hchild).findRows_unindexed _ (Bool.eq_false_of_not_eq_true hkey.1)]

/-! ## Changes of a row -/

theorem table_unindexed (db : Database) (name : String) :
    db.unindexed.table name = (db.table name).map Table.unindexed := by
  rw [table, table, table?_unindexed]
  cases db.table? name <;> rfl

theorem rowAt_unindexed (t : Table) (position : Int) : rowAt t.unindexed position
    = (rowAt t position).map fun found => (⟨found.1.rows, []⟩, found.2) := by
  rw [rowAt, rowAt, t.loaded_unindexed]
  cases t.loaded with
  | error failure => rfl
  | ok content =>
    cases position with
    | negSucc n => rfl
    | ofNat i =>
      simp only [Except.map, ok_bind]
      cases content.rows[i]? <;> rfl

theorem onRow_unindexed (s : Schema) (row : List Cell) (input : RowInput) :
    input.onRow s.unindexed row = input.onRow s row := by
  cases input with
  | cells texts => rfl
  | named entries =>
    have hassign : assignCells s.unindexed entries row = assignCells s entries row := by
      induction entries generalizing row with
      | nil => rfl
      | cons entry entries ih =>
        have hposition : s.unindexed.position? entry.1 = s.position? entry.1 := rfl
        rw [assignCells, assignCells, hposition]
        cases s.position? entry.1 with
        | none => rfl
        | some i => exact ih _
    rw [RowInput.onRow, RowInput.onRow, hassign]

/-- What the checks before a row is replaced find does not depend on the indexes. -/
theorem replacement_unindexed (h : db.Consistent K) (now : Timestamp) (name : String) (position : Int)
    (input : RowInput) : db.unindexed.replacement now name position input
      = (db.replacement now name position input).map fun checked =>
        (checked.1.unindexed, ⟨checked.2.1.rows, []⟩, checked.2.2) := by
  rw [replacement, replacement, table_unindexed]
  cases ht : db.table name with
  | error failure => rfl
  | ok t =>
    have hfit := h.fit _ (mem_of_table? (table_eq_ok.1 ht))
    simp only [Except.map, ok_bind, rowAt_unindexed]
    cases rowAt t position with
    | error failure => rfl
    | ok found =>
      obtain ⟨content, i, old⟩ := found
      have hraw : input.onRow t.unindexed.schema old = input.onRow t.schema old := onRow_unindexed t.schema old input
      have hstored : storedRow t.unindexed.schema now = storedRow t.schema now := rfl
      simp only [ok_bind, hraw, hstored]
      cases input.onRow t.schema old with
      | error failure => rfl
      | ok raw =>
        simp only [ok_bind]
        cases storedRow t.schema now raw with
        | error failure => rfl
        | ok row =>
          have hreferences : checkReferences db.unindexed t.unindexed.schema row = checkReferences db t.schema row :=
            checkReferences_unindexed h t.schema row
          have hreferenced : checkNotReferenced db.unindexed (keyOf name) t.unindexed.schema old i (some row)
              = checkNotReferenced db (keyOf name) t.schema old i (some row) :=
            checkNotReferenced_unindexed h (keyOf name) t.schema old i (some row)
          simp only [ok_bind, checkKeys_unindexed hfit, hreferences, hreferenced]
          generalize checkTogether _ = checked
          cases checked <;> rfl

/-- What the checks before a row is deleted find does not depend on the indexes. -/
theorem deletion_unindexed (h : db.Consistent K) (name : String) (position : Int) :
    db.unindexed.deletion name position = (db.deletion name position).map fun checked =>
      (checked.1.unindexed, ⟨checked.2.1.rows, []⟩, checked.2.2) := by
  rw [deletion, deletion, table_unindexed]
  cases ht : db.table name with
  | error failure => rfl
  | ok t =>
    simp only [Except.map, ok_bind, rowAt_unindexed]
    cases rowAt t position with
    | error failure => rfl
    | ok found =>
      obtain ⟨content, i, old⟩ := found
      have hreferenced : checkNotReferenced db.unindexed (keyOf name) t.unindexed.schema old i none
          = checkNotReferenced db (keyOf name) t.schema old i none :=
        checkNotReferenced_unindexed h (keyOf name) t.schema old i none
      simp only [ok_bind, hreferenced]
      generalize checkNotReferenced db (keyOf name) t.schema old i none = checked
      cases checked <;> rfl

/-! ## Alike databases -/

/-- Databases with the same tables and the same rows, whatever their indexes. Both are in memory, or over directories
in which the same files can be written. -/
structure Alike (db db' : Database) : Prop where
  tables : db.unindexed = db'.unindexed
  directory : Option.Rel Directory.Alike db.directory db'.directory

theorem Alike.refl (db : Database) : Alike db db := by
  refine ⟨rfl, ?_⟩
  cases db.directory with
  | none => exact .none
  | some d => exact .some (.refl d)

theorem Alike.table? (h : Alike db db') (name : String) :
    (db.table? name).map Table.unindexed = (db'.table? name).map Table.unindexed := by
  rw [← table?_unindexed, h.tables, table?_unindexed]

/-- Writing a table has the same outcome. -/
theorem Alike.persist (h : Alike db db') {s s' : Schema} (hname : s.name = s'.name) (rows rows' : List (List Cell)) :
    (db.persist s rows).1 = (db'.persist s' rows').1 ∧ Alike (db.persist s rows).2 (db'.persist s' rows').2 := by
  obtain ⟨tables, directory⟩ := db
  obtain ⟨tables', directory'⟩ := db'
  obtain ⟨htables, hdirectory⟩ := h
  cases hdirectory with
  | none => exact ⟨rfl, htables, .none⟩
  | some hd =>
    obtain ⟨hwritten, hsaved⟩ := Storage.save_alike hd hname rows rows'
    exact ⟨hwritten, htables, .some hsaved⟩

/-- Putting tables that differ in their indexes alone has the same outcome. -/
theorem Alike.make (h : Alike db db') (key : String) {t t' : Table} (ht : t.unindexed = t'.unindexed) :
    (db.make (.put key t none)).1 = (db'.make (.put key t' none)).1 ∧
      Alike (db.make (.put key t none)).2 (db'.make (.put key t' none)).2 := by
  have hname : t.schema.name = t'.schema.name := by
    have hsame : t.unindexed.schema.name = t'.unindexed.schema.name := by rw [ht]
    exact hsame
  have hsaved := h.persist hname t.rows t'.rows
  simp only [Database.make]
  generalize db.persist t.schema t.rows = outcome at hsaved ⊢
  generalize db'.persist t'.schema t'.rows = outcome' at hsaved ⊢
  obtain ⟨written, saved⟩ := outcome
  obtain ⟨written', saved'⟩ := outcome'
  obtain ⟨rfl, hsaved⟩ := hsaved
  cases written with
  | error failure => exact ⟨rfl, hsaved⟩
  | ok => exact ⟨rfl, by rw [setTable_unindexed, setTable_unindexed, hsaved.tables, ht], hsaved.directory⟩

/-- New rows in tables that differ in their indexes alone. -/
theorem storedTable_unindexed_congr {t t' : Table} (ht : t.unindexed = t'.unindexed) (rows : List (List String))
    (now : Timestamp) :
    (storedTable t.schema rows now).unindexed = (storedTable t'.schema rows now).unindexed := by
  have hschema : t.schema.unindexed = t'.schema.unindexed := congrArg Table.schema ht
  have hstored : ∀ s : Schema, (storedTable s rows now).unindexed = ⟨s.unindexed, some ⟨rows.map Cell.ofTexts, []⟩⟩ :=
    fun _ => rfl
  rw [hstored, hstored, hschema]

/-- Tables that differ in their indexes alone have the same rows. -/
theorem holds_unindexed_unique {t t' : Table} (ht : t.unindexed = t'.unindexed) {rows rows' : List (List String)}
    (hrows : t.Holds rows) (hrows' : t'.Holds rows') : rows = rows' := by
  have heq : rows.map Cell.ofTexts = rows'.map Cell.ofTexts := by
    rw [← hrows.rows_eq, Table.rows_of_unindexed_eq ht, hrows'.rows_eq]
  exact List.map_injective_iff.2 (fun _ _ => Cell.ofTexts_injective) heq

/-- The answers of alike databases to a step. -/
def Agree (db db' : Database) (step : Step) : Prop :=
  (db.answer step).1 = (db'.answer step).1 ∧ Alike (db.answer step).2 (db'.answer step).2

/-- The same row is replaced in both databases, or it is refused in both. -/
theorem Alike.updateRow (h : Alike db db') (hdb : db.Consistent K) (hdb' : db'.Consistent K) (now : Timestamp)
    (name : String) (position : Int) (input : RowInput) : Agree db db' (.updateRow now name position input) := by
  have hself : ∀ db : Database, db.answer = (db.upon db.directory).answer := fun _ => rfl
  have hchecked := replacement_unindexed hdb now name position input
  rw [h.tables, replacement_unindexed hdb' now name position input, map_eq_map_iff] at hchecked
  rw [Agree, hself db, hself db']
  rcases hchecked with ⟨failure, hrefused', hrefused⟩ |
    ⟨⟨t', content', i', row'⟩, ⟨t, content, i, row⟩, hok', hok, hsame⟩
  · rw [updateRow_refused hrefused, updateRow_refused hrefused']
    exact ⟨rfl, h⟩
  · simp only [Prod.mk.injEq] at hsame
    obtain ⟨ht, -, rfl, rfl⟩ := hsame
    obtain ⟨rfl, -, rows, -, -, hrows, -, rfl, -⟩ := replacement_eq_ok hdb hok
    obtain ⟨-, -, rows', -, -, hrows', -, rfl, -⟩ := replacement_eq_ok hdb' hok'
    obtain rfl := holds_unindexed_unique ht.symm hrows hrows'
    rw [updateRow_made hok, updateRow_made hok']
    exact h.make (keyOf name) (storedTable_unindexed_congr ht.symm (rows.set i' row') now)

/-- The same row is deleted in both databases, or that is refused in both. -/
theorem Alike.deleteRow (h : Alike db db') (hdb : db.Consistent K) (hdb' : db'.Consistent K) (now : Timestamp)
    (name : String) (position : Int) : Agree db db' (.deleteRow now name position) := by
  have hself : ∀ db : Database, db.answer = (db.upon db.directory).answer := fun _ => rfl
  have hchecked := deletion_unindexed hdb name position
  rw [h.tables, deletion_unindexed hdb' name position, map_eq_map_iff] at hchecked
  rw [Agree, hself db, hself db']
  rcases hchecked with ⟨failure, hrefused', hrefused⟩ | ⟨⟨t', content', i'⟩, ⟨t, content, i⟩, hok', hok, hsame⟩
  · rw [deleteRow_refused hrefused, deleteRow_refused hrefused']
    exact ⟨rfl, h⟩
  · simp only [Prod.mk.injEq] at hsame
    obtain ⟨ht, -, rfl⟩ := hsame
    obtain ⟨rfl, -, rows, hrows, -, rfl⟩ := deletion_eq_ok hdb hok
    obtain ⟨-, -, rows', hrows', -, rfl⟩ := deletion_eq_ok hdb' hok'
    obtain rfl := holds_unindexed_unique ht.symm hrows hrows'
    rw [deleteRow_made hok, deleteRow_made hok']
    exact h.make (keyOf name) (storedTable_unindexed_congr ht.symm (rows.eraseIdx i') now)

end Database

end Relational
