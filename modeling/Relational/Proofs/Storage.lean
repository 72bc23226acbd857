import Relational.Proofs.Entries
import Relational.Proofs.Schema.Document
import Relational.Storage

/-!
# Files of tables

What is written of a table reads back: its rows and its definition. The files of two tables are different files, and
the file of rows is not taken for a definition, as long as the name of no table ends in `_schema`. In a directory in
which every access succeeds, writing a table replaces its two files and touches no other.
-/

namespace Relational

open Text

namespace Storage

/-! ## Rows -/

/-- Cells are found by the names beside which they stand, in whatever order. -/
theorem arrange_of_perm {α : Type} (missing : α) {names : List String} (hnames : (names.map lower).Nodup)
    {cells : List α}
    (hlength : cells.length = names.length) {entries : List (String × α)} (hentries : entries.Perm (names.zip cells)) :
    arrange missing names entries = cells := by
  rw [arrange]
  generalize hfound : entries.reverse.map (fun entry => (lower entry.1, entry.2)) = found
  have hperm : found.Perm ((names.zip cells).map fun entry => (lower entry.1, entry.2)) := by
    subst hfound
    exact (entries.reverse_perm.trans hentries).map _
  -- every name is there once, so the last cell under a name is the only one
  have hkeys : (found.map Prod.fst).Nodup := by
    rw [(hperm.map Prod.fst).nodup_iff, List.map_map]
    show ((names.zip cells).map (lower ∘ Prod.fst)).Nodup
    rwa [← List.map_map, List.map_fst_zip (Nat.le_of_eq hlength.symm)]
  apply List.ext_getElem
  · simp [hlength]
  · intro i hi hi'
    have hname : i < names.length := by simpa using hi
    have hmem : (lower names[i], cells[i]) ∈ found := by
      rw [hperm.mem_iff]
      refine List.mem_map.2 ⟨(names[i], cells[i]), ?_, rfl⟩
      exact List.mem_iff_getElem.2 ⟨i, by simpa [hlength] using hname, List.getElem_zip⟩
    rw [List.getElem_map, lookup_eq_some_of_mem hkeys hmem]
    rfl

/-- An object with the text of every column, its entries in any order. -/
def RowObject (names : List String) (row : List String) (document : Json) : Prop :=
  ∃ entries, document = .object entries ∧ entries.Perm (names.zip (row.map .text))

/-- A document of rows, the entries of each row in any order. -/
def RowsDocument (s : Schema) (rows : List (List String)) (document : Json) : Prop :=
  ∃ objects, List.Forall₂ (RowObject s.columnNames) rows objects ∧
    document = .object [("tableName", .text s.name), ("rowCount", .int rows.length), ("rows", .list objects)]

section Rows

variable {s : Schema} {names row : List String} {rows : List (List String)} {document : Json}

/-- A row is written with its entries in the order of the columns. -/
theorem rowObject_rowJson (names row : List String) : RowObject names row (rowJson names (Cell.ofTexts row)) := by
  refine ⟨_, rfl, ?_⟩
  have hcells : (Cell.ofTexts row).map Cell.toJson = row.map .text := by
    rw [Cell.ofTexts, List.map_map]
    rfl
  rw [← hcells, List.zip_map_right]
  exact .refl _

theorem rowsDocument_rowsJson (s : Schema) (rows : List (List String)) :
    RowsDocument s rows (rowsJson s (rows.map Cell.ofTexts)) := by
  refine ⟨(rows.map Cell.ofTexts).map (rowJson s.columnNames), ?_, by rw [rowsJson, List.length_map]⟩
  rw [List.map_map, List.forall₂_map_right_iff, List.forall₂_same]
  exact fun row _ => rowObject_rowJson s.columnNames row

theorem RowObject.readRow (h : RowObject names row document) (hnames : (names.map lower).Nodup)
    (hlength : row.length = names.length) : readRow names document = .ok (Cell.ofTexts row) := by
  obtain ⟨entries, rfl, hperm⟩ := h
  have harranged : arrange (.text nullText) names entries = row.map Json.text :=
    arrange_of_perm _ hnames (by simpa using hlength) hperm
  rw [Storage.readRow, Json.entries, ok_bind, harranged, List.map_map]
  rfl

theorem RowObject.plain (h : RowObject names row document) (hnames : names.Nodup)
    (hlength : row.length = names.length) : document.Plain := by
  obtain ⟨entries, rfl, hperm⟩ := h
  refine .object ?_ fun entry hentry => ?_
  · rw [(hperm.map Prod.fst).nodup_iff, List.map_fst_zip (by simpa using Nat.le_of_eq hlength.symm)]
    exact hnames
  · obtain ⟨text, -, htext⟩ := List.mem_map.1 (List.of_mem_zip (hperm.subset hentry)).2
    rw [← htext]
    exact .text text

/-- Rows of texts, each as wide as the table, are read from every document of them. -/
theorem RowsDocument.readRows (h : RowsDocument s rows document) (hs : s.ColumnsDiffer)
    (hwide : ∀ row ∈ rows, row.length = s.columns.length) :
    readRows s.columnNames document = .ok (rows.map Cell.ofTexts) := by
  obtain ⟨objects, hobjects, rfl⟩ := h
  have hrows : Json.fieldOr "rows" Json.items [] (.object [("tableName", .text s.name), ("rowCount", .int rows.length),
      ("rows", .list objects)]) = .ok objects := rfl
  rw [Storage.readRows, hrows, ok_bind, mapM_eq_ok, List.forall₂_map_right_iff]
  clear hrows
  induction hobjects with
  | nil => exact .nil
  | cons hobject hobjects ih =>
    rw [List.forall_mem_cons] at hwide
    exact .cons (hobject.readRow hs.nodup_columnNames (by simpa [Schema.columnNames] using hwide.1)) (ih hwide.2)

theorem RowsDocument.plain (h : RowsDocument s rows document) (hs : s.ColumnsDiffer)
    (hwide : ∀ row ∈ rows, row.length = s.columns.length) : document.Plain := by
  obtain ⟨objects, hobjects, rfl⟩ := h
  have hrows : ∀ object ∈ objects, object.Plain := by
    induction hobjects with
    | nil => simp
    | cons hobject hobjects ih =>
      rw [List.forall_mem_cons] at hwide ⊢
      refine ⟨hobject.plain (hs.nodup_columnNames.of_map _) ?_, ih hwide.2⟩
      simpa [Schema.columnNames] using hwide.1
  refine .object (by simp) ?_
  simp only [List.forall_mem_cons]
  exact ⟨.text _, .int _, .list hrows, by simp⟩

theorem readRows_rowsJson (hs : s.ColumnsDiffer) (hwide : ∀ row ∈ rows, row.length = s.columns.length) :
    readRows s.columnNames (rowsJson s (rows.map Cell.ofTexts)) = .ok (rows.map Cell.ofTexts) :=
  (rowsDocument_rowsJson s rows).readRows hs hwide

theorem rowsJson_plain (hs : s.ColumnsDiffer) (hwide : ∀ row ∈ rows, row.length = s.columns.length) :
    (rowsJson s (rows.map Cell.ofTexts)).Plain :=
  (rowsDocument_rowsJson s rows).plain hs hwide

end Rows

/-! ## Names of files -/

/-- The name ends in `_schema`: then the file of the rows has the name of a definition. -/
def Misnamed (table : String) : Prop :=
  "_schema".toList <:+ table.toList

instance (table : String) : Decidable (Misnamed table) :=
  inferInstanceAs (Decidable ("_schema".toList <:+ table.toList))

theorem schemaFile_inj {table table' : String} : schemaFile table = schemaFile table' ↔ table = table' := by
  simp [schemaFile, ← String.toList_inj]

theorem rowsFile_inj {table table' : String} : rowsFile table = rowsFile table' ↔ table = table' := by
  simp [rowsFile, ← String.toList_inj]

theorem schemaSuffix_toList : schemaSuffix.toList = "_schema".toList ++ rowsSuffix.toList := by
  decide

/-- The rows of one table are kept where the definition of another would be. -/
theorem misnamed_iff {table : String} : Misnamed table ↔ ∃ other, rowsFile table = schemaFile other := by
  constructor
  · rintro ⟨cs, hcs⟩
    refine ⟨String.ofList cs, ?_⟩
    rw [← String.toList_inj, rowsFile, schemaFile, String.toList_append, String.toList_append, String.toList_ofList,
      schemaSuffix_toList, ← hcs, List.append_assoc]
  · rintro ⟨other, hother⟩
    refine ⟨other.toList, ?_⟩
    rw [← String.toList_inj, rowsFile, schemaFile, String.toList_append, String.toList_append, schemaSuffix_toList,
      ← List.append_assoc, List.append_cancel_right_eq] at hother
    exact hother.symm

theorem schemaFile_ne_rowsFile (table : String) : schemaFile table ≠ rowsFile table := by
  intro heq
  have hlength := congrArg String.length heq
  simp only [schemaFile, rowsFile, String.length_append, Nat.add_left_cancel_iff] at hlength
  exact absurd hlength (by decide)

/-- A file is that of the definition of a table exactly if the table is read off its name. -/
theorem tableOf?_eq_some_iff {file table : String} : tableOf? file = some table ↔ file = schemaFile table := by
  simp only [tableOf?]
  split
  · rename_i hsuffix
    obtain ⟨cs, hcs⟩ := List.isSuffixOf_iff_suffix.1 hsuffix
    rw [Option.some.injEq, ← hcs, List.length_append, Nat.add_sub_cancel, List.take_left, ← String.toList_inj,
      String.toList_ofList, ← String.toList_inj, schemaFile, String.toList_append, ← hcs, List.append_cancel_right_eq]
  · rename_i hsuffix
    refine iff_of_false (by simp) ?_
    rintro rfl
    rw [schemaFile, String.toList_append] at hsuffix
    exact hsuffix (List.isSuffixOf_iff_suffix.2 (List.suffix_append _ _))

end Storage

/-! ## Directories -/

namespace Directory

variable {d : Directory}

/-- Every access succeeds: none is refused, and no folder is in the way. -/
structure Accessible (d : Directory) : Prop where
  refused : d.refused = []
  nodup : (d.entries.map Prod.fst).Nodup
  files : ∀ entry ∈ d.entries, entry.2 ≠ .folder

theorem Accessible.empty (path : String) : (Directory.empty path).Accessible :=
  ⟨rfl, List.nodup_nil, fun _ h => (List.not_mem_nil h).elim⟩

theorem Accessible.entry?_eq_some_iff (h : d.Accessible) {name : String} {entry : DirectoryEntry} :
    d.entry? name = some entry ↔ (name, entry) ∈ d.entries :=
  lookup_eq_some_iff_mem h.nodup

theorem Accessible.isFolder (h : d.Accessible) (name : String) : d.isFolder name = false := by
  rw [Directory.isFolder, beq_eq_false_iff_ne]
  intro hfolder
  exact h.files _ (h.entry?_eq_some_iff.1 hfolder) rfl

theorem Accessible.write? (h : d.Accessible) (name text : String) :
    d.write? name text = some { d with entries := setEntry name (.file text) d.entries } := by
  rw [Directory.write?, h.isFolder, h.refused]
  rfl

theorem Accessible.set (h : d.Accessible) (name text : String) :
    ({ d with entries := setEntry name (.file text) d.entries } : Directory).Accessible := by
  refine ⟨h.refused, nodup_setEntry h.nodup, ?_⟩
  rintro ⟨file, entry⟩ hentry
  rcases (mem_setEntry h.nodup).1 hentry with ⟨-, rfl⟩ | ⟨-, hmem⟩
  · simp
  · exact h.files _ hmem

theorem Accessible.remove? (h : d.Accessible) (name : String) :
    d.remove? name = some { d with entries := removeEntry name d.entries } := by
  have hallowed : d.refused.contains (.remove, name) = false := by rw [h.refused]; rfl
  rw [Directory.remove?, h.isFolder, hallowed]
  split
  · rfl
  · -- there is nothing to remove
    rename_i hnone
    have hmissing : d.entries.lookup name = none := Option.not_isSome_iff_eq_none.1 hnone
    rw [removeEntry_of_not_mem (not_mem_of_lookup_eq_none hmissing)]

theorem Accessible.erase (h : d.Accessible) (name : String) :
    ({ d with entries := removeEntry name d.entries } : Directory).Accessible :=
  ⟨h.refused, nodup_removeEntry h.nodup, fun entry hentry => h.files entry ((removeEntry_sublist _ _).subset hentry)⟩

end Directory

namespace Storage

variable {d : Directory}

/-- The two files of a table. -/
def filesOf (s : Schema) (rows : List (List Cell)) : List (String × DirectoryEntry) :=
  [(rowsFile s.name, .file (rowsJson s rows).print), (schemaFile s.name, .file s.toJson.print)]

/-- Writing a table puts its two files in the place of those that were there. -/
theorem save_eq (h : d.Accessible) (s : Schema) (rows : List (List Cell)) :
    ∃ d', save s rows d = (.ok (), d') ∧ d'.Accessible ∧ ∀ entry, entry ∈ d'.entries ↔
      entry ∈ filesOf s rows ∨ entry.1 ≠ rowsFile s.name ∧ entry.1 ≠ schemaFile s.name ∧ entry ∈ d.entries := by
  have hrows := h.set (rowsFile s.name) (rowsJson s rows).print
  refine ⟨_, ?_, hrows.set (schemaFile s.name) s.toJson.print, ?_⟩
  · simp only [save, andThen, writeDocument, h.write?, hrows.write?]
  · rintro ⟨file, entry⟩
    have hne := schemaFile_ne_rowsFile s.name
    simp only [mem_setEntry hrows.nodup, mem_setEntry h.nodup, filesOf, List.mem_cons, Prod.mk.injEq, List.not_mem_nil,
      or_false]
    grind

/-- Removing a table removes its two files. -/
theorem delete_eq (h : d.Accessible) (table : String) :
    ∃ d', delete table d = (.ok (), d') ∧ d'.Accessible ∧ ∀ entry, entry ∈ d'.entries ↔
      entry.1 ≠ rowsFile table ∧ entry.1 ≠ schemaFile table ∧ entry ∈ d.entries := by
  have hschema := h.erase (schemaFile table)
  refine ⟨_, ?_, hschema.erase (rowsFile table), ?_⟩
  · simp only [delete, andThen, removeFile, h.remove?, hschema.remove?]
  · rintro ⟨file, entry⟩
    simp only [mem_removeEntry hschema.nodup, mem_removeEntry h.nodup, ne_eq]

/-! ## The file of the rows

The rows of a table are read from their file as they were written, and also from any file that holds the same entries
for each row in another order: a cell is found by the name of its column, not by its place. -/

section RowFile

variable {s : Schema} {rows : List (List String)} {document : Json} {d d' : Directory}

/-- Rows are read from every text of a document of them. -/
theorem RowsDocument.loadRows (h : RowsDocument s rows document) (hs : s.ColumnsDiffer)
    (hwide : ∀ row ∈ rows, row.length = s.columns.length) {text : String}
    (hread : d.read? (rowsFile s.name) = some text) (hparse : Json.parse? text = some document) :
    loadRows d s = .ok (rows.map Cell.ofTexts) := by
  have hexists : d.exists? (rowsFile s.name) = true := by
    unfold Directory.read? at hread
    split at hread
    · rename_i hentry
      rw [Directory.exists?, hentry]
      rfl
    · cases hread
  rw [Storage.loadRows]
  simp only [hexists, if_true, readDocument, hread, Option.bind_some, hparse]
  exact h.readRows hs hwide

end RowFile

end Storage

end Relational
