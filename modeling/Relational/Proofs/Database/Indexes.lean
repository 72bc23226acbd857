import Relational.Proofs.Database.Reload
import Relational.Proofs.Database.StoredRows

/-!
# Indexes and the rows they stand for

In a table that was loaded every declared index is alive, and each index finds for a key exactly the rows that hold it,
in order, and nothing for a key with a NULL. The one way to a table without indexes is a failure to load its rows: the
table is there then, but nothing can be found in it.
-/

namespace Relational

open Text

namespace Table

/-- The indexes of a table stand for its rows. Every declared index is there. For a key without NULL each index finds
the positions of the rows with that key in ascending order, for another key none. So rows are found the same with an
index and without. -/
structure IndexesCoherent (t : Table) : Prop where
  live : ∀ declared ∈ t.schema.indexes, ∃ content index, t.content = some content ∧
    content.indexes.lookup (lower declared.1) = some index ∧ index.name = declared.1 ∧
    index.columns = declared.2.columns ∧ index.unique = declared.2.unique
  ascending : ∀ content, t.content = some content → ∀ entry ∈ content.indexes, ∀ key,
    (entry.2.search key).Pairwise (· < ·)
  mem_search : ∀ content, t.content = some content → ∀ entry ∈ content.indexes, ∀ key i,
    i ∈ entry.2.search key ↔ Index.hasNull key = false ∧ ∃ row, t.rows[i]? = some row ∧
      t.schema.cells entry.2.columns row = Cell.ofTexts key
  findRows : ∀ columns key, Index.hasNull key = false →
    t.findRows columns key = .ok (scan t.schema columns key t.rows)

end Table

/-! ## Declared indexes -/

namespace Schema

/-- A declared index takes the place of any other of its name. -/
theorem nodup_emptyIndexes {s : Schema} (hs : s.WellFormed) : ((s.indexes.map fun (name, spec) =>
    (lower name, Index.empty name spec.columns spec.unique)).reverse.map Prod.fst).Nodup := by
  have hdiffer := hs.indexNames.differ
  rw [List.map_map] at hdiffer
  rw [List.map_reverse, List.nodup_reverse, List.map_map]
  exact hdiffer

theorem lookup_emptyIndexes {s : Schema} (hs : s.WellFormed) {declared : String × IndexSpec}
    (h : declared ∈ s.indexes) : s.emptyIndexes.lookup (lower declared.1)
      = some (.empty declared.1 declared.2.columns declared.2.unique) := by
  have hfound := lookup_eq_some_of_mem (nodup_emptyIndexes hs) (List.mem_reverse.2 (List.mem_map_of_mem h))
  -- the declared indexes come last, so theirs are the entries that count
  rw [emptyIndexes, lookup_collectEntries, List.reverse_append, List.lookup_append, hfound]
  rfl

theorem lookup_contentOf (s : Schema) (rows : List (List String)) (key : String) :
    (s.contentOf rows).indexes.lookup key = (s.emptyIndexes.lookup key).map (s.filled rows) := by
  rw [contentOf]
  exact lookup_map_value _ _ _

end Schema

/-! ## Tables that were loaded -/

namespace Table

variable {t : Table} {rows : List (List String)}

/-- Indexes that are filled with the keys of the rows stand for the rows. -/
theorem Holds.indexesCoherent (h : t.Holds rows) (hs : t.schema.WellFormed) : t.IndexesCoherent := by
  have hsearch : ∀ content, t.content = some content → ∀ entry ∈ content.indexes, ∀ key,
      entry.2.search key = if Index.hasNull key then [] else scan t.schema entry.2.columns key t.rows := by
    intro content hcontent entry hentry key
    rw [h.content] at hcontent
    cases hcontent
    obtain ⟨source, -, rfl⟩ := List.mem_map.1 hentry
    cases hkey : Index.hasNull key with
    | true => rw [Index.search, if_pos hkey, if_pos rfl]
    | false =>
      dsimp only
      rw [search_filled _ _ _ hkey, h.rows_eq, Schema.filled, Index.columns_ofKeys, if_neg Bool.false_ne_true]
  constructor
  case live =>
    intro declared hdeclared
    have hfound : (t.schema.contentOf rows).indexes.lookup (lower declared.1)
        = some (t.schema.filled rows (.empty declared.1 declared.2.columns declared.2.unique)) := by
      rw [Schema.lookup_contentOf, Schema.lookup_emptyIndexes hs hdeclared, Option.map_some]
    exact ⟨_, _, h.content, hfound, by simp [Schema.filled, Index.empty]⟩
  case ascending =>
    intro content hcontent entry hentry key
    rw [hsearch content hcontent entry hentry key]
    split
    · exact .nil
    · exact scan_pairwise _ _ _ _
  case mem_search =>
    intro content hcontent entry hentry key i
    rw [hsearch content hcontent entry hentry key]
    cases Index.hasNull key with
    | true => simp
    | false => simp [Table.mem_scan]
  case findRows => exact fun columns key hkey => h.findRows columns hkey

/-- Nothing can be found in a table that was not loaded. -/
theorem IndexesCoherent.content_ne_none (h : t.IndexesCoherent) : t.content ≠ none := by
  intro hnone
  have hfound := h.findRows [] [] rfl
  rw [Table.findRows, Table.loaded, hnone] at hfound
  simp at hfound

end Table

namespace Database

/-- In every database that is reached, the indexes of all tables stand for their rows exactly if every table was
loaded. -/
theorem Reachable.indexesCoherent_iff {db : Database} (h : db.Reachable) :
    (∀ entry ∈ db.tables, entry.2.IndexesCoherent) ↔ ∀ entry ∈ db.tables, entry.2.content ≠ none := by
  constructor
  · exact fun hcoherent entry hentry => (hcoherent entry hentry).content_ne_none
  · intro hloaded entry hentry
    have hfit := h.consistent.fit entry hentry
    obtain ⟨content, hcontent⟩ := Option.ne_none_iff_exists'.1 (hloaded entry hentry)
    obtain ⟨rows, hrows, -⟩ := hfit.rows content hcontent
    exact hrows.indexesCoherent hfit.wellFormed

namespace Label

/-- A table of labels with an index on their kinds. -/
def indexed : Schema :=
  { schema with indexes := [("by_kind", ⟨["kind"], false⟩)] }

theorem indexed_declared : indexed.Declared := by
  have hadded : schema.addIndex "by_kind" ["kind"] false = .ok indexed := by decide +kernel
  exact declared.addIndex hadded

/-- A database with one label and an index on the kinds. -/
def catalogue : Database :=
  (((empty none).addTable moment indexed).2.insertRow moment "label" (.cells [" 007 ", "x"])).2

theorem catalogue_reachable : catalogue.Reachable :=
  ((Reachable.empty none).move (.addTable moment indexed_declared ⟨rfl, by decide⟩)).move
    (.insertRow moment "label" (.cells [" 007 ", "x"]))

end Label

/-- The index on the kinds stands for the label, since its table was loaded. -/
theorem label_indexes_coherent : ∃ entry ∈ Label.catalogue.tables,
    entry.2.schema.indexes = [("by_kind", ⟨["kind"], false⟩)] ∧ entry.2.rows = [[.text "7", .text "x"]] ∧
      entry.2.IndexesCoherent := by
  have hloaded : ∀ entry ∈ Label.catalogue.tables, entry.2.content ≠ none := by decide +kernel
  have hcoherent := Label.catalogue_reachable.indexesCoherent_iff.2 hloaded
  obtain ⟨entry, hentry, hindexes, hrows⟩ : ∃ entry ∈ Label.catalogue.tables,
      entry.2.schema.indexes = [("by_kind", ⟨["kind"], false⟩)] ∧ entry.2.rows = [[.text "7", .text "x"]] := by
    decide +kernel
  exact ⟨entry, hentry, hindexes, hrows, hcoherent entry hentry⟩

/-! ## An index that is lost -/

open Storage (filesOf rowsFile schemaFile)

/-- The first table that is written to an empty directory. -/
theorem addTable_empty (path : String) (now : Timestamp) (s : Schema) :
    (empty (some (.empty path))).addTable now s = (.ok (), ⟨[(keyOf s.name, storedTable s [] now)],
      some ⟨path, filesOf (stamped s [] now) [], []⟩⟩) := by
  have hne : (rowsFile s.name == schemaFile s.name) = false :=
    beq_eq_false_iff_ne.2 (Storage.schemaFile_ne_rowsFile s.name).symm
  have hrows := (Directory.Accessible.empty path).set (rowsFile s.name) (Storage.rowsJson (stamped s [] now) []).print
  have hsaved : Storage.save (stamped s [] now) [] (.empty path)
      = (.ok (), ⟨path, filesOf (stamped s [] now) [], []⟩) := by
    simp only [Storage.save, Storage.andThen, Storage.writeDocument, stamped_name,
      (Directory.Accessible.empty path).write?, hrows.write?]
    simp [Directory.empty, setEntry, hne, filesOf]
  have hnew : (empty (some (.empty path))).hasTable s.name = false := rfl
  rw [addTable, if_neg (by simp [hnew])]
  simp only [Database.persist, empty, hsaved, Schema.noContent_eq]
  rfl

/-- A table of which only the definition can be read is there, but was not loaded. -/
theorem loadTables_folder {d : Directory} {now : Timestamp} (hd : (d.entries.map Prod.fst).Nodup) {s : Schema}
    (hs : s.WellFormed) (husual : s.Usual) (hfile : (schemaFile s.name, .file s.toJson.print) ∈ d.entries)
    (hfolder : (rowsFile s.name, .folder) ∈ d.entries) (names : List String) (db : Database) :
    (loadTables now d (s.name :: names) db).2 = db.setTable (keyOf s.name) ⟨s, none⟩ := by
  have hrows : Storage.loadRows d s = Storage.inaccessible d (rowsFile s.name) := Storage.loadRows_folder hd hfolder
  rw [loadTables, Storage.loadSchema_eq hd hs husual hfile]
  simp only [hrows, Storage.inaccessible, refuse]

/-- The directory of one table without rows, where a folder has taken the place of the rows. -/
def obstructed (s : Schema) (now : Timestamp) : Directory :=
  (⟨"data", filesOf (stamped s [] now) [], []⟩ : Directory).addFolder (rowsFile s.name)

/-- A database that was asked to load the table from there. -/
def unread (s : Schema) (now : Timestamp) : Database :=
  { (loadAll ⟨[(keyOf s.name, storedTable s [] now)], some (obstructed s now)⟩ now).2 with
    directory := some (obstructed s now) }

theorem nodup_files (s : Schema) : [rowsFile s.name, schemaFile s.name].Nodup := by
  simpa using (Storage.schemaFile_ne_rowsFile s.name).symm

theorem obstructed_entries (s : Schema) (now : Timestamp) : (obstructed s now).entries
    = [(rowsFile s.name, .folder), (schemaFile s.name, .file (stamped s [] now).toJson.print)] := by
  simp [obstructed, Directory.addFolder, filesOf, setEntry]

theorem unread_reachable {s : Schema} {now : Timestamp} (hdeclared : s.Declared) (hregular : s.Regular) :
    (unread s now).Reachable := by
  have hadded : ((empty (some (.empty "data"))).addTable now s).2.Reachable :=
    (Reachable.empty (some "data")).move (.addTable now hdeclared hregular)
  rw [addTable_empty] at hadded
  have hremains := Directory.remains_addFolder (d := ⟨"data", filesOf (stamped s [] now) [], []⟩) (nodup_files s)
    (rowsFile s.name)
  exact (hadded.move (.lose rfl hremains)).move (.loadAll rfl (.refl hremains.nodup) now)

/-- Loading stops at the table, after its definition was read. -/
theorem tables_unread {s : Schema} {now : Timestamp} (hs : s.WellFormed) (husual : (stamped s [] now).Usual)
    (htables : [rowsFile s.name, schemaFile s.name].filterMap Storage.tableOf? = [s.name]) :
    (unread s now).tables = [(keyOf s.name, ⟨stamped s [] now, none⟩)] := by
  have hentries := obstructed_entries s now
  have hnodup : ((obstructed s now).entries.map Prod.fst).Nodup := by
    rw [hentries]
    exact nodup_files s
  have hnames : Storage.tables (obstructed s now) = [s.name] := by
    rw [Storage.tables, hentries, List.map_cons, List.map_singleton, htables, List.mergeSort_singleton]
  have hloaded : (loadTables now (obstructed s now) [s.name] (empty (some (obstructed s now)))).2
      = (empty (some (obstructed s now))).setTable (keyOf s.name) ⟨stamped s [] now, none⟩ :=
    loadTables_folder hnodup (stamped_wellFormed hs [] now) husual (by simp [hentries]) (by simp [hentries]) [] _
  simp only [unread, loadAll, hnames, hloaded]
  rfl

namespace Label

/-- The table of labels as it is stored without rows. -/
def definition : Schema :=
  stamped indexed [] moment

/-- A directory in which a folder stands in the place of the rows of the table. -/
def directory : Directory :=
  (⟨"data", filesOf definition [], []⟩ : Directory).addFolder (rowsFile "label")

/-- A database that was asked to load its tables from there. -/
def reloaded : Database :=
  { (loadAll ⟨[("label", storedTable indexed [] moment)], some directory⟩ moment).2 with directory := some directory }

theorem reloaded_reachable : reloaded.Reachable :=
  unread_reachable indexed_declared ⟨rfl, by decide⟩

theorem definition_usual : definition.Usual := by
  refine ⟨rfl, by decide, ?_, ?_⟩
  · exact ⟨by decide, by decide, by decide, by decide, by decide, by decide⟩
  · exact ⟨by decide, by decide, by decide, by decide, by decide, by decide⟩

theorem tables_reloaded : reloaded.tables = [("label", ⟨definition, none⟩)] :=
  tables_unread indexed_declared.wellFormed definition_usual (by decide +kernel)

end Label

/-- The table is there with the declaration of the index, but without the index. -/
theorem label_index_lost : Label.reloaded.Reachable ∧ ∃ entry ∈ Label.reloaded.tables,
    entry.2.schema.indexes = [("by_kind", ⟨["kind"], false⟩)] ∧ ¬ entry.2.IndexesCoherent := by
  refine ⟨Label.reloaded_reachable, ("label", ⟨Label.definition, none⟩), ?_, rfl, ?_⟩
  · rw [Label.tables_reloaded]
    exact .head _
  · exact fun hcoherent => hcoherent.content_ne_none rfl

end Database

end Relational
