import Mathlib.Data.List.Perm.Basic
import Relational.Proofs.Database.Files

/-!
# Databases built again

A database that is built on the directory of a stored one has the same tables. A directory in which the rows of a
misnamed table stand makes no database: there they are taken for the definition of a table, and have no name.
-/

namespace Relational

open Storage (filesOf rowsFile schemaFile Misnamed)

/-! ## Reading the files of a table -/

namespace Storage

variable {d : Directory} {now : Timestamp}

theorem readDocument_eq (hd : (d.entries.map Prod.fst).Nodup) {file : String} {document : Json}
    (hplain : document.Plain) (hfile : (file, .file document.print) ∈ d.entries) : readDocument d file = .ok document := by
  rw [readDocument, Directory.read?, Directory.entry?, lookup_eq_some_of_mem hd hfile]
  simp only [Option.bind_some, hplain.parse?_print]

theorem exists?_of_mem (hd : (d.entries.map Prod.fst).Nodup) {file : String} {entry : DirectoryEntry}
    (hfile : (file, entry) ∈ d.entries) : d.exists? file = true := by
  rw [Directory.exists?, Directory.entry?, lookup_eq_some_of_mem hd hfile]
  rfl

theorem loadSchema_eq (hd : (d.entries.map Prod.fst).Nodup) {s : Schema} (hs : s.WellFormed) (husual : s.Usual)
    (hfile : (schemaFile s.name, .file s.toJson.print) ∈ d.entries) : loadSchema now d s.name = .ok (some s) := by
  simp only [loadSchema, exists?_of_mem hd hfile, if_true,
    readDocument_eq hd (Schema.toJson_plain hs husual.regular) hfile, ok_bind, Schema.ofJson_toJson hs husual]
  rfl

theorem loadRows_eq (hd : (d.entries.map Prod.fst).Nodup) {s : Schema} (hs : s.ColumnsDiffer)
    {rows : List (List String)} (hwide : ∀ row ∈ rows, row.length = s.columns.length)
    (hfile : (rowsFile s.name, .file (rowsJson s (rows.map Cell.ofTexts)).print) ∈ d.entries) :
    loadRows d s = .ok (rows.map Cell.ofTexts) := by
  simp only [loadRows, exists?_of_mem hd hfile, if_true, readDocument_eq hd (rowsJson_plain hs hwide) hfile, ok_bind,
    readRows_rowsJson hs hwide]

/-- Rows cannot be read if a folder stands in their place. -/
theorem loadRows_folder (hd : (d.entries.map Prod.fst).Nodup) {s : Schema}
    (hfolder : (rowsFile s.name, .folder) ∈ d.entries) : loadRows d s = inaccessible d (rowsFile s.name) := by
  have hread : readDocument d (rowsFile s.name) = inaccessible d (rowsFile s.name) := by
    rw [readDocument, Directory.read?, Directory.entry?, lookup_eq_some_of_mem hd hfolder]
    rfl
  simp only [loadRows, exists?_of_mem hd hfolder, if_true, hread]
  rfl

/-- Rows are no definition. -/
theorem loadSchema_rowsJson (hd : (d.entries.map Prod.fst).Nodup) {s : Schema} {rows : List (List Cell)}
    (hplain : (rowsJson s rows).Plain) {table : String}
    (hfile : (schemaFile table, .file (rowsJson s rows).print) ∈ d.entries) {loaded : Option Schema} :
    loadSchema now d table ≠ .ok loaded := by
  have hname : Schema.ofJson now (rowsJson s rows) = fail (.missingKey "name") := rfl
  simp only [loadSchema, exists?_of_mem hd hfile, if_true, readDocument_eq hd hplain hfile, ok_bind, hname]
  exact fun heq => by cases heq

end Storage

namespace Database

variable {db db' : Database} {d : Directory} {now : Timestamp}

/-! ## Loading tables -/

/-- The files of a table stand in the directory. -/
def Loads (d : Directory) (entry : String × Table) : Prop :=
  keyOf entry.2.schema.name = entry.1 ∧ entry.2.schema.WellFormed ∧ entry.2.schema.Usual ∧
    ∃ rows, entry.2.Holds rows ∧ filesOf entry.2.schema (rows.map Cell.ofTexts) ⊆ d.entries

/-- Tables whose files are there are loaded one after another. -/
theorem loadTables_eq (hd : (d.entries.map Prod.fst).Nodup) {entries : List (String × Table)}
    (hentries : ∀ entry ∈ entries, Loads d entry) (hnodup : ((db.tables ++ entries).map Prod.fst).Nodup) :
    loadTables now d (entries.map fun entry => entry.2.schema.name) db
      = (.ok (), { db with tables := db.tables ++ entries }) := by
  induction entries generalizing db with
  | nil => simp [loadTables]
  | cons entry entries ih =>
    obtain ⟨key, t⟩ := entry
    obtain ⟨hkey, hs, husual, rows, hrows, hfiles⟩ := hentries (key, t) (by simp)
    dsimp only at hkey hs husual hrows hfiles
    have hschema : Storage.loadSchema now d t.schema.name = .ok (some t.schema) :=
      Storage.loadSchema_eq hd hs husual (hfiles (by simp [filesOf]))
    have hloaded : Storage.loadRows d t.schema = .ok (rows.map Cell.ofTexts) :=
      Storage.loadRows_eq hd hs.columnsDiffer hrows.wide (hfiles (by simp [filesOf]))
    have hcontent := Schema.withRows_noContent t.schema rows
    -- no table that was loaded before stands under the key, so this one is put last
    have hnew : key ∉ db.tables.map Prod.fst := by
      intro hmem
      rw [List.map_append, List.nodup_append] at hnodup
      exact hnodup.2.2 key hmem key (by simp) rfl
    have hset : db.setTable key t = { db with tables := db.tables ++ [(key, t)] } := by
      rw [Database.setTable, setEntry_of_not_mem hnew]
    have ht : (⟨t.schema, some (t.schema.contentOf rows)⟩ : Table) = t := by rw [← hrows.content]
    simp only [List.map_cons, loadTables, hschema, hloaded, hcontent, hkey, ht, hset]
    rw [ih (fun e he => hentries e (List.mem_cons_of_mem _ he)) (by simpa using hnodup)]
    simp

/-- If loading succeeds, every definition could be read. -/
theorem loadTables_ok {names : List String} (h : (loadTables now d names db).1 = .ok ()) {name : String}
    (hname : name ∈ names) : ∃ s, Storage.loadSchema now d name = .ok s := by
  induction names generalizing db with
  | nil => cases hname
  | cons other names ih =>
    rw [loadTables] at h
    rcases List.mem_cons.1 hname with rfl | hname
    · cases hs : Storage.loadSchema now d name with
      | ok s => exact ⟨s, rfl⟩
      | error failure =>
        rw [hs] at h
        cases h
    · split at h
      · cases h
      · exact ih h hname
      · split at h
        · cases h
        · split at h
          · cases h
          · exact ih h hname

/-! ## The tables of a directory -/

/-- The names of the tables are those of the definitions in the directory. -/
theorem Stored.tables_perm (h : db.Stored) (hmirrors : Mirrors d db.tables) :
    (Storage.tables d).Perm (db.tables.map fun entry => entry.2.schema.name) := by
  refine (List.mergeSort_perm _ _).trans ((List.perm_ext_iff_of_nodup ?_ ?_).2 fun name => ?_)
  · refine hmirrors.accessible.nodup.filterMap fun file file' name hname hname' => ?_
    rw [Option.mem_def, Storage.tableOf?_eq_some_iff] at hname hname'
    exact hname.trans hname'.symm
  · -- already the keys, which are the names in small letters, differ
    have hkeys : (db.tables.map fun entry => entry.2.schema.name).map keyOf = db.tables.map Prod.fst := by
      rw [List.map_map]
      exact List.map_congr_left fun entry hentry => h.sound.keyed entry hentry
    refine List.Nodup.of_map keyOf ?_
    rw [hkeys]
    exact h.sound.nodup
  · simp only [List.mem_filterMap, List.mem_map, Storage.tableOf?_eq_some_iff]
    constructor
    · rintro ⟨_, ⟨file, hfile, rfl⟩, hname⟩
      obtain ⟨entry, hentry, hmem⟩ := (hmirrors.mem_iff file).1 hfile
      refine ⟨entry, hentry, ?_⟩
      rcases mem_filesOf_name hmem with heq | heq
      · exact absurd (Storage.misnamed_iff.2 ⟨name, heq ▸ hname⟩) (h.named entry hentry)
      · exact Storage.schemaFile_inj.1 (heq ▸ hname)
    · rintro ⟨entry, hentry, rfl⟩
      have hfile : (schemaFile entry.2.schema.name, .file entry.2.schema.toJson.print) ∈ d.entries :=
        (hmirrors.mem_iff _).2 ⟨entry, hentry, by simp [filesOf]⟩
      exact ⟨_, ⟨_, hfile, rfl⟩, rfl⟩

/-- A database that is built on the directory has the same tables, perhaps in another order: each with the same
definition, the same rows in the same order, and the same entries in its indexes. -/
def Reloads (db : Database) : Prop :=
  ∃ d, db.directory = some d ∧ ∀ now, ∃ db', ofDirectory d now = .ok db' ∧ db'.tables.Perm db.tables

theorem Stored.reloads (h : db.Stored) : db.Reloads := by
  obtain ⟨d, hd, hmirrors⟩ := h.mirrored
  refine ⟨d, hd, fun now => ?_⟩
  -- the tables in the order in which they are loaded
  obtain ⟨entries, hnames, hperm⟩ : ∃ entries : List (String × Table),
      Storage.tables d = entries.map (fun entry => entry.2.schema.name) ∧ entries.Perm db.tables :=
    (congrFun₂ (List.eq_map_comp_perm _) _ _).mpr (h.tables_perm hmirrors)
  have hentries : ∀ entry ∈ entries, Loads d entry := by
    intro entry hentry
    have hmem := hperm.mem_iff.1 hentry
    obtain ⟨rows, hrows⟩ := h.sound.holds hmem
    refine ⟨h.sound.keyed entry hmem, (h.sound.tables entry hmem).wellFormed, h.usual entry hmem, rows, hrows, ?_⟩
    intro file hfile
    rw [← hrows.rows_eq] at hfile
    exact (hmirrors.mem_iff file).2 ⟨entry, hmem, hfile⟩
  have hnodup : (((Database.empty (some d)).tables ++ entries).map Prod.fst).Nodup :=
    (hperm.map Prod.fst).nodup_iff.2 h.sound.nodup
  refine ⟨⟨entries, some d⟩, ?_, hperm⟩
  have hloaded : loadAll (Database.empty (some d)) now = (.ok (), ⟨entries, some d⟩) := by
    show loadTables now d (Storage.tables d) (Database.empty (some d)) = _
    rw [hnames]
    exact loadTables_eq hmirrors.accessible.nodup hentries hnodup
  rw [ofDirectory, hloaded]

/-! ## Misnamed tables -/

/-- A directory that makes a database holds no definition that cannot be read. -/
theorem ofDirectory_ok (h : ofDirectory d now = .ok db) {table : String} {entry : DirectoryEntry}
    (hfile : (schemaFile table, entry) ∈ d.entries) : ∃ s, Storage.loadSchema now d table = .ok s := by
  have hloaded : (loadTables now d (Storage.tables d) (Database.empty (some d))).1 = .ok () := by
    rw [ofDirectory, loadAll] at h
    split at h
    · rename_i hload
      exact congrArg Prod.fst hload
    · cases h
  refine loadTables_ok hloaded (List.mem_mergeSort.2 (List.mem_filterMap.2 ⟨_, List.mem_map_of_mem hfile, ?_⟩))
  exact Storage.tableOf?_eq_some_iff.2 rfl

theorem Stored.addTable_eq (h : db.Stored) (now : Timestamp) {s : Schema} (hnew : db.hasTable s.name = false) :
    ∃ d, (db.addTable now s).2
        = ({ db with directory := some d } : Database).setTable (keyOf s.name) (storedTable s [] now) ∧
      d.Accessible ∧ filesOf (stamped s [] now) [] ⊆ d.entries := by
  obtain ⟨d, d', -, -, hpersist, haccessible, hmem⟩ := h.persist_eq (stamped s [] now) []
  refine ⟨d', ?_, haccessible, fun file hfile => (hmem file).2 (.inl hfile)⟩
  rw [addTable, if_neg (by simp [hnew])]
  simp only [hpersist, Schema.noContent_eq]
  rfl

/-- A misnamed table that is added to a stored database is taken for a definition that cannot be read. -/
theorem Stored.misnamed (h : db.Stored) {s : Schema} (hdeclared : s.Declared) (hnew : db.hasTable s.name = false)
    (hs : Misnamed s.name) : ¬ (db.addTable now s).2.Reloads ∧
      ∃ entry ∈ (db.addTable now s).2.tables, Misnamed entry.2.schema.name := by
  obtain ⟨d, hadded, haccessible, hfiles⟩ := h.addTable_eq now hnew
  obtain ⟨other, hother⟩ := Storage.misnamed_iff.1 hs
  have hfile : (schemaFile other, .file (Storage.rowsJson (stamped s [] now) []).print) ∈ d.entries := by
    rw [← hother]
    exact hfiles (by simp [filesOf])
  have hwide : ∀ row ∈ ([] : List (List String)), row.length = (stamped s [] now).columns.length := by simp
  have hplain : (Storage.rowsJson (stamped s [] now) []).Plain :=
    Storage.rowsJson_plain (stamped_wellFormed hdeclared.wellFormed [] now).columnsDiffer hwide
  rw [hadded]
  constructor
  · rintro ⟨d', hd', hreload⟩
    obtain rfl : d = d' := Option.some.inj hd'
    obtain ⟨db', hdb', -⟩ := hreload now
    obtain ⟨loaded, hloaded⟩ := ofDirectory_ok hdb' hfile
    exact Storage.loadSchema_rowsJson haccessible.nodup hplain hfile hloaded
  · exact ⟨_, (mem_setEntry h.sound.nodup).2 (.inl ⟨rfl, rfl⟩), hs⟩

end Database

end Relational
