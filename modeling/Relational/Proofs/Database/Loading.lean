import Relational.Proofs.Database.Reachable
import Relational.Proofs.Database.Reload

/-!
# What is loaded

A database that is built on a directory holds, for each definition there, the table with that definition and the rows
beside it; of two tables whose names differ in case only, the later one. So what is loaded is known from what is loaded
for each name, and that from the two files of the name. If the rows of one table were written and not its definition,
the same is loaded but for those rows. If the definition of one was removed and not its rows, the same is loaded but for
that table.
-/

namespace Relational

open Storage (filesOf rowsFile schemaFile Misnamed Reads ReadsRows)

namespace Storage

variable {d d' : Directory} {now : Timestamp} {file table : String} {s : Schema}

/-! ## What reading depends on -/

theorem readDocument_congr (hpath : d'.path = d.path) (hfile : d'.entry? file = d.entry? file) :
    readDocument d' file = readDocument d file := by
  simp only [readDocument, Directory.read?, hfile, inaccessible, Directory.pathOf, hpath]

theorem exists?_congr (hfile : d'.entry? file = d.entry? file) : d'.exists? file = d.exists? file := by
  rw [Directory.exists?, hfile, Directory.exists?]

theorem loadSchema_congr (hpath : d'.path = d.path)
    (hfile : d'.entry? (schemaFile table) = d.entry? (schemaFile table)) :
    loadSchema now d' table = loadSchema now d table := by
  have hinvalid : invalidSchema d' (schemaFile table) = invalidSchema d (schemaFile table) := by
    funext failure
    unfold invalidSchema
    simp only [Directory.pathOf, hpath]
  simp only [loadSchema, exists?_congr hfile, readDocument_congr hpath hfile, hinvalid]

theorem loadRows_congr (hpath : d'.path = d.path) (hfile : d'.entry? (rowsFile s.name) = d.entry? (rowsFile s.name)) :
    loadRows d' s = loadRows d s := by
  simp only [loadRows, exists?_congr hfile, readDocument_congr hpath hfile]

end Storage

namespace Database

variable {K : RowInvariant} {db loaded : Database} {d d' : Directory} {now : Timestamp} {name : String} {t : Table}
  {s : Schema}

/-! ## The table of a name -/

/-- The table that is loaded for a name; none for a name without a definition. -/
def loadTable (now : Timestamp) (d : Directory) (name : String) : Except Failure (Option Table) := do
  match ← Storage.loadSchema now d name with
  | none => pure none
  | some s =>
    let content ← s.noContent.withRows s (← Storage.loadRows d s)
    pure (some ⟨s, some content⟩)

/-- The entry of a table. -/
def entryOf (t : Table) : String × Table :=
  (keyOf t.schema.name, t)

theorem loadTables_cons_ok {found : Option Table} (h : loadTable now d name = .ok found) (names : List String)
    (db : Database) : loadTables now d (name :: names) db
      = loadTables now d names (found.elim db fun t => db.setTable (keyOf t.schema.name) t) := by
  rw [loadTables]
  obtain ⟨read, hread, h⟩ := bind_eq_ok.1 h
  cases read with
  | none =>
    cases h
    rw [hread]
    rfl
  | some s =>
    obtain ⟨cells, hcells, h⟩ := bind_eq_ok.1 h
    obtain ⟨content, hcontent, h⟩ := bind_eq_ok.1 h
    cases h
    simp only [hread, hcells, hcontent]
    rfl

/-- The table that stands for a name when its loading fails. Its definition was read, but not its rows, or its indexes
could not be filled. -/
def registered? (now : Timestamp) (d : Directory) (name : String) : Option Table :=
  match Storage.loadSchema now d name with
  | .ok (some s) =>
    match Storage.loadRows d s with
    | .ok rows => some ⟨s, some ⟨rows, s.emptyIndexes⟩⟩
    | .error _ => some ⟨s, none⟩
  | _ => none

theorem loadTables_cons_failed {failure : Failure} (h : loadTable now d name = .error failure) (names : List String)
    (db : Database) : loadTables now d (name :: names) db
      = (.error failure, (registered? now d name).elim db fun t => db.setTable (keyOf t.schema.name) t) := by
  rw [loadTables, registered?]
  rw [loadTable] at h
  cases hread : Storage.loadSchema now d name with
  | error e =>
    rw [hread] at h
    cases h
    rfl
  | ok read =>
    rw [hread, ok_bind] at h
    cases read with
    | none => cases h
    | some s =>
      dsimp only at h ⊢
      cases hcells : Storage.loadRows d s with
      | error e =>
        rw [hcells] at h
        cases h
        rfl
      | ok cells =>
        rw [hcells, ok_bind] at h
        dsimp only
        cases hcontent : s.noContent.withRows s cells with
        | error e =>
          rw [hcontent] at h
          cases h
          rfl
        | ok content =>
          rw [hcontent] at h
          cases h

theorem loadTables_cons_error {failure : Failure} (h : loadTable now d name = .error failure) (names : List String)
    (db : Database) : (loadTables now d (name :: names) db).1 = .error failure := by
  rw [loadTables_cons_failed h]

theorem loadTables_eq_ok {names : List String} {db' : Database} :
    loadTables now d names db = (.ok (), db') ↔
      ∃ found, List.Forall₂ (fun name t? => loadTable now d name = .ok t?) names found ∧
        db' = ((found.filterMap id).map entryOf).foldl (fun db entry => db.setTable entry.1 entry.2) db := by
  induction names generalizing db with
  | nil => simp [loadTables, eq_comm]
  | cons name names ih =>
    cases hname : loadTable now d name with
    | error failure =>
      refine iff_of_false (fun h => ?_) ?_
      · have herror := loadTables_cons_error hname names db
        rw [h] at herror
        cases herror
      · rintro ⟨found, hfound, -⟩
        cases hfound with
        | cons hhead _ => cases hname.symm.trans hhead
    | ok t? =>
      rw [loadTables_cons_ok hname, ih]
      constructor
      · rintro ⟨found, hfound, rfl⟩
        refine ⟨t? :: found, .cons hname hfound, ?_⟩
        cases t? <;> rfl
      · rintro ⟨found, hfound, rfl⟩
        cases hfound with
        | @cons _ head _ found hhead htail =>
          cases hname.symm.trans hhead
          refine ⟨found, htail, ?_⟩
          cases t? <;> rfl

theorem tables_foldl_setTable (entries : List (String × Table)) (db : Database) :
    entries.foldl (fun db entry => db.setTable entry.1 entry.2) db
      = { db with tables := entries.foldl (fun found entry => setEntry entry.1 entry.2 found) db.tables } := by
  induction entries generalizing db with
  | nil => rfl
  | cons entry entries ih =>
    rw [List.foldl_cons, ih]
    rfl

/-- The table of a name, if it has one that can be loaded. -/
def loaded? (now : Timestamp) (d : Directory) (name : String) : Option Table :=
  (loadTable now d name).toOption.join

theorem loaded?_of_loadTable {t? : Option Table} (h : loadTable now d name = .ok t?) : loaded? now d name = t? := by
  rw [loaded?, h]
  rfl

theorem forall₂_loadTable {names : List String} {found : List (Option Table)} :
    List.Forall₂ (fun name t? => loadTable now d name = .ok t?) names found ↔
      (∀ name ∈ names, loadTable now d name = .ok (loaded? now d name)) ∧ found = names.map (loaded? now d) := by
  constructor
  · intro h
    induction h with
    | nil => simp
    | @cons name t? names found hname _ ih =>
      obtain rfl := loaded?_of_loadTable hname
      exact ⟨List.forall_mem_cons.2 ⟨hname, ih.1⟩, by rw [ih.2, List.map_cons]⟩
  · rintro ⟨h, rfl⟩
    rw [List.forall₂_map_right_iff, List.forall₂_same]
    exact h

/-- A database is built on a directory if the table of each name can be loaded. -/
theorem ofDirectory_eq_ok : ofDirectory d now = .ok loaded ↔
    (∀ name ∈ Storage.tables d, loadTable now d name = .ok (loaded? now d name)) ∧
      loaded = ⟨collectEntries (((Storage.tables d).filterMap (loaded? now d)).map entryOf), some d⟩ := by
  have hload : ofDirectory d now = .ok loaded ↔
      loadTables now d (Storage.tables d) (empty (some d)) = (.ok (), loaded) := by
    rw [ofDirectory, loadAll]
    dsimp only [empty]
    generalize loadTables now d (Storage.tables d) ⟨[], some d⟩ = outcome
    obtain ⟨result, db⟩ := outcome
    cases result <;> simp
  rw [hload, loadTables_eq_ok]
  simp only [tables_foldl_setTable, forall₂_loadTable]
  constructor
  · rintro ⟨found, ⟨hnames, rfl⟩, rfl⟩
    refine ⟨hnames, ?_⟩
    rw [List.filterMap_map]
    rfl
  · rintro ⟨hnames, rfl⟩
    refine ⟨_, ⟨hnames, rfl⟩, ?_⟩
    rw [List.filterMap_map]
    rfl

/-! ## Tables of a directory that a database has written -/

/-- The table of a name has that name, and its content is what its rows make it. -/
theorem loadTable_some (hd : Backed K d) (h : loadTable now d name = .ok (some t)) :
    t.schema.name = name ∧ Storage.loadSchema now d name = .ok (some t.schema) ∧ ∃ rows, t.Holds rows := by
  obtain ⟨read, hread, h⟩ := bind_eq_ok.1 h
  cases read with
  | none => cases h
  | some s =>
    obtain ⟨cells, hcells, h⟩ := bind_eq_ok.1 h
    have hreads := Storage.loadSchema_reads hread
    obtain ⟨rows, rfl, hkeeps⟩ := hd.rows name s cells hreads (Storage.loadRows_reads hcells)
    have hcontent := Schema.withRows_noContent s rows
    rw [hcontent] at h
    cases h
    exact ⟨(hd.wellFormed name s hreads).1, hread, rows, rfl, K.wide hkeeps⟩

/-- The table that is loaded for a name with other rows. -/
theorem loadTable_rows (hread : Storage.loadSchema now d name = .ok (some s)) {rows : List (List String)}
    (hrows : Storage.loadRows d s = .ok (rows.map Cell.ofTexts)) :
    loadTable now d name = .ok (some ⟨s, some (s.contentOf rows)⟩) := by
  have hcontent := Schema.withRows_noContent s rows
  simp only [loadTable, hread, ok_bind, hrows, hcontent, pure_eq_ok]

/-! ## The rows of one table were written -/

/-- A table with other rows, if it has the name. -/
def reRowed (name : String) (rows : List (List String)) (t : Table) : Table :=
  if t.schema.name = name then ⟨t.schema, some (t.schema.contentOf rows)⟩ else t

theorem reRowed_schema (name : String) (rows : List (List String)) (t : Table) :
    (reRowed name rows t).schema = t.schema := by
  unfold reRowed
  split <;> rfl

section WriteRows

variable {rows : List (List String)}

/-- The directory after the rows of a table were written. -/
structure RowsWritten (d : Directory) (s : Schema) (rows : List (List String)) (d' : Directory) : Prop where
  wellFormed : s.WellFormed
  wide : ∀ row ∈ rows, row.length = s.columns.length
  names : ∀ s', Reads d s.name s' → rows = [] ∨ s'.columnNames = s.columnNames
  written : d.write? (rowsFile s.name) (Storage.rowsJson s (rows.map Cell.ofTexts)).print = some d'

theorem RowsWritten.path (h : RowsWritten d s rows d') : d'.path = d.path := by
  have hwritten := h.written
  unfold Directory.write? at hwritten
  split at hwritten
  · cases hwritten
  · cases hwritten
    rfl

theorem RowsWritten.entry? (h : RowsWritten d s rows d') {file : String} (hne : file ≠ rowsFile s.name) :
    d'.entry? file = d.entry? file := by
  rw [(Directory.write?_eq_some h.written).1, if_neg hne]

/-- The definitions are the same as before. -/
theorem RowsWritten.tables (h : RowsWritten d s rows d') (hnamed : ¬ Misnamed s.name) :
    Storage.tables d' = Storage.tables d := by
  have hwritten := h.written
  unfold Directory.write? at hwritten
  split at hwritten
  · cases hwritten
  cases hwritten
  have hnone : Storage.tableOf? (rowsFile s.name) = none := by
    rw [Option.eq_none_iff_forall_ne_some]
    intro other hother
    exact hnamed (Storage.misnamed_iff.2 ⟨other, Storage.tableOf?_eq_some_iff.1 hother⟩)
  rw [Storage.tables, Storage.tables]
  congr 1
  by_cases hmem : rowsFile s.name ∈ d.entries.map Prod.fst
  · rw [keys_setEntry_of_mem hmem]
  · rw [setEntry_of_not_mem hmem]
    simp [hnone]

/-- The rows that were written are read under the definition that was there before. -/
theorem RowsWritten.loadRows (h : RowsWritten d s rows d') (hd : Backed K d) {s' : Schema}
    (hread : Storage.loadSchema now d s.name = .ok (some s')) :
    Storage.loadRows d' s' = .ok (rows.map Cell.ofTexts) := by
  have hreads := Storage.loadSchema_reads hread
  have hname := (hd.wellFormed _ _ hreads).1
  obtain ⟨hentry, hnodup⟩ := Directory.write?_eq_some h.written
  have hplain := Storage.rowsJson_plain h.wellFormed.columnsDiffer h.wide
  have hfile : (rowsFile s'.name, .file (Storage.rowsJson s (rows.map Cell.ofTexts)).print) ∈ d'.entries := by
    refine mem_of_lookup_eq_some ?_
    rw [hname]
    exact (hentry _).trans (if_pos rfl)
  have hdocument := Storage.readDocument_eq (hnodup hd.nodup) hplain hfile
  rw [Storage.loadRows, if_pos (Storage.exists?_of_mem (hnodup hd.nodup) hfile), hdocument, ok_bind]
  rcases h.names s' hreads with rfl | hcolumns
  · rfl
  · rw [hcolumns, Storage.readRows_rowsJson h.wellFormed.columnsDiffer h.wide]

theorem RowsWritten.loadTable (h : RowsWritten d s rows d') (hd : Backed K d) (hnamed : ¬ Misnamed s.name)
    {t? : Option Table} (hloaded : loadTable now d name = .ok t?) :
    Database.loadTable now d' name = .ok (t?.map (reRowed s.name rows)) := by
  have hschema : Storage.loadSchema now d' name = Storage.loadSchema now d name := by
    refine Storage.loadSchema_congr h.path (h.entry? fun heq => ?_)
    exact hnamed (Storage.misnamed_iff.2 ⟨name, heq.symm⟩)
  cases t? with
  | none =>
    obtain ⟨read, hread, hloaded⟩ := bind_eq_ok.1 hloaded
    cases read with
    | none => 
      rw [Database.loadTable, hschema, hread]
      rfl
    | some s' =>
      obtain ⟨cells, -, hloaded⟩ := bind_eq_ok.1 hloaded
      obtain ⟨content, -, hloaded⟩ := bind_eq_ok.1 hloaded
      cases hloaded
  | some t =>
    obtain ⟨rfl, hread, old, hold⟩ := loadTable_some hd hloaded
    by_cases hname : t.schema.name = s.name
    · rw [Option.map_some, reRowed, if_pos hname]
      refine loadTable_rows (hschema.trans hread) ?_
      rw [hname] at hread
      exact h.loadRows hd hread
    · have hrows : Storage.loadRows d' t.schema = Storage.loadRows d t.schema :=
        Storage.loadRows_congr h.path (h.entry? fun heq => hname (Storage.rowsFile_inj.1 heq))
      rw [Option.map_some, reRowed, if_neg hname, ← hloaded, Database.loadTable, Database.loadTable, hschema, hread,
        ok_bind, ok_bind]
      simp only [hrows]

theorem collectEntries_map_value (f : Table → Table) (entries : List (String × Table)) :
    collectEntries (entries.map fun entry => (entry.1, f entry.2))
      = (collectEntries entries).map fun entry => (entry.1, f entry.2) := by
  induction entries using List.reverseRec with
  | nil => rfl
  | append_singleton entries last ih =>
    obtain ⟨key, t⟩ := last
    rw [List.map_append, List.map_singleton, collectEntries_concat, collectEntries_concat, ih, map_setEntry]

/-- What is loaded after the rows of a table were written is what was loaded before, with those rows. -/
theorem RowsWritten.ofDirectory (h : RowsWritten d s rows d') (hd : Backed K d) (hnamed : ¬ Misnamed s.name)
    (hloaded : ofDirectory d now = .ok loaded) : Database.ofDirectory d' now
      = .ok ⟨loaded.tables.map fun entry => (entry.1, reRowed s.name rows entry.2), some d'⟩ := by
  obtain ⟨hnames, rfl⟩ := ofDirectory_eq_ok.1 hloaded
  have hload : ∀ name ∈ Storage.tables d, Database.loadTable now d' name
      = .ok ((loaded? now d name).map (reRowed s.name rows)) :=
    fun name hname => h.loadTable hd hnamed (hnames name hname)
  refine ofDirectory_eq_ok.2 ⟨?_, ?_⟩
  · rw [h.tables hnamed]
    intro name hname
    rw [loaded?_of_loadTable (hload name hname)]
    exact hload name hname
  · have hentry : entryOf ∘ reRowed s.name rows = (fun entry => (entry.1, reRowed s.name rows entry.2)) ∘ entryOf := by
      funext t
      simp only [Function.comp_apply, entryOf, reRowed_schema]
    have hfound : (Storage.tables d).filterMap (loaded? now d')
        = ((Storage.tables d).filterMap (loaded? now d)).map (reRowed s.name rows) := by
      rw [List.map_filterMap]
      exact List.filterMap_congr fun name hname => loaded?_of_loadTable (hload name hname)
    rw [h.tables hnamed, hfound, List.map_map, hentry, ← List.map_map, collectEntries_map_value]

end WriteRows

/-! ## The definition of one table was removed -/

section RemoveDefinition

theorem mem_tables : name ∈ Storage.tables d ↔ d.exists? (schemaFile name) = true := by
  rw [Storage.tables, List.mem_mergeSort, List.mem_filterMap]
  simp only [Storage.tableOf?_eq_some_iff]
  rw [Directory.exists?, Directory.entry?]
  constructor
  · rintro ⟨_, hmem, rfl⟩
    rw [← Option.ne_none_iff_isSome]
    exact fun hnone => not_mem_of_lookup_eq_none hnone hmem
  · intro hsome
    obtain ⟨entry, hentry⟩ := Option.isSome_iff_exists.1 hsome
    exact ⟨_, List.mem_map_of_mem (mem_of_lookup_eq_some hentry), rfl⟩

theorem nodup_tables (hd : (d.entries.map Prod.fst).Nodup) : (Storage.tables d).Nodup := by
  rw [Storage.tables, (List.mergeSort_perm _ _).nodup_iff]
  refine hd.filterMap fun file file' name hname hname' => ?_
  rw [Option.mem_def, Storage.tableOf?_eq_some_iff] at hname hname'
  exact hname.trans hname'.symm

theorem pairwise_tables (d : Directory) : (Storage.tables d).Pairwise (· ≤ ·) := by
  have hsorted := @List.pairwise_mergeSort String (fun a b => decide (a ≤ b))
    (by simpa using fun a b c => String.le_trans) (by simpa using String.le_total)
    ((d.entries.map Prod.fst).filterMap Storage.tableOf?)
  rw [Storage.tables]
  simpa only [decide_eq_true_eq] using hsorted

/-- The directory after the definition of a table was removed. -/
structure DefinitionRemoved (d : Directory) (table : String) (d' : Directory) : Prop where
  there : d.exists? (schemaFile table) = true
  removed : d.remove? (schemaFile table) = some d'

variable {table : String}

theorem DefinitionRemoved.eq (h : DefinitionRemoved d table d') : d' = d.drop (schemaFile table) := by
  have hremoved := h.removed
  rw [Directory.remove?, if_pos h.there] at hremoved
  split at hremoved
  · cases hremoved
  · cases hremoved
    rfl

theorem DefinitionRemoved.path (h : DefinitionRemoved d table d') : d'.path = d.path := by
  rw [h.eq]
  rfl

theorem DefinitionRemoved.entry? (h : DefinitionRemoved d table d') {file : String} (hne : file ≠ schemaFile table) :
    d'.entry? file = d.entry? file := by
  rw [h.eq]
  exact lookup_removeEntry_of_ne hne _

theorem DefinitionRemoved.exists? (h : DefinitionRemoved d table d') (hd : (d.entries.map Prod.fst).Nodup) :
    d'.exists? (schemaFile table) = false := by
  rw [h.eq, Directory.exists?, Option.isSome_eq_false_iff, Option.isNone_iff_eq_none,
    Option.eq_none_iff_forall_ne_some]
  intro entry hentry
  exact ((mem_removeEntry hd).1 (mem_of_lookup_eq_some hentry)).1 rfl

/-- The definitions are the same as before but for that one. -/
theorem DefinitionRemoved.tables (h : DefinitionRemoved d table d') (hd : (d.entries.map Prod.fst).Nodup) :
    Storage.tables d' = (Storage.tables d).filter (· ≠ table) := by
  have hd' : (d'.entries.map Prod.fst).Nodup := by
    rw [h.eq]
    exact nodup_removeEntry hd
  refine List.Perm.eq_of_pairwise (fun _ _ _ _ => String.le_antisymm) (pairwise_tables d')
    ((pairwise_tables d).filter _) ?_
  rw [List.perm_ext_iff_of_nodup (nodup_tables hd') ((nodup_tables hd).filter _)]
  intro name
  rw [List.mem_filter, decide_eq_true_eq, mem_tables, mem_tables]
  by_cases hname : name = table
  · subst hname
    simp [h.exists? hd]
  · have hne : schemaFile name ≠ schemaFile table := fun heq => hname (Storage.schemaFile_inj.1 heq)
    rw [and_iff_left hname, Storage.exists?_congr (h.entry? hne)]

/-- The rows of the other tables are the same. If the definition was in the place of the rows of one, this has none with
it and none without it. -/
theorem DefinitionRemoved.loadRows (h : DefinitionRemoved d table d') (hd : Backed K d)
    (hload : loadTable now d table = .ok (loaded? now d table)) (s : Schema) {cells : List (List Cell)}
    (hcells : Storage.loadRows d s = .ok cells) : Storage.loadRows d' s = .ok cells := by
  by_cases hfile : rowsFile s.name = schemaFile table
  · have hnone : Storage.loadRows d' s = .ok [] := by
      rw [Storage.loadRows, hfile, h.exists? hd.nodup]
      rfl
    rw [hnone]
    rw [Storage.loadRows, hfile, if_pos h.there] at hcells
    obtain ⟨document, hdocument, hcells⟩ := bind_eq_ok.1 hcells
    obtain ⟨read, hread, -⟩ := bind_eq_ok.1 hload
    rw [Storage.loadSchema, if_pos h.there, hdocument, ok_bind] at hread
    split at hread
    · rename_i s' hs'
      rw [Storage.readRows, hd.rowless _ _ _ _ (Storage.readDocument_ok hdocument) hs', ok_bind] at hcells
      exact hcells
    · cases hread
  · rwa [Storage.loadRows_congr h.path (h.entry? hfile)]

theorem DefinitionRemoved.loadTable (h : DefinitionRemoved d table d') (hd : Backed K d)
    (hload : Database.loadTable now d table = .ok (loaded? now d table)) (hname : name ≠ table) {t? : Option Table}
    (hloaded : Database.loadTable now d name = .ok t?) : Database.loadTable now d' name = .ok t? := by
  have hschema : Storage.loadSchema now d' name = Storage.loadSchema now d name :=
    Storage.loadSchema_congr h.path (h.entry? fun heq => hname (Storage.schemaFile_inj.1 heq))
  obtain ⟨read, hread, hloaded⟩ := bind_eq_ok.1 hloaded
  rw [Database.loadTable, hschema, hread, ok_bind]
  cases read with
  | none => exact hloaded
  | some s =>
    obtain ⟨cells, hcells, hloaded⟩ := bind_eq_ok.1 hloaded
    dsimp only
    rw [h.loadRows hd hload s hcells, ok_bind]
    exact hloaded

/-- What is loaded after the definition of a table was removed is what was loaded before without that table, and with a
table whose name differs from it in case only, if one was hidden behind it. -/
theorem DefinitionRemoved.ofDirectory (h : DefinitionRemoved d table d') (hd : Backed K d)
    (hloaded : ofDirectory d now = .ok loaded) : ∃ entries, loaded.tables = collectEntries entries ∧
      Database.ofDirectory d' now
        = .ok ⟨collectEntries (entries.filter fun entry => entry.2.schema.name ≠ table), some d'⟩ := by
  obtain ⟨hnames, rfl⟩ := ofDirectory_eq_ok.1 hloaded
  refine ⟨_, rfl, ?_⟩
  have hload : ∀ name ∈ Storage.tables d, name ≠ table → Database.loadTable now d' name = .ok (loaded? now d name) :=
    fun name hname hne => h.loadTable hd (hnames table (mem_tables.2 h.there)) hne (hnames name hname)
  refine ofDirectory_eq_ok.2 ⟨?_, ?_⟩
  · rw [h.tables hd.nodup]
    intro name hname
    rw [List.mem_filter, decide_eq_true_eq] at hname
    have hok := hload name hname.1 hname.2
    rwa [loaded?_of_loadTable hok]
  · rw [h.tables hd.nodup, List.filter_map, List.filterMap_filter, List.filter_filterMap]
    congr 3
    refine List.filterMap_congr fun name hname => ?_
    have hnamed : ∀ t, loaded? now d name = some t → t.schema.name = name := by
      intro t ht
      have hok := hnames name hname
      rw [ht] at hok
      exact (loadTable_some hd hok).1
    by_cases hne : name = table
    · rw [if_neg (by simpa using hne)]
      cases ht : loaded? now d name with
      | none => rfl
      | some t => simp [Option.filter, entryOf, hnamed t ht, hne]
    · rw [if_pos (by simpa using hne), loaded?_of_loadTable (hload name hname hne)]
      cases ht : loaded? now d name with
      | none => rfl
      | some t => simp [Option.filter, entryOf, hnamed t ht, hne]

end RemoveDefinition

/-! ## The same tables -/

theorem nodup_collectEntries (entries : List (String × Table)) : ((collectEntries entries).map Prod.fst).Nodup := by
  induction entries using List.reverseRec with
  | nil => exact List.nodup_nil
  | append_singleton entries last ih =>
    obtain ⟨key, t⟩ := last
    rw [collectEntries_concat]
    exact nodup_setEntry ih

theorem mem_of_mem_collectEntries {entries : List (String × Table)} {entry : String × Table}
    (h : entry ∈ collectEntries entries) : entry ∈ entries := by
  obtain ⟨key, t⟩ := entry
  have hlookup := lookup_eq_some_of_mem (nodup_collectEntries entries) h
  rw [lookup_collectEntries] at hlookup
  exact List.mem_reverse.1 (mem_of_lookup_eq_some hlookup)

theorem lookup_filter {p : String × Table → Bool} {entries : List (String × Table)} {key : String}
    (h : entries.lookup key = some t) (hp : p (key, t) = true) : (entries.filter p).lookup key = some t := by
  induction entries with
  | nil => cases h
  | cons entry entries ih =>
    obtain ⟨k, other⟩ := entry
    by_cases hk : key = k
    · subst hk
      rw [List.lookup_cons_self, Option.some.injEq] at h
      subst h
      rw [List.filter_cons_of_pos hp, List.lookup_cons_self]
    · rw [lookup_cons_of_ne hk] at h
      rw [List.filter_cons]
      split
      · rw [lookup_cons_of_ne hk]
        exact ih h
      · exact ih h

/-- Leaving entries out before they are collected makes no difference exactly if none of them is collected. -/
theorem perm_collectEntries_filter {p : String × Table → Bool} {entries : List (String × Table)} :
    (collectEntries (entries.filter p)).Perm (collectEntries entries) ↔
      ∀ entry ∈ collectEntries entries, p entry = true := by
  constructor
  · intro hperm entry hentry
    exact (List.mem_filter.1 (mem_of_mem_collectEntries (hperm.mem_iff.2 hentry))).2
  · intro hall
    -- the last entry under a key is not left out
    have hkept : ∀ {key t}, (collectEntries entries).lookup key = some t →
        (collectEntries (entries.filter p)).lookup key = some t := by
      intro key t ht
      have hp := hall _ (mem_of_lookup_eq_some ht)
      rw [lookup_collectEntries] at ht ⊢
      rw [← List.filter_reverse]
      exact lookup_filter ht hp
    have hnodup := nodup_collectEntries entries
    have hnodup' := nodup_collectEntries (entries.filter p)
    rw [List.perm_ext_iff_of_nodup (hnodup'.of_map _) (hnodup.of_map _)]
    rintro ⟨key, t⟩
    rw [← lookup_eq_some_iff_mem hnodup', ← lookup_eq_some_iff_mem hnodup]
    refine ⟨fun ht => ?_, hkept⟩
    have hmem : (key, t) ∈ entries :=
      (List.mem_filter.1 (mem_of_mem_collectEntries (mem_of_lookup_eq_some ht))).1
    obtain ⟨other, hother⟩ : ∃ other, (collectEntries entries).lookup key = some other := by
      rw [← Option.isSome_iff_exists, ← Option.ne_none_iff_isSome, lookup_collectEntries]
      intro hnone
      exact not_mem_of_lookup_eq_none hnone (List.mem_map_of_mem (List.mem_reverse.2 hmem))
    rw [hother, ← hkept hother, ht]

/-- The tables that are loaded stand once under their keys, and each is what its rows make it. -/
theorem ofDirectory_tables (hd : Backed K d) (hloaded : ofDirectory d now = .ok loaded) :
    (loaded.tables.map Prod.fst).Nodup ∧ ∀ entry ∈ loaded.tables, ∃ rows, entry.2.Holds rows := by
  obtain ⟨hnames, rfl⟩ := ofDirectory_eq_ok.1 hloaded
  refine ⟨nodup_collectEntries _, fun entry hentry => ?_⟩
  obtain ⟨t, ht, rfl⟩ := List.mem_map.1 (mem_of_mem_collectEntries hentry)
  obtain ⟨name, hname, hfound⟩ := List.mem_filterMap.1 ht
  have hok := hnames name hname
  rw [hfound] at hok
  exact (loadTable_some hd hok).2.2

end Database

end Relational
