import Relational.Proofs.Database.Run
import Relational.Proofs.Storage

/-!
# Databases in a directory

As long as no table is misnamed, the directory of a database holds two files for each table and nothing else, and
every change keeps it so: writing a table and removing one always succeed and touch only the files of that table.
Reading the directory then gives the tables again. The first misnamed table that is added ends this, since the file of
its rows is read as a definition.
-/

namespace Relational.Database

open Storage (filesOf rowsFile schemaFile Misnamed)

/-- The directory holds the files of the tables and no others, and every access to it succeeds. -/
structure Mirrors (d : Directory) (tables : List (String × Table)) : Prop where
  accessible : d.Accessible
  mem_iff : ∀ file, file ∈ d.entries ↔ ∃ entry ∈ tables, file ∈ filesOf entry.2.schema entry.2.rows

/-- A database of well named tables, which are all kept in its directory. -/
structure Stored (db : Database) : Prop where
  sound : db.Sound
  usual : ∀ entry ∈ db.tables, entry.2.schema.Usual
  named : ∀ entry ∈ db.tables, ¬ Misnamed entry.2.schema.name
  mirrored : ∃ d, db.directory = some d ∧ Mirrors d db.tables

variable {db db' : Database} {d d' : Directory} {now : Timestamp} {New : Schema → Prop} {key : String} {t : Table}

/-! ## Files of different tables -/

theorem Sound.name_ne (h : db.Sound) (ht : (key, t) ∈ db.tables) {name : String} (hne : key ≠ keyOf name) :
    t.schema.name ≠ name := by
  rintro rfl
  exact hne (h.keyOf_name ht).symm

theorem mem_filesOf_name {s : Schema} {rows : List (List Cell)} {file : String × DirectoryEntry}
    (h : file ∈ filesOf s rows) : file.1 = rowsFile s.name ∨ file.1 = schemaFile s.name := by
  rw [filesOf, List.mem_cons, List.mem_singleton] at h
  rcases h with rfl | rfl
  · exact .inl rfl
  · exact .inr rfl

/-- The files of a well named table are not those of another. -/
theorem ne_of_mem_filesOf {s : Schema} {rows : List (List Cell)} {other : String} (hs : ¬ Misnamed s.name)
    (hother : ¬ Misnamed other) (hne : s.name ≠ other) {file : String × DirectoryEntry} (h : file ∈ filesOf s rows) :
    file.1 ≠ rowsFile other ∧ file.1 ≠ schemaFile other := by
  rcases mem_filesOf_name h with heq | heq <;> rw [heq]
  · refine ⟨?_, fun hsame => hs (Storage.misnamed_iff.2 ⟨other, hsame⟩)⟩
    rwa [ne_eq, Storage.rowsFile_inj]
  · refine ⟨fun hsame => hother (Storage.misnamed_iff.2 ⟨s.name, hsame.symm⟩), ?_⟩
    rwa [ne_eq, Storage.schemaFile_inj]

/-! ## Changes -/

theorem Stored.empty (path : String) : (empty (some (.empty path))).Stored := by
  refine ⟨.empty _, fun _ h => (List.not_mem_nil h).elim, fun _ h => (List.not_mem_nil h).elim, _, rfl, .empty path, ?_⟩
  simp [Directory.empty, Database.empty]

theorem Mirrors.setTable (h : Mirrors d db.tables) (hsound : db.Sound)
    (hnamed : ∀ entry ∈ db.tables, ¬ Misnamed entry.2.schema.name) (hkey : keyOf t.schema.name = key)
    (ht : ¬ Misnamed t.schema.name) (hsame : ∀ old, (key, old) ∈ db.tables → old.schema.name = t.schema.name)
    (haccessible : d'.Accessible) (hmem : ∀ file, file ∈ d'.entries ↔ file ∈ filesOf t.schema t.rows ∨
      file.1 ≠ rowsFile t.schema.name ∧ file.1 ≠ schemaFile t.schema.name ∧ file ∈ d.entries) :
    Mirrors d' (db.setTable key t).tables := by
  refine ⟨haccessible, fun file => ?_⟩
  rw [hmem, h.mem_iff]
  constructor
  · rintro (hfile | ⟨hrows, hschema, ⟨k, old⟩, hold, hfile⟩)
    · exact ⟨(key, t), (mem_setEntry hsound.nodup).2 (.inl ⟨rfl, rfl⟩), hfile⟩
    · refine ⟨(k, old), (mem_setEntry hsound.nodup).2 (.inr ⟨?_, hold⟩), hfile⟩
      rintro rfl
      -- the old files of the table are gone
      have hname := hsame old hold
      rcases mem_filesOf_name hfile with heq | heq
      · exact hrows (hname ▸ heq)
      · exact hschema (hname ▸ heq)
  · rintro ⟨⟨k, other⟩, hentry, hfile⟩
    rcases (mem_setEntry hsound.nodup).1 hentry with ⟨rfl, rfl⟩ | ⟨hne, hother⟩
    · exact .inl hfile
    · have hnames := hsound.name_ne hother (hkey ▸ hne)
      obtain ⟨hrows, hschema⟩ := ne_of_mem_filesOf (hnamed _ hother) ht hnames hfile
      exact .inr ⟨hrows, hschema, (k, other), hother, hfile⟩

theorem Mirrors.dropTable (h : Mirrors d db.tables) (hsound : db.Sound)
    (hnamed : ∀ entry ∈ db.tables, ¬ Misnamed entry.2.schema.name) (ht : (key, t) ∈ db.tables)
    (haccessible : d'.Accessible) (hmem : ∀ file, file ∈ d'.entries ↔
      file.1 ≠ rowsFile t.schema.name ∧ file.1 ≠ schemaFile t.schema.name ∧ file ∈ d.entries) :
    Mirrors d' (db.dropTable key).tables := by
  refine ⟨haccessible, fun file => ?_⟩
  rw [hmem, h.mem_iff]
  constructor
  · rintro ⟨hrows, hschema, ⟨k, other⟩, hother, hfile⟩
    refine ⟨(k, other), (mem_removeEntry hsound.nodup).2 ⟨?_, hother⟩, hfile⟩
    rintro rfl
    obtain rfl := hsound.unique hother ht
    rcases mem_filesOf_name hfile with heq | heq
    · exact hrows heq
    · exact hschema heq
  · rintro ⟨⟨k, other⟩, hentry, hfile⟩
    obtain ⟨hne, hother⟩ := (mem_removeEntry hsound.nodup).1 hentry
    have hnames := hsound.name_ne hother (hsound.keyOf_name ht ▸ hne)
    obtain ⟨hrows, hschema⟩ := ne_of_mem_filesOf (hnamed _ hother) (hnamed _ ht) hnames hfile
    exact ⟨hrows, hschema, (k, other), hother, hfile⟩

/-- Writing a table always succeeds. -/
theorem Stored.persist_eq (h : db.Stored) (s : Schema) (rows : List (List Cell)) :
    ∃ d d', db.directory = some d ∧ Mirrors d db.tables ∧
      db.persist s rows = (.ok (), { db with directory := some d' }) ∧ d'.Accessible ∧ ∀ file, file ∈ d'.entries ↔
        file ∈ filesOf s rows ∨ file.1 ≠ rowsFile s.name ∧ file.1 ≠ schemaFile s.name ∧ file ∈ d.entries := by
  obtain ⟨d, hd, hmirrors⟩ := h.mirrored
  obtain ⟨d', hsave, haccessible, hmem⟩ := Storage.save_eq hmirrors.accessible s rows
  refine ⟨d, d', hd, hmirrors, ?_, haccessible, hmem⟩
  simp only [persist, hd, hsave]

/-- Removing the files of a table always succeeds. -/
theorem Stored.unlink_eq (h : db.Stored) (table : String) :
    ∃ d d', db.directory = some d ∧ Mirrors d db.tables ∧ unlink db.directory table = (.ok (), some d') ∧
      d'.Accessible ∧ ∀ file, file ∈ d'.entries ↔
        file.1 ≠ rowsFile table ∧ file.1 ≠ schemaFile table ∧ file ∈ d.entries := by
  obtain ⟨d, hd, hmirrors⟩ := h.mirrored
  obtain ⟨d', hdelete, haccessible, hmem⟩ := Storage.delete_eq hmirrors.accessible table
  refine ⟨d, d', hd, hmirrors, ?_, haccessible, hmem⟩
  simp only [unlink, hd, hdelete]

theorem Stored.setTable (h : db.Stored) {saved : Database} {s : Schema} {rows : List (List String)}
    (hsaved : db.persist (stamped s (rows.map Cell.ofTexts) now) (rows.map Cell.ofTexts) = (.ok (), saved))
    (hkey : keyOf s.name = key) (hs : ¬ Misnamed s.name)
    (hsame : ∀ old, (key, old) ∈ db.tables → old.schema.name = s.name) :
    ∃ d', (saved.setTable key (storedTable s rows now)).directory = some d' ∧
      Mirrors d' (saved.setTable key (storedTable s rows now)).tables := by
  obtain ⟨d, d', -, hmirrors, hpersist, haccessible, hmem⟩ := h.persist_eq _ _
  rw [hpersist] at hsaved
  cases hsaved
  exact ⟨d', rfl, hmirrors.setTable h.sound h.named hkey hs hsame haccessible hmem⟩

theorem stamped_usual {s : Schema} (h : s.Usual) (rows : List (List Cell)) (hnow : now.Valid) :
    (stamped s rows now).Usual := by
  refine ⟨?_, h.columns, h.createdAt, hnow⟩
  rw [stamped, h.written]
  rfl

theorem addIndex_usual {s s' : Schema} {index : String} {columns : List String} {unique : Bool}
    (h : s.addIndex index columns unique = .ok s') (hs : s.Usual) : s'.Usual := by
  obtain ⟨-, -, key, -, rfl⟩ := Schema.addIndex_eq_ok.1 h
  exact ⟨hs.written, hs.columns, hs.createdAt, hs.modifiedAt⟩

/-- No change makes a table unusual or misnamed, unless it adds one. -/
theorem Transition.usual_named (h : db.Stored) (hnow : now.Valid) (hnew : ∀ s, New s → s.Usual ∧ ¬ Misnamed s.name)
    (ht : Transition db now New db') :
    ∀ entry ∈ db'.tables, entry.2.schema.Usual ∧ ¬ Misnamed entry.2.schema.name := by
  refine ht.forall_tables (P := fun t => t.schema.Usual ∧ ¬ Misnamed t.schema.name) h.sound
    (fun entry hentry => ⟨h.usual entry hentry, h.named entry hentry⟩) ?stamped ?added ?rewritten ?indexed
  case stamped => exact fun t rows _ hP => ⟨stamped_usual hP.1 rows hnow, hP.2⟩
  case added => exact fun s _ hs => ⟨stamped_usual (hnew s hs).1 _ hnow, (hnew s hs).2⟩
  case rewritten => exact fun key t rows rows' _ _ _ hP => ⟨stamped_usual hP.1 _ hnow, hP.2⟩
  case indexed =>
    intro t s index columns unique rows _ _ hindex hP
    refine ⟨stamped_usual (addIndex_usual hindex hP.1) _ hnow, ?_⟩
    rw [storedTable_name, (columns_addIndex hindex).2]
    exact hP.2

/-- Every change is made in the directory as well, if it adds no misnamed table. -/
theorem Transition.mirrored (h : db.Stored) (hnew : ∀ s, New s → ¬ Misnamed s.name)
    (ht : Transition db now New db') : ∃ d, db'.directory = some d ∧ Mirrors d db'.tables := by
  have hsame : ∀ {key t}, (key, t) ∈ db.tables → ∀ old, (key, old) ∈ db.tables → old.schema.name = t.schema.name :=
    fun hmem old hold => by rw [h.sound.unique hold hmem]
  cases ht with
  | idle => exact h.mirrored
  | @unwritten s rows failure saved hsaved =>
    -- writing does not fail
    obtain ⟨d, d', -, -, hpersist, -⟩ := h.persist_eq s rows
    rw [hpersist] at hsaved
    cases hsaved
  | @restamped key t s rows failure saved _ hsaved =>
    obtain ⟨d, d', -, -, hpersist, -⟩ := h.persist_eq s rows
    rw [hpersist] at hsaved
    cases hsaved
  | @added s saved _ hs hnone hsaved =>
    refine h.setTable hsaved rfl (hnew s hs) fun old hold => ?_
    rw [← h.sound.table?_eq_some_iff] at hold
    rw [hasTable, hold] at hnone
    cases hnone
  | @unremoved table failure directory hunlinked =>
    -- nor does removing
    obtain ⟨d, d', -, -, hunlink, -⟩ := h.unlink_eq table
    rw [hunlink] at hunlinked
    cases hunlinked
  | removed hmem hfree hunlinked =>
    obtain ⟨d, d', -, hmirrors, hunlink, haccessible, hfiles⟩ := h.unlink_eq _
    rw [hunlink] at hunlinked
    cases hunlinked
    exact ⟨d', rfl, hmirrors.dropTable h.sound h.named hmem haccessible hfiles⟩
  | rewritten hmem hrows hchange hsaved =>
    exact h.setTable hsaved (h.sound.keyOf_name hmem) (h.named _ hmem) (hsame hmem)
  | indexed hmem hrows hindex hsaved =>
    have hname := (columns_addIndex hindex).2
    refine h.setTable hsaved ?_ ?_ ?_
    · rw [hname, h.sound.keyOf_name hmem]
    · rw [hname]
      exact h.named _ hmem
    · rw [hname]
      exact hsame hmem

/-- Every change at a moment of the calendar, if it adds no misnamed table, is written down. -/
theorem Transition.stored (h : db.Stored) (hnow : now.Valid) (hnew : ∀ s, New s → s.Usual ∧ ¬ Misnamed s.name)
    (ht : Transition db now New db') : db'.Stored where
  sound := ht.sound h.sound
  usual := fun entry hentry => (ht.usual_named h hnow hnew entry hentry).1
  named := fun entry hentry => (ht.usual_named h hnow hnew entry hentry).2
  mirrored := ht.mirrored h fun s hs => (hnew s hs).2

end Relational.Database
