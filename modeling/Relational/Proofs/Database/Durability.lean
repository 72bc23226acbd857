import Relational.Proofs.Database.Answers
import Relational.Proofs.Database.Indexes
import Relational.Proofs.Database.Loading
import Relational.Proofs.Database.References

/-!
# What a failed step leaves in the directory

A table is written in two files and removed in two, so a step can fail when the first of them is done. If the first
fails, the directory is as it was. If the second fails, the rows of the table were written without their definition, or
its definition was removed without its rows. Then the directory is loaded as before only if what was done so far makes
no difference: the rows under the old definition were those already, or there was no definition.
-/

namespace Relational

open Storage (filesOf rowsFile schemaFile Misnamed Reads ReadsRows)

namespace Storage

variable {d d' : Directory} {table : String} {s : Schema} {cells : List (List Cell)} {failure : Failure}

/-- A table that is not written is not written at all, or its rows are. -/
theorem save_error (h : save s cells d = (.error failure, d')) :
    d' = d ∨ d.write? (rowsFile s.name) (rowsJson s cells).print = some d' := by
  simp only [save, andThen, writeDocument] at h
  cases hfirst : d.write? (rowsFile s.name) (rowsJson s cells).print with
  | none =>
    rw [hfirst] at h
    cases h
    exact .inl rfl
  | some d₁ =>
    simp only [hfirst] at h
    cases hsecond : d₁.write? (schemaFile s.name) s.toJson.print with
    | none =>
      simp only [hsecond] at h
      cases h
      exact .inr rfl
    | some d₂ =>
      simp only [hsecond] at h
      cases h

/-- A table that is not removed is not removed at all, or its definition is. -/
theorem delete_error (h : delete table d = (.error failure, d')) : d' = d ∨ Database.DefinitionRemoved d table d' := by
  simp only [delete, andThen, removeFile] at h
  cases hfirst : d.remove? (schemaFile table) with
  | none =>
    rw [hfirst] at h
    cases h
    exact .inl rfl
  | some d₁ =>
    simp only [hfirst] at h
    cases hsecond : d₁.remove? (rowsFile table) with
    | none =>
      simp only [hsecond] at h
      cases h
      cases hthere : d.exists? (schemaFile table) with
      | true => exact .inr ⟨hthere, hfirst⟩
      | false =>
        -- there was no definition
        rw [Directory.remove?, hthere] at hfirst
        exact .inl (Option.some.inj hfirst).symm
    | some d₂ =>
      simp only [hsecond] at h
      cases h

end Storage

namespace Database

variable {K : RowInvariant} {db loaded : Database} {d d' : Directory} {now : Timestamp}
  {name table key : String} {t : Table}
  {s : Schema} {rows : List (List String)} {step : Step}

/-! ## What can still be loaded -/

/-- Whatever is loaded from the first directory is loaded from the second: the same tables with the same definitions and
rows. -/
def KeepsLoading (d d' : Directory) : Prop :=
  ∀ now loaded, ofDirectory d now = .ok loaded →
    ∃ loaded', ofDirectory d' now = .ok loaded' ∧ loaded'.tables.Perm loaded.tables

theorem KeepsLoading.refl (d : Directory) : KeepsLoading d d :=
  fun _ loaded hloaded => ⟨loaded, hloaded, .refl _⟩

theorem reRowed_eq_self_iff {old : List (List String)} (h : t.Holds old) :
    reRowed name rows t = t ↔ (t.schema.name = name → t.rows = rows.map Cell.ofTexts) := by
  by_cases hname : t.schema.name = name
  · rw [reRowed, if_pos hname, forall_prop_of_true hname]
    constructor
    · intro heq
      rw [← heq]
      rfl
    · intro hrows
      rw [h.rows_eq] at hrows
      obtain rfl := List.map_injective_iff.2 (fun _ _ => Cell.ofTexts_injective) hrows
      rw [← h.content]
  · rw [reRowed, if_neg hname]
    exact iff_of_true rfl fun heq => absurd heq hname

/-- Rows that were written without their definition make no difference if the rows of the table were those already, and
are not taken for a definition. -/
theorem RowsWritten.keepsLoading_iff (h : RowsWritten d s rows d') (hd : Backed K d) : KeepsLoading d d' ↔
    ∀ now loaded, Database.ofDirectory d now = .ok loaded → ¬ Misnamed s.name ∧
      ∀ entry ∈ loaded.tables, entry.2.schema.name = s.name → entry.2.rows = rows.map Cell.ofTexts := by
  constructor
  · intro hkeeps now loaded hloaded
    obtain ⟨loaded', hloaded', hperm⟩ := hkeeps now loaded hloaded
    have hnamed : ¬ Misnamed s.name := by
      intro hmisnamed
      obtain ⟨other, hother⟩ := Storage.misnamed_iff.1 hmisnamed
      obtain ⟨hentry, hnodup⟩ := Directory.write?_eq_some h.written
      have hfile : (schemaFile other, .file (Storage.rowsJson s (rows.map Cell.ofTexts)).print) ∈ d'.entries := by
        refine mem_of_lookup_eq_some ((hentry _).trans (if_pos hother.symm))
      obtain ⟨read, hread⟩ := ofDirectory_ok hloaded' hfile
      exact Storage.loadSchema_rowsJson (hnodup hd.nodup)
        (Storage.rowsJson_plain h.wellFormed.columnsDiffer h.wide) hfile hread
    refine ⟨hnamed, ?_⟩
    rw [h.ofDirectory hd hnamed hloaded] at hloaded'
    cases hloaded'
    rintro ⟨key, t⟩ hmem
    obtain ⟨hnodup, hholds⟩ := ofDirectory_tables hd hloaded
    obtain ⟨old, hold⟩ := hholds _ hmem
    have hmem' : (key, reRowed s.name rows t) ∈ loaded.tables := hperm.mem_iff.1 (List.mem_map.2 ⟨_, hmem, rfl⟩)
    have hsame := (lookup_eq_some_of_mem hnodup hmem').symm.trans (lookup_eq_some_of_mem hnodup hmem)
    exact (reRowed_eq_self_iff hold).1 (Option.some.inj hsame)
  · intro hsame now loaded hloaded
    obtain ⟨hnamed, hrows⟩ := hsame now loaded hloaded
    refine ⟨_, h.ofDirectory hd hnamed hloaded, ?_⟩
    have hself : loaded.tables.map (fun entry => (entry.1, reRowed s.name rows entry.2)) = loaded.tables := by
      conv_rhs => rw [← List.map_id loaded.tables]
      refine List.map_congr_left fun entry hentry => ?_
      obtain ⟨old, hold⟩ := (ofDirectory_tables hd hloaded).2 entry hentry
      rw [(reRowed_eq_self_iff hold).2 (hrows entry hentry)]
      rfl
    rw [hself]

/-- A definition that was removed without its rows makes no difference if its table was not loaded. -/
theorem DefinitionRemoved.keepsLoading_iff (h : DefinitionRemoved d table d') (hd : Backed K d) : KeepsLoading d d' ↔
    ∀ now loaded, Database.ofDirectory d now = .ok loaded → ∀ entry ∈ loaded.tables, entry.2.schema.name ≠ table := by
  refine forall₃_congr fun now loaded hloaded => ?_
  obtain ⟨entries, htables, hloaded'⟩ := h.ofDirectory hd hloaded
  rw [hloaded', htables]
  have hperm := @perm_collectEntries_filter (fun entry => decide (entry.2.schema.name ≠ table)) entries
  simpa only [Except.ok.injEq, exists_eq_left', decide_eq_true_eq] using hperm

/-! ## What a step is about -/

/-- The name by which a step speaks of a table. -/
def Step.table? : Step → Option String
  | .addTable _ s _ => some s.name
  | .removeTable name => some name
  | .insertRow _ name _ => some name
  | .updateRow _ name _ _ => some name
  | .deleteRow _ name _ => some name
  | .createIndex _ name _ _ _ => some name
  | .disturb _ => none

/-- The name of the table that a step is about, as the table is spelled if it is there. -/
def subject? (db : Database) (step : Step) : Option String :=
  step.table?.map fun name => ((db.table? name).map fun t => t.schema.name).getD name

/-- The database as a step is to make it, which it does if no directory has to take it. -/
def intended (db : Database) (step : Step) : Database :=
  ((db.upon none).answer step).2

/-- A table that a step puts in its place, with its rows. -/
structure Puts (db : Database) (step : Step) (key : String) (t : Table) (rows : List (List String)) : Prop where
  wellFormed : t.schema.WellFormed
  holds : t.Holds rows
  keyed : keyOf t.schema.name = key
  subject : db.subject? step = some t.schema.name
  columns : rows = [] ∨ ∃ old, (key, old) ∈ db.tables ∧ old.schema.name = t.schema.name ∧
    old.schema.columns = t.schema.columns

theorem puts_storedTable (h : db.Consistent K) {name : String} {old : Table} (hold : db.table? name = some old)
    (hstep : step.table? = some name) (hs : s.WellFormed) (hname : s.name = old.schema.name)
    (hcolumns : s.columns = old.schema.columns) (hwide : ∀ row ∈ rows, row.length = s.columns.length) :
    Puts db step (keyOf name) (storedTable s rows now) rows where
  wellFormed := stamped_wellFormed hs _ _
  holds := storedTable_holds hwide now
  keyed := by
    rw [storedTable_name, hname]
    exact h.keyOf_name (mem_of_table? hold)
  subject := by
    rw [subject?, hstep, Option.map_some, hold, Option.map_some, Option.getD_some, storedTable_name, hname]
  columns := .inr ⟨old, mem_of_table? hold, hname.symm, hcolumns.symm⟩

theorem Planned.puts (h : db.Consistent K) {key : String} {instead : Option Table}
    (hplanned : Planned db step (.put key t instead)) : ∃ rows, Puts db step key t rows := by
  cases hplanned with
  | @added now s declared hnew =>
    have hwide : ∀ row ∈ ([] : List (List String)), row.length = s.columns.length :=
      fun _ hrow => (List.not_mem_nil hrow).elim
    have hnone : db.table? s.name = none := table?_eq_none_of_hasTable hnew s.name rfl
    refine ⟨[], stamped_wellFormed declared.wellFormed _ _, storedTable_holds hwide now, rfl, ?_, .inl rfl⟩
    rw [subject?, Step.table?, Option.map_some, hnone]
    rfl
  | @inserted now name input old rows row hold hrows hrow =>
    have hfit := h.fit _ (mem_of_table? hold)
    refine ⟨_, puts_storedTable h hold rfl hfit.wellFormed rfl rfl ?_⟩
    rw [List.forall_mem_append, List.forall_mem_singleton]
    exact ⟨hrows.wide, Schema.length_storedRow hrow⟩
  | @updated now name i input old rows raw row hold hrows hi hrow =>
    have hfit := h.fit _ (mem_of_table? hold)
    refine ⟨_, puts_storedTable h hold rfl hfit.wellFormed rfl rfl fun other hother => ?_⟩
    rcases List.mem_or_eq_of_mem_set hother with hother | rfl
    · exact hrows.wide other hother
    · exact Schema.length_storedRow hrow
  | @deleted now name i old rows hold hrows hi =>
    have hfit := h.fit _ (mem_of_table? hold)
    exact ⟨_, puts_storedTable h hold rfl hfit.wellFormed rfl rfl fun other hother =>
      hrows.wide other (List.mem_of_mem_eraseIdx hother)⟩
  | @indexed now name index columns unique old s rows hold hrows hindex =>
    have hfit := h.fit _ (mem_of_table? hold)
    obtain ⟨hcolumns, hname⟩ := columns_addIndex hindex
    refine ⟨_, puts_storedTable h hold rfl (Schema.addIndex_wellFormed hfit.wellFormed hindex) hname hcolumns ?_⟩
    rw [hcolumns]
    exact hrows.wide

/-- The definition that can be read in place of the one that is put has the same columns, if rows are put. -/
theorem Puts.columnNames (h : Puts db step key t rows) (hdb : db.Consistent K) (hd : db.directory = some d)
    {s' : Schema} (hread : Reads d t.schema.name s') : rows = [] ∨ s'.columnNames = t.schema.columnNames := by
  refine h.columns.imp_right fun ⟨old, hmem, hname, hcolumns⟩ => ?_
  have hsame := (hdb.backed d hd).2 _ hmem s' (hname ▸ hread)
  rw [← hsame.columnNames, Schema.columnNames, hcolumns, Schema.columnNames]

/-! ## Failed steps -/

/-- What is loaded has, under the name, the rows already that the intended database has, and no file of rows is in the
place of a definition. -/
structure Anticipates (loaded intended : Database) (name : String) : Prop where
  named : intended.hasTable name = true → ¬ Misnamed name
  rows : ∀ entry ∈ loaded.tables, entry.2.schema.name = name →
    ∃ t, intended.table? name = some t ∧ entry.2.rows = t.rows

theorem anticipates_setTable (loaded db : Database) (ht : t.Holds rows) (hkey : keyOf t.schema.name = key) :
    Anticipates loaded (db.setTable key t) t.schema.name ↔ ¬ Misnamed t.schema.name ∧
      ∀ entry ∈ loaded.tables, entry.2.schema.name = t.schema.name → entry.2.rows = rows.map Cell.ofTexts := by
  have htable : (db.setTable key t).table? t.schema.name = some t := by rw [table?_setTable, if_pos hkey]
  constructor
  · rintro ⟨hnamed, hrows⟩
    refine ⟨hnamed (by rw [hasTable, htable]; rfl), fun entry hentry hname => ?_⟩
    obtain ⟨put, hput, hsame⟩ := hrows entry hentry hname
    rw [htable, Option.some.injEq] at hput
    rw [hsame, ← hput, ht.rows_eq]
  · rintro ⟨hnamed, hrows⟩
    refine ⟨fun _ => hnamed, fun entry hentry hname => ⟨t, htable, ?_⟩⟩
    rw [hrows entry hentry hname, ht.rows_eq]

theorem anticipates_dropTable (loaded : Database) (hnodup : (db.tables.map Prod.fst).Nodup) (hkey : keyOf name = key) :
    Anticipates loaded (db.dropTable key) name ↔ ∀ entry ∈ loaded.tables, entry.2.schema.name ≠ name := by
  have htable : (db.dropTable key).table? name = none := by
    rw [table?, Option.eq_none_iff_forall_ne_some]
    intro t ht
    exact ((mem_removeEntry hnodup).1 (mem_of_lookup_eq_some ht)).1 hkey
  constructor
  · rintro ⟨-, hrows⟩ entry hentry hname
    obtain ⟨t, ht, -⟩ := hrows entry hentry hname
    rw [htable] at ht
    cases ht
  · refine fun hnone => ⟨fun hthere => ?_, fun entry hentry hname => absurd hname (hnone entry hentry)⟩
    rw [hasTable, htable] at hthere
    cases hthere

/-- A directory that is not changed is loaded as before, whatever else is asked of it. -/
theorem keepsLoading_iff_or {P : Prop} (h : KeepsLoading d d' ↔ P) : KeepsLoading d d' ↔ d' = d ∨ P := by
  constructor
  · exact fun hkeeps => .inr (h.1 hkeeps)
  · rintro (rfl | hP)
    · exact .refl d'
    · exact h.2 hP

theorem Puts.keepsLoading_iff (hputs : Puts db step key t rows) (hdb : db.Consistent K) (hd : db.directory = some d)
    {failure : Failure} (hsave : Storage.save t.schema t.rows d = (.error failure, d')) : KeepsLoading d d' ↔
      d' = d ∨ ∀ now loaded, ofDirectory d now = .ok loaded →
        ∀ name ∈ db.subject? step, Anticipates loaded ((db.upon none).setTable key t) name := by
  rcases Storage.save_error hsave with rfl | hwritten
  · exact iff_of_true (.refl d') (.inl rfl)
  · rw [hputs.holds.rows_eq] at hwritten
    have hrows : RowsWritten d t.schema rows d' :=
      ⟨hputs.wellFormed, hputs.holds.wide, fun s' hread => hputs.columnNames hdb hd hread, hwritten⟩
    refine keepsLoading_iff_or ?_
    simp only [hputs.subject, Option.mem_some, forall_eq', anticipates_setTable _ _ hputs.holds hputs.keyed]
    exact hrows.keepsLoading_iff (hdb.backed d hd).1

theorem keepsLoading_iff_of_delete (hdb : db.Consistent K) (hd : db.directory = some d) (ht : (key, t) ∈ db.tables)
    (hsubject : db.subject? step = some t.schema.name) {failure : Failure}
    (hdelete : Storage.delete t.schema.name d = (.error failure, d')) : KeepsLoading d d' ↔
      d' = d ∨ ∀ now loaded, ofDirectory d now = .ok loaded →
        ∀ name ∈ db.subject? step, Anticipates loaded ((db.upon none).dropTable key) name := by
  rcases Storage.delete_error hdelete with rfl | hremoved
  · exact iff_of_true (.refl d') (.inl rfl)
  · have hnodup : ((db.upon none).tables.map Prod.fst).Nodup := hdb.nodup
    refine keepsLoading_iff_or ?_
    simp only [hsubject, Option.mem_some, forall_eq', anticipates_dropTable _ hnodup (hdb.keyOf_name ht)]
    exact hremoved.keepsLoading_iff (hdb.backed d hd).1

/-- After a step that failed because of the directory, the directory is loaded as before exactly if it was not changed,
or if it was loaded before with the rows that the table was to get. -/
theorem Reachable.failed_keepsLoading_iff (h : db.Reachable) (hd : db.directory = some d) {path : String}
    {fault : StorageFault} (hfailed : (db.answer step).1 = .error (.refusal (.storage path fault))) :
    ∃ d', (db.answer step).2.directory = some d' ∧ (KeepsLoading d d' ↔
      d' = d ∨ ∀ now loaded, ofDirectory d now = .ok loaded →
        ∀ name ∈ db.subject? step, Anticipates loaded (db.intended step) name) := by
  have hdb := h.consistent
  cases hdb.answered step with
  | refused failure hrefused =>
    have hanswer : db.answer step = (.error failure, db) := hrefused db.directory
    refine ⟨d, ?_, iff_of_true (.refl d) (.inl rfl)⟩
    rw [hanswer]
    exact hd
  | disturbed hstep =>
    subst hstep
    cases hfailed
  | @made change hplanned hmade =>
    have hanswer : db.answer step = db.make change := hmade db.directory
    have hintended : db.intended step = ((db.upon none).make change).2 := congrArg Prod.snd (hmade none)
    rw [hanswer] at hfailed ⊢
    rw [hintended]
    cases change with
    | put key t instead =>
      obtain ⟨rows, hputs⟩ := hplanned.puts hdb
      simp only [make, persist, hd] at hfailed ⊢
      generalize hsave : Storage.save t.schema t.rows d = outcome at hfailed ⊢
      obtain ⟨written, d'⟩ := outcome
      cases written with
      | ok => cases hfailed
      | error failure =>
        refine ⟨d', ?_, hputs.keepsLoading_iff hdb hd hsave⟩
        cases instead <;> rfl
    | drop key t =>
      cases hplanned with
      | removed ht =>
        simp only [make, unlink, hd] at hfailed ⊢
        generalize hdelete : Storage.delete t.schema.name d = outcome at hfailed ⊢
        obtain ⟨deleted, d'⟩ := outcome
        cases deleted with
        | ok =>
          -- dropping a table without content fails, but not because of the directory
          rw [Table.loaded] at hfailed
          cases hcontent : t.content <;> rw [hcontent] at hfailed <;> cases hfailed
        | error failure =>
          refine ⟨d', rfl, keepsLoading_iff_of_delete hdb hd (mem_of_table? ht) ?_ hdelete⟩
          rw [subject?, Step.table?, Option.map_some, ht]
          rfl

/-! ## A label that is written by half -/

namespace Label

/-- The definition of the table of labels as it is stored without rows. -/
def stored : Schema :=
  stamped schema [] moment

/-- A directory with that definition and some rows, in which a file can no longer be written. -/
def locked (rows : List (List String)) (file : String) : Directory :=
  ⟨"data", filesOf stored (rows.map Cell.ofTexts), [(.write, file)]⟩

/-- A database over the directory, with the table as it is loaded from there. -/
def guarded (rows : List (List String)) (file : String) : Database :=
  ⟨[("label", ⟨stored, some (stored.contentOf rows)⟩)], some (locked rows file)⟩

variable {rows : List (List String)}

theorem keys_locked (rows : List (List String)) (file : String) :
    (locked rows file).entries.map Prod.fst = ["label.json", "label_schema.json"] := rfl

theorem nodup_locked (rows : List (List String)) (file : String) : ((locked rows file).entries.map Prod.fst).Nodup := by
  rw [keys_locked]
  decide

theorem guarded_reachable (file : String) : (guarded [] file).Reachable := by
  have hadded : ((empty (some (.empty "data"))).addTable moment schema).2.Reachable :=
    (Reachable.empty (some "data")).move (.addTable moment declared ⟨rfl, by decide⟩)
  rw [addTable_empty] at hadded
  exact hadded.move (.lose rfl ⟨nodup_locked [] file, fun _ _ hfile => hfile⟩)

theorem stored_wellFormed : stored.WellFormed :=
  stamped_wellFormed declared.wellFormed [] moment

theorem stored_usual : stored.Usual := by
  refine ⟨rfl, by decide, ?_, ?_⟩
  · exact ⟨by decide, by decide, by decide, by decide, by decide, by decide⟩
  · exact ⟨by decide, by decide, by decide, by decide, by decide, by decide⟩

/-- The table of labels is loaded from the directory. -/
theorem loadAll_locked (hwide : ∀ row ∈ rows, row.length = stored.columns.length) (file : String) (now : Timestamp) :
    loadAll (empty (some (locked rows file))) now = (.ok (), guarded rows file) := by
  have hnames : Storage.tables (locked rows file) = ["label"] := by
    have hfound : ((locked rows file).entries.map Prod.fst).filterMap Storage.tableOf? = ["label"] := by
      rw [keys_locked]
      decide +kernel
    rw [Storage.tables, hfound, List.mergeSort_singleton]
  have hkey : keyOf "label" = "label" := by decide +kernel
  have hloads : Loads (locked rows file) ("label", ⟨stored, some (stored.contentOf rows)⟩) :=
    ⟨hkey, stored_wellFormed, stored_usual, rows, ⟨rfl, hwide⟩, List.Subset.refl _⟩
  have hload := @loadTables_eq (empty (some (locked rows file))) (locked rows file) now (nodup_locked rows file)
    [("label", ⟨stored, some (stored.contentOf rows)⟩)] (by simpa using hloads) (by simp [empty])
  show loadTables now (locked rows file) (Storage.tables (locked rows file)) _ = _
  rw [hnames]
  exact hload

/-- The file of the rows cannot be written. -/
theorem save_locked_rows {s : Schema} (hs : s.name = "label") (cells : List (List Cell)) :
    Storage.save s cells (locked rows "label.json")
      = (.error (.refusal (.storage "data/label.json" .inaccessible)), locked rows "label.json") := by
  have hfile : rowsFile s.name = "label.json" := by rw [hs]; rfl
  have hrefused : ∀ text, (locked rows "label.json").write? "label.json" text = none := fun _ => rfl
  simp only [Storage.save, Storage.andThen, Storage.writeDocument, hfile, hrefused]
  rfl

theorem write_locked (text : String) : (locked rows "label_schema.json").write? "label.json" text
    = some ⟨"data", [("label.json", .file text), ("label_schema.json", .file stored.toJson.print)],
      [(.write, "label_schema.json")]⟩ := rfl

/-- The file of the rows can be written, and that of the definition cannot. -/
theorem save_locked_definition {s : Schema} (hs : s.name = "label") (cells : List (List Cell)) :
    Storage.save s cells (locked rows "label_schema.json")
      = (.error (.refusal (.storage "data/label_schema.json" .inaccessible)),
        ⟨"data", [("label.json", .file (Storage.rowsJson s cells).print),
          ("label_schema.json", .file stored.toJson.print)], [(.write, "label_schema.json")]⟩) := by
  have hrows : rowsFile s.name = "label.json" := by rw [hs]; rfl
  have hschema : schemaFile s.name = "label_schema.json" := by rw [hs]; rfl
  have hrefused : ∀ entries text, (⟨"data", entries, [(.write, "label_schema.json")]⟩ : Directory).write?
      "label_schema.json" text = none := by
    intro entries text
    simp [Directory.write?]
  simp only [Storage.save, Storage.andThen, Storage.writeDocument, hrows, hschema, write_locked, hrefused]
  rfl

/-- A label is inserted. -/
def inserting : Step :=
  .insertRow moment "label" (.cells ["7", "x"])

theorem answer_guarded (file : String) : (guarded [] file).answer inserting
    = (guarded [] file).make (.put "label" (storedTable stored [["7", "x"]] moment) none) := by
  have hchecked : (guarded [] file).insertion moment "label" (.cells ["7", "x"])
      = .ok (⟨stored, some (stored.contentOf [])⟩, stored.contentOf [], ["7", "x"]) := by
    have hclosed : ((guarded [] "").upon none).insertion moment "label" (.cells ["7", "x"])
        = .ok (⟨stored, some (stored.contentOf [])⟩, stored.contentOf [], ["7", "x"]) := by
      decide +kernel
    exact hclosed
  have hinsert := insertRow_upon (guarded [] file) (guarded [] file).directory moment "label" (.cells ["7", "x"])
  rw [hchecked] at hinsert
  have hcommit := commitRows_eq (guarded [] file) moment "label" ⟨stored, some (stored.contentOf [])⟩ [] [["7", "x"]]
  rw [inserting]
  show Outcome.done (((guarded [] file).upon (guarded [] file).directory).insertRow moment "label"
    (.cells ["7", "x"])) = _
  rw [hinsert]
  exact (done_make _ 0).trans hcommit

/-- If the rows cannot be written, nothing is. -/
theorem answer_guarded_rows : (guarded [] "label.json").answer inserting
    = (.error (.refusal (.storage "data/label.json" .inaccessible)), guarded [] "label.json") := by
  have hsave := @save_locked_rows [] (storedTable stored [["7", "x"]] moment).schema rfl
    (storedTable stored [["7", "x"]] moment).rows
  rw [answer_guarded]
  simp only [make, persist, guarded, hsave]
  rfl

/-- If the definition cannot be written, the rows are. -/
theorem answer_guarded_definition : (guarded [] "label_schema.json").answer inserting
    = (.error (.refusal (.storage "data/label_schema.json" .inaccessible)),
      (guarded [] "label_schema.json").upon (some (locked [["7", "x"]] "label_schema.json"))) := by
  have hsave := @save_locked_definition [] (storedTable stored [["7", "x"]] moment).schema rfl
    (storedTable stored [["7", "x"]] moment).rows
  rw [answer_guarded]
  simp only [make, persist, guarded, hsave]
  rfl

end Label

/-- The label is not inserted, since its rows cannot be written, and the directory is loaded as before. -/
theorem label_insert_refused : ((Label.guarded [] "label.json").answer Label.inserting).1
      = .error (.refusal (.storage "data/label.json" .inaccessible)) ∧
    ∃ d', ((Label.guarded [] "label.json").answer Label.inserting).2.directory = some d' ∧
      KeepsLoading (Label.locked [] "label.json") d' := by
  have hfailed := congrArg Prod.fst Label.answer_guarded_rows
  obtain ⟨d', hd', hkeeps⟩ := (Label.guarded_reachable "label.json").failed_keepsLoading_iff rfl hfailed
  refine ⟨hfailed, d', hd', hkeeps.2 (.inl ?_)⟩
  rw [Label.answer_guarded_rows] at hd'
  exact (Option.some.inj hd').symm

/-- The label is not inserted, since the definition cannot be written, and yet it is loaded from the directory. -/
theorem label_insert_half_written : (Label.guarded [] "label_schema.json").Reachable ∧
    ((Label.guarded [] "label_schema.json").answer Label.inserting).1
      = .error (.refusal (.storage "data/label_schema.json" .inaccessible)) ∧
    ∃ d', ((Label.guarded [] "label_schema.json").answer Label.inserting).2.directory = some d' ∧
      ¬ KeepsLoading (Label.locked [] "label_schema.json") d' := by
  refine ⟨Label.guarded_reachable _, congrArg Prod.fst Label.answer_guarded_definition,
    Label.locked [["7", "x"]] "label_schema.json", by rw [Label.answer_guarded_definition]; rfl, fun hkeeps => ?_⟩
  have hbefore : ofDirectory (Label.locked [] "label_schema.json") Label.moment
      = .ok (Label.guarded [] "label_schema.json") := by
    rw [ofDirectory, Label.loadAll_locked (by simp)]
  have hafter : ofDirectory (Label.locked [["7", "x"]] "label_schema.json") Label.moment
      = .ok (Label.guarded [["7", "x"]] "label_schema.json") := by
    rw [ofDirectory, Label.loadAll_locked (List.forall_mem_singleton.2 rfl)]
  obtain ⟨loaded, hloaded, hperm⟩ := hkeeps Label.moment _ hbefore
  rw [hafter] at hloaded
  cases hloaded
  -- the table that is loaded now has a row, that which was loaded before had none
  have hmem := hperm.mem_iff.1 (.head _)
  have hrows := congrArg (fun entry => entry.2.rows) (List.mem_singleton.1 hmem)
  cases hrows

end Database

end Relational
