import Mathlib.Data.List.InsertIdx
import Relational.Database.Change
import Relational.Proofs.Database.Rules
import Relational.Proofs.Schema.Rows

/-!
# What a change does

Whatever is asked of a sound database, and whatever becomes of it, one of few things happens to the tables: none
of them changes, one is added, removed or gets another index, or its rows are changed by one row that passed the
rules. This is the only place where the changes themselves are opened.
-/

namespace Relational.Database

open Text

/-! ## Sound databases -/

/-- Every table is sound and stands under its own name, and no two have one name. -/
structure Sound (db : Database) : Prop where
  nodup : (db.tables.map Prod.fst).Nodup
  keyed : ∀ entry ∈ db.tables, keyOf entry.2.schema.name = entry.1
  tables : db.TablesSound

theorem Sound.table?_eq_some_iff {db : Database} (h : db.Sound) {name : String} {t : Table} :
    db.table? name = some t ↔ (keyOf name, t) ∈ db.tables :=
  lookup_eq_some_iff_mem h.nodup

theorem Sound.unique {db : Database} (h : db.Sound) {key : String} {t t' : Table} (ht : (key, t) ∈ db.tables)
    (ht' : (key, t') ∈ db.tables) : t = t' := by
  have hlookup := lookup_eq_some_of_mem h.nodup ht
  rw [lookup_eq_some_of_mem h.nodup ht'] at hlookup
  exact (Option.some.inj hlookup).symm

theorem Sound.keyOf_name {db : Database} (h : db.Sound) {key : String} {t : Table} (ht : (key, t) ∈ db.tables) :
    keyOf t.schema.name = key :=
  h.keyed (key, t) ht

theorem Sound.holds {db : Database} (h : db.Sound) {key : String} {t : Table} (ht : (key, t) ∈ db.tables) :
    ∃ rows, t.Holds rows :=
  (h.tables _ ht).holds

theorem table_eq_ok {db : Database} {name : String} {t : Table} : db.table name = .ok t ↔ db.table? name = some t := by
  unfold table
  cases db.table? name <;> simp

/-! ## The moment of the last change -/

@[simp] theorem stamped_name (s : Schema) (rows : List (List Cell)) (now : Timestamp) :
    (stamped s rows now).name = s.name := rfl

theorem stamped_wellFormed {s : Schema} (h : s.WellFormed) (rows : List (List Cell)) (now : Timestamp) :
    (stamped s rows now).WellFormed :=
  ⟨h.named, h.columns, h.columnsDiffer, h.key, h.constraints, h.uniques, h.foreignKeys, h.checks, h.indexNames,
    h.indexes⟩

/-! ## Writing -/

/-- The directory without the files of a table. -/
def unlink (directory : Option Directory) (table : String) : Except Failure Unit × Option Directory :=
  match directory with
  | none => (.ok (), none)
  | some d => ((Storage.delete table d).1, some (Storage.delete table d).2)

/-- Writing a table changes nothing but the directory. -/
theorem tables_persist (db : Database) (s : Schema) (rows : List (List Cell)) :
    (db.persist s rows).2.tables = db.tables := by
  unfold persist
  cases db.directory <;> rfl

theorem tables_of_persist {db saved : Database} {s : Schema} {rows : List (List Cell)}
    {written : Except Failure Unit} (h : db.persist s rows = (written, saved)) : saved.tables = db.tables := by
  rw [← tables_persist db s rows, h]

/-! ## Changes -/

/-- The rows of a table after one row was added, replaced or removed, if the rules between rows let it. -/
inductive RowChange (db : Database) (key : String) (t : Table) (rows : List (List String)) :
    List (List String) → Prop where
  | inserted {now : Timestamp} {raw row : List String} (hstored : storedRow t.schema now raw = .ok row)
      (hkeys : t.schema.KeysFree rows none row) (hrefs : db.ReferencesPresent t.schema row) :
      RowChange db key t rows (rows ++ [row])
  | updated {now : Timestamp} {raw row old : List String} {i : Nat} (hold : rows[i]? = some old)
      (hstored : storedRow t.schema now raw = .ok row) (hkeys : t.schema.KeysFree rows (some i) row)
      (hrefs : db.ReferencesPresent t.schema row) (hfree : db.Unreferenced key t.schema old i (some row)) :
      RowChange db key t rows (rows.set i row)
  | deleted {old : List String} {i : Nat} (hold : rows[i]? = some old)
      (hfree : db.Unreferenced key t.schema old i none) : RowChange db key t rows (rows.eraseIdx i)

/-- A table as it is stored at a moment: with a definition, and the content that its rows make. -/
def storedTable (s : Schema) (rows : List (List String)) (now : Timestamp) : Table :=
  ⟨stamped s (rows.map Cell.ofTexts) now, some (s.contentOf rows)⟩

/-- What can happen to a database at a moment; `New` tells which tables can be added. -/
inductive Transition (db : Database) (now : Timestamp) (New : Schema → Prop) : Database → Prop where
  | idle : Transition db now New db
  /-- The change was not written and not made. -/
  | unwritten {s : Schema} {rows : List (List Cell)} {failure : Failure} {saved : Database}
      (hsaved : db.persist s rows = (.error failure, saved)) : Transition db now New saved
  /-- The change was not written and not made, but the moment of it was kept. -/
  | restamped {key : String} {t : Table} {s : Schema} {rows : List (List Cell)}
      {failure : Failure} {saved : Database} (ht : (key, t) ∈ db.tables)
      (hsaved : db.persist s rows = (.error failure, saved)) :
      Transition db now New (saved.setTable key { t with schema := stamped t.schema rows now })
  | added {s : Schema} {saved : Database} (hs : s.Declared) (hs' : New s)
      (hnew : db.hasTable s.name = false) (hsaved : db.persist (stamped s [] now) [] = (.ok (), saved)) :
      Transition db now New (saved.setTable (keyOf s.name) (storedTable s [] now))
  | unremoved {table : String} {failure : Failure} {directory : Option Directory}
      (hunlinked : unlink db.directory table = (.error failure, directory)) :
      Transition db now New { db with directory := directory }
  | removed {key : String} {t : Table} {directory : Option Directory} (ht : (key, t) ∈ db.tables)
      (hfree : db.referrer? key = none) (hunlinked : unlink db.directory t.schema.name = (.ok (), directory)) :
      Transition db now New { db.dropTable key with directory := directory }
  | rewritten {key : String} {t : Table} {rows rows' : List (List String)} {saved : Database}
      (ht : (key, t) ∈ db.tables) (hrows : t.Holds rows) (hchange : RowChange db key t rows rows')
      (hsaved : db.persist (stamped t.schema (rows'.map Cell.ofTexts) now) (rows'.map Cell.ofTexts) = (.ok (), saved)) :
      Transition db now New (saved.setTable key (storedTable t.schema rows' now))
  | indexed {key : String} {t : Table} {s : Schema} {rows : List (List String)} {index : String}
      {columns : List String} {unique : Bool} {saved : Database} (ht : (key, t) ∈ db.tables)
      (hrows : t.Holds rows) (hindex : t.schema.addIndex index columns unique = .ok s)
      (hsaved : db.persist (stamped s (rows.map Cell.ofTexts) now) (rows.map Cell.ofTexts) = (.ok (), saved)) :
      Transition db now New (saved.setTable key (storedTable s rows now))

variable {db : Database} {now : Timestamp} {New : Schema → Prop}

/-! ## Tables are added and removed -/

theorem addTable_transition {s : Schema} (hs : s.Declared) (hs' : New s) :
    Transition db now New (db.addTable now s).2 := by
  unfold addTable
  split
  · exact .idle
  · rename_i hnew
    dsimp only
    split
    · rename_i saved hsaved
      rw [Schema.noContent_eq]
      exact .added hs hs' (by simpa using hnew) hsaved
    · rename_i failed hfailed
      generalize hsaved : db.persist (stamped s [] now) [] = outcome at hfailed ⊢
      obtain ⟨written, saved⟩ := outcome
      cases written with
      | ok => exact absurd rfl (hfailed saved)
      | error failure => exact .unwritten hsaved

theorem removeTable_transition (name : String) : Transition db now New (db.removeTable name).2 := by
  unfold removeTable
  cases ht : db.table name with
  | error failure => exact .idle
  | ok t =>
    have hmem := mem_of_table? (table_eq_ok.1 ht)
    cases hfree : db.referrer? (keyOf name) with
    | some other => simpa only [hfree] using Transition.idle
    | none =>
      simp only [hfree]
      cases hd : db.directory with
      | none =>
        have hunlinked : unlink db.directory t.schema.name = (.ok (), none) := by rw [hd]; rfl
        have hafter : db.dropTable (keyOf name) = { db.dropTable (keyOf name) with directory := none } := by
          rw [← hd]
          rfl
        rw [hafter]
        exact .removed hmem hfree hunlinked
      | some d =>
        have hunlinked : unlink db.directory t.schema.name
            = ((Storage.delete t.schema.name d).1, some (Storage.delete t.schema.name d).2) := by rw [hd]; rfl
        dsimp only
        generalize Storage.delete t.schema.name d = outcome at hunlinked ⊢
        obtain ⟨deleted, d'⟩ := outcome
        cases deleted with
        | ok => exact .removed hmem hfree hunlinked
        | error failure => exact .unremoved hunlinked

/-! ## Rows are changed -/

theorem commitRows_transition {key : String} {t : Table} {rows rows' : List (List String)}
    (ht : (key, t) ∈ db.tables) (hrows : t.Holds rows) (hchange : RowChange db key t rows rows') :
    Transition db now New (db.commitRows now key t (t.schema.contentOf rows) (rows'.map Cell.ofTexts)).2 := by
  have hcontent : (t.schema.contentOf rows).withRows (stamped t.schema (rows'.map Cell.ofTexts) now)
      (rows'.map Cell.ofTexts) = .ok (t.schema.contentOf rows') := Schema.withRows_contentOf rfl rows rows'
  simp only [commitRows, hcontent]
  generalize hsaved : db.persist (stamped t.schema (rows'.map Cell.ofTexts) now) (rows'.map Cell.ofTexts) = outcome
  obtain ⟨written, saved⟩ := outcome
  cases written with
  | ok => exact .rewritten ht hrows hchange hsaved
  | error failure => exact .unwritten hsaved

theorem loaded_eq_ok {t : Table} {content : Content} : t.loaded = .ok content ↔ t.content = some content := by
  unfold Table.loaded
  cases t.content <;> simp

theorem rowAt_eq_ok {t : Table} {position : Int} {content : Content} {i : Nat} {row : List Cell}
    (h : rowAt t position = .ok (content, i, row)) : t.content = some content ∧ content.rows[i]? = some row := by
  unfold rowAt at h
  obtain ⟨content', hloaded, h⟩ := bind_eq_ok.1 h
  cases position with
  | negSucc n => simp at h
  | ofNat n =>
    dsimp only at h
    split at h
    · rename_i cells hcells
      cases h
      exact ⟨loaded_eq_ok.1 hloaded, hcells⟩
    · simp at h

/-- The database after one row was asked to be added, replaced or removed: nothing was done, or the checks let it and
the rows were committed. -/
inductive Commits (db : Database) (now : Timestamp) (name : String) : Database → Prop where
  | idle : Commits db now name db
  | inserted {t : Table} {content : Content} {raw row : List String} (ht : db.table? name = some t)
      (hcontent : t.content = some content) (hstored : storedRow t.schema now raw = .ok row)
      (hkeys : checkKeys t row none = .ok ()) (hrefs : checkReferences db t.schema row = .ok ()) :
      Commits db now name (db.commitRows now (keyOf name) t content (content.rows ++ [Cell.ofTexts row])).2
  | updated {t : Table} {content : Content} {raw row : List String} {old : List Cell} {i : Nat}
      (ht : db.table? name = some t) (hcontent : t.content = some content) (hold : content.rows[i]? = some old)
      (hstored : storedRow t.schema now raw = .ok row) (hkeys : checkKeys t row (some i) = .ok ())
      (hrefs : checkReferences db t.schema row = .ok ())
      (hfree : checkNotReferenced db (keyOf name) t.schema old i (some row) = .ok ()) :
      Commits db now name (db.commitRows now (keyOf name) t content (content.rows.set i (Cell.ofTexts row))).2
  | deleted {t : Table} {content : Content} {old : List Cell} {i : Nat} (ht : db.table? name = some t)
      (hcontent : t.content = some content) (hold : content.rows[i]? = some old)
      (hfree : checkNotReferenced db (keyOf name) t.schema old i none = .ok ()) :
      Commits db now name (db.commitRows now (keyOf name) t content (content.rows.eraseIdx i)).2

theorem insertRow_commits (db : Database) (now : Timestamp) (name : String) (input : RowInput) :
    Commits db now name (db.insertRow now name input).2 := by
  unfold insertRow
  dsimp only
  split
  · exact .idle
  · rename_i t content row hchecked
    obtain ⟨t', ht, hchecked⟩ := bind_eq_ok.1 hchecked
    obtain ⟨row', hstored, hchecked⟩ := bind_eq_ok.1 hchecked
    obtain ⟨hrules, hchecked⟩ := check_bind_eq_ok.1 hchecked
    obtain ⟨content', hloaded, hchecked⟩ := bind_eq_ok.1 hchecked
    cases hchecked
    simp only [checkTogether_eq_ok, List.forall_mem_cons] at hrules
    exact .inserted (table_eq_ok.1 ht) (loaded_eq_ok.1 hloaded) hstored hrules.1 hrules.2.1

theorem updateRow_commits (db : Database) (now : Timestamp) (name : String) (position : Int) (input : RowInput) :
    Commits db now name (db.updateRow now name position input).2 := by
  unfold updateRow
  dsimp only
  split
  · exact .idle
  · rename_i t content i row hchecked
    obtain ⟨t', ht, hchecked⟩ := bind_eq_ok.1 hchecked
    obtain ⟨⟨content', i', old⟩, hat, hchecked⟩ := bind_eq_ok.1 hchecked
    obtain ⟨raw, -, hchecked⟩ := bind_eq_ok.1 hchecked
    obtain ⟨row', hstored, hchecked⟩ := bind_eq_ok.1 hchecked
    obtain ⟨hrules, hchecked⟩ := check_bind_eq_ok.1 hchecked
    cases hchecked
    simp only [checkTogether_eq_ok, List.forall_mem_cons] at hrules
    obtain ⟨hkeys, hrefs, hfree, -⟩ := hrules
    obtain ⟨hcontent, hold⟩ := rowAt_eq_ok hat
    exact .updated (table_eq_ok.1 ht) hcontent hold hstored hkeys hrefs hfree

theorem deleteRow_commits (db : Database) (now : Timestamp) (name : String) (position : Int) :
    Commits db now name (db.deleteRow now name position).2 := by
  unfold deleteRow
  dsimp only
  split
  · exact .idle
  · rename_i t content i hchecked
    obtain ⟨t', ht, hchecked⟩ := bind_eq_ok.1 hchecked
    obtain ⟨⟨content', i', old⟩, hat, hchecked⟩ := bind_eq_ok.1 hchecked
    obtain ⟨hfree, hchecked⟩ := check_bind_eq_ok.1 hchecked
    cases hchecked
    obtain ⟨hcontent, hold⟩ := rowAt_eq_ok hat
    exact .deleted (table_eq_ok.1 ht) hcontent hold hfree

/-- In a sound database the checks speak about the rows. -/
theorem Commits.transition {name : String} {db' : Database} (h : db.Sound) (hcommits : Commits db now name db') :
    Transition db now New db' := by
  -- the content of a table is what its rows make it, and an old row is one of them
  have hcontents : ∀ {t content}, db.table? name = some t → t.content = some content →
      ∃ rows, t.Holds rows ∧ content = t.schema.contentOf rows := by
    intro t content ht hcontent
    obtain ⟨rows, hrows⟩ := h.holds (mem_of_table? ht)
    exact ⟨rows, hrows, Option.some.inj (hcontent.symm.trans hrows.content)⟩
  have holds : ∀ {s : Schema} {rows old} {i : Nat}, (s.contentOf rows).rows[i]? = some old →
      ∃ texts, rows[i]? = some texts ∧ Cell.ofTexts texts = old := by
    intro s rows old i hold
    rwa [Schema.contentOf, List.getElem?_map, Option.map_eq_some_iff] at hold
  cases hcommits with
  | idle => exact .idle
  | @inserted t content raw row ht hcontent hstored hkeys hrefs =>
    obtain ⟨rows, hrows, rfl⟩ := hcontents ht hcontent
    rw [checkKeys_eq_ok hrows] at hkeys
    rw [checkReferences_eq_ok h.tables] at hrefs
    have hnew : (t.schema.contentOf rows).rows ++ [Cell.ofTexts row] = (rows ++ [row]).map Cell.ofTexts := by
      simp [Schema.contentOf]
    rw [hnew]
    exact commitRows_transition (mem_of_table? ht) hrows (.inserted hstored hkeys hrefs)
  | @updated t content raw row old i ht hcontent hold hstored hkeys hrefs hfree =>
    obtain ⟨rows, hrows, rfl⟩ := hcontents ht hcontent
    obtain ⟨texts, htexts, rfl⟩ := holds hold
    rw [checkKeys_eq_ok hrows] at hkeys
    rw [checkReferences_eq_ok h.tables] at hrefs
    rw [checkNotReferenced_eq_ok h.tables] at hfree
    have hnew : (t.schema.contentOf rows).rows.set i (Cell.ofTexts row) = (rows.set i row).map Cell.ofTexts := by
      rw [List.map_set]
      rfl
    rw [hnew]
    exact commitRows_transition (mem_of_table? ht) hrows (.updated htexts hstored hkeys hrefs hfree)
  | @deleted t content old i ht hcontent hold hfree =>
    obtain ⟨rows, hrows, rfl⟩ := hcontents ht hcontent
    obtain ⟨texts, htexts, rfl⟩ := holds hold
    rw [checkNotReferenced_eq_ok h.tables] at hfree
    have hnew : (t.schema.contentOf rows).rows.eraseIdx i = (rows.eraseIdx i).map Cell.ofTexts :=
      List.eraseIdx_map _ _ _
    rw [hnew]
    exact commitRows_transition (mem_of_table? ht) hrows (.deleted htexts hfree)

theorem insertRow_transition (h : db.Sound) (name : String) (input : RowInput) :
    Transition db now New (db.insertRow now name input).2 :=
  (insertRow_commits db now name input).transition h

theorem updateRow_transition (h : db.Sound) (name : String) (position : Int) (input : RowInput) :
    Transition db now New (db.updateRow now name position input).2 :=
  (updateRow_commits db now name position input).transition h

theorem deleteRow_transition (h : db.Sound) (name : String) (position : Int) :
    Transition db now New (db.deleteRow now name position).2 :=
  (deleteRow_commits db now name position).transition h

/-! ## Indexes are added -/

theorem map_setEntry {α β γ : Type} [BEq α] (f : β → γ) (key : α) (value : β) (entries : List (α × β)) :
    (setEntry key value entries).map (fun entry => (entry.1, f entry.2))
      = setEntry key (f value) (entries.map fun entry => (entry.1, f entry.2)) := by
  induction entries with
  | nil => rfl
  | cons entry entries ih =>
    obtain ⟨k, v⟩ := entry
    simp only [setEntry, List.map_cons]
    split
    · rfl
    · rw [List.map_cons, ih]

/-- One more declared index: it is set, filled, among the indexes of the content. -/
theorem contentOf_addIndex {s s' : Schema} {index : String} {columns : List String} {unique : Bool}
    (h : s.addIndex index columns unique = .ok s') (rows : List (List String)) : ∃ key,
    s.resolve "INDEX" columns = .ok key ∧
      s'.contentOf rows = { s.contentOf rows with
        indexes := setEntry (lower index) (s.filled rows (.empty index key unique)) (s.contentOf rows).indexes } := by
  obtain ⟨-, -, key, hkey, rfl⟩ := Schema.addIndex_eq_ok.1 h
  refine ⟨key, hkey, ?_⟩
  have hempty : ({ s with indexes := s.indexes ++ [(index, ⟨key, unique⟩)] } : Schema).emptyIndexes
      = setEntry (lower index) (.empty index key unique) s.emptyIndexes := by
    simp only [Schema.emptyIndexes, List.map_append, List.map_singleton, ← List.append_assoc]
    exact collectEntries_concat _ _ _
  simp only [Schema.contentOf, hempty, map_setEntry]
  rfl

/-- The database after an index was asked for: nothing was done, or the table was written with the index, or that
failed and only the moment was kept. -/
inductive Indexes (db : Database) (now : Timestamp) (name index : String) (columns : List String) (unique : Bool) :
    Database → Prop where
  | idle : Indexes db now name index columns unique db
  | indexed {t : Table} {rows : List (List String)} {s : Schema} {saved : Database} (ht : db.table? name = some t)
      (hrows : t.Holds rows) (hindex : t.schema.addIndex index columns unique = .ok s)
      (hapart : unique = true →
        duplicateKey? (t.schema.filled rows (.empty index (columns.filterMap t.schema.spelling) unique)) = none)
      (hsaved : db.persist (stamped s (rows.map Cell.ofTexts) now) (rows.map Cell.ofTexts) = (.ok (), saved)) :
      Indexes db now name index columns unique (saved.setTable (keyOf name) (storedTable s rows now))
  | unwritten {t : Table} {rows : List (List String)} {s : Schema} {failure : Failure} {saved : Database}
      (ht : db.table? name = some t) (hrows : t.Holds rows) (hindex : t.schema.addIndex index columns unique = .ok s)
      (hsaved : db.persist (stamped s (rows.map Cell.ofTexts) now) (rows.map Cell.ofTexts) = (.error failure, saved)) :
      Indexes db now name index columns unique
        (saved.setTable (keyOf name) { t with schema := stamped t.schema (rows.map Cell.ofTexts) now })

theorem createIndex_indexes {name : String}
    (hholds : ∀ t content, db.table? name = some t → t.content = some content → ∃ rows, t.Holds rows) (index : String)
    (columns : List String) (unique : Bool) :
    Indexes db now name index columns unique (db.createIndex now name index columns unique).2 := by
  unfold createIndex
  dsimp only
  split
  · exact .idle
  · rename_i t content s filled hchecked
    obtain ⟨t', ht, hchecked⟩ := bind_eq_ok.1 hchecked
    rw [table_eq_ok] at ht
    split at hchecked
    · simp at hchecked
    obtain ⟨content', hloaded, hchecked⟩ := bind_eq_ok.1 hchecked
    rw [loaded_eq_ok] at hloaded
    obtain ⟨rows, hrows⟩ := hholds t' content' ht hloaded
    obtain rfl : content' = t'.schema.contentOf rows := Option.some.inj (hloaded.symm.trans hrows.content)
    split at hchecked
    · simp at hchecked
    obtain ⟨filled', hfilled, hchecked⟩ := bind_eq_ok.1 hchecked
    have hrowsOf : (t'.schema.contentOf rows).rows = rows.map Cell.ofTexts := rfl
    rw [hrowsOf, Schema.fillIndex_texts] at hfilled
    -- the keys of a unique index are looked at first; the definition is the same either way
    have hadded : (unique = true → duplicateKey? filled' = none) ∧
        ∃ s', t'.schema.addIndex index columns unique = .ok s' ∧
          (pure (t', t'.schema.contentOf rows, s', filled') : Except Failure _) = .ok (t, content, s, filled) := by
      split at hchecked
      · split at hchecked
        · simp at hchecked
        · rename_i hnone
          exact ⟨fun _ => Option.eq_none_iff_forall_ne_some.2 hnone, bind_eq_ok.1 hchecked⟩
      · rename_i hnot
        exact ⟨fun hunique => absurd hunique hnot, bind_eq_ok.1 hchecked⟩
    obtain ⟨hapart, s', hindex, heq⟩ := hadded
    cases heq
    obtain ⟨key, hkey, hcontent⟩ := contentOf_addIndex hindex rows
    -- the index was filled under the spelling of the table
    have hspelled : columns.filterMap (fun column => (t.schema.column? column).map Column.name) = key :=
      Schema.filterMap_spelling hkey
    cases hfilled
    rw [hspelled, ← hcontent, hrowsOf]
    generalize hsaved : db.persist (stamped s (rows.map Cell.ofTexts) now) (rows.map Cell.ofTexts) = outcome
    obtain ⟨written, saved⟩ := outcome
    cases written with
    | ok => exact .indexed ht hrows hindex hapart hsaved
    | error failure => exact .unwritten ht hrows hindex hsaved

theorem createIndex_transition (h : db.Sound) (name index : String) (columns : List String)
    (unique : Bool) : Transition db now New (db.createIndex now name index columns unique).2 := by
  have hindexes : Indexes db now name index columns unique (db.createIndex now name index columns unique).2 :=
    createIndex_indexes (fun t content ht _ => h.holds (mem_of_table? ht)) index columns unique
  generalize (db.createIndex now name index columns unique).2 = db' at hindexes ⊢
  cases hindexes with
  | idle => exact .idle
  | indexed ht hrows hindex _ hsaved => exact .indexed (mem_of_table? ht) hrows hindex hsaved
  | unwritten ht hrows hindex hsaved => exact .restamped (mem_of_table? ht) hsaved

end Relational.Database
