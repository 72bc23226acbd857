import Relational.Proofs.Database.Backed
import Relational.Proofs.Database.Run

/-!
# Reachable databases

A database begins without tables, in memory or over an empty directory. Tables are added and removed, rows change,
indexes are declared, and all tables are saved or loaded again, in any order and as often as one likes. A change may be
rejected, its writing may fail at any file, loading may stop at a file that cannot be read, and files may get lost.
In every database that is reached so, the rows of a table that was loaded stand in it, its indexes are what the rows
make them, and what can be loaded from the directory is of the same kind. A table whose rows could not be loaded has
none at all. The rows may be held to more than that: it is enough to look at the rows that a change puts in.
-/

namespace Relational

/-- A table with a well-formed definition. If it was loaded, its rows are in order, and its content is what they
make it. -/
structure Table.Fit (K : RowInvariant) (t : Table) : Prop where
  wellFormed : t.schema.WellFormed
  regular : t.schema.Regular
  rows : ∀ content, t.content = some content → ∃ rows, t.Holds rows ∧ K.holds t.schema rows

namespace Database

open Storage

/-- What is asked of a database, or happens to its files. -/
inductive Move : Database → Database → Prop where
  | addTable {db : Database} (now : Timestamp) {s : Schema} (hdeclared : s.Declared) (hregular : s.Regular) :
      Move db (db.addTable now s).2
  | removeTable {db : Database} (name : String) : Move db (db.removeTable name).2
  | insertRow {db : Database} (now : Timestamp) (name : String) (input : RowInput) :
      Move db (db.insertRow now name input).2
  | updateRow {db : Database} (now : Timestamp) (name : String) (position : Int) (input : RowInput) :
      Move db (db.updateRow now name position input).2
  | deleteRow {db : Database} (now : Timestamp) (name : String) (position : Int) :
      Move db (db.deleteRow now name position).2
  | createIndex {db : Database} (now : Timestamp) (name index : String) (columns : List String) (unique : Bool) :
      Move db (db.createIndex now name index columns unique).2
  | saveAll {db : Database} (now : Timestamp) : Move db (db.saveAll now).2
  /-- All tables are loaded, while some files may not be readable. -/
  | loadAll {db : Database} {d view : Directory} (hd : db.directory = some d) (hview : d.Remains view)
      (now : Timestamp) : Move db { (loadAll { db with directory := some view } now).2 with directory := some d }
  /-- Files are lost, or accesses refused. -/
  | lose {db : Database} {d d' : Directory} (hd : db.directory = some d) (hlost : d.Remains d') :
      Move db { db with directory := some d' }

/-- What can become of a database that begins without tables. -/
inductive Reachable : Database → Prop where
  | empty (path : Option String) : Reachable (empty (path.map .empty))
  | move {db db' : Database} (h : Reachable db) (hmove : Move db db') : Reachable db'

/-- A table with the definition and the rows is in the database, or could be loaded. -/
def Shows (db : Database) (s : Schema) (cells : List (List Cell)) : Prop :=
  (∃ entry ∈ db.tables, entry.2.schema = s ∧ entry.2.rows = cells) ∨
    ∃ d, db.directory = some d ∧ Reads d s.name s ∧ ReadsRows d s cells

/-- The rows of a table after a row was put in, replaced or removed. A new row is in its stored form. -/
inductive Exchanges (s : Schema) (now : Timestamp) (rows : List (List String)) : List (List String) → Prop where
  | inserted {raw row : List String} (hstored : storedRow s now raw = .ok row) : Exchanges s now rows (rows ++ [row])
  | updated {raw row : List String} {i : Nat} (hi : i < rows.length) (hstored : storedRow s now raw = .ok row) :
      Exchanges s now rows (rows.set i row)
  | deleted (i : Nat) : Exchanges s now rows (rows.eraseIdx i)

/-- Every table is fit and stands under its own name, and what can be loaded from the directory fits the tables. -/
structure Consistent (K : RowInvariant) (db : Database) : Prop where
  nodup : (db.tables.map Prod.fst).Nodup
  keyed : ∀ entry ∈ db.tables, keyOf entry.2.schema.name = entry.1
  fit : ∀ entry ∈ db.tables, entry.2.Fit K
  backed : ∀ d, db.directory = some d → Backed K d ∧ ∀ entry ∈ db.tables, Agrees d entry.2.schema

variable {K : RowInvariant} {db db' saved : Database} {now : Timestamp} {key name : String} {t : Table} {s : Schema}
  {rows rows' : List (List String)}

/-! ## Tables -/

theorem stamped_sameRules (s : Schema) (cells : List (List Cell)) (now : Timestamp) :
    s.SameRules (stamped s cells now) :=
  ⟨rfl, rfl, rfl, rfl, rfl⟩

theorem stamped_regular (h : s.Regular) (cells : List (List Cell)) (now : Timestamp) :
    (stamped s cells now).Regular := by
  refine ⟨?_, h.columns⟩
  rw [stamped, h.written]
  rfl

/-- Another moment leaves a table fit. -/
theorem stamped_fit (h : t.Fit K) (cells : List (List Cell)) (now : Timestamp) :
    ({ t with schema := stamped t.schema cells now } : Table).Fit K := by
  refine ⟨stamped_wellFormed h.wellFormed _ _, stamped_regular h.regular _ _, fun content hcontent => ?_⟩
  obtain ⟨rows, hrows, hkeeps⟩ := h.rows content hcontent
  exact ⟨rows, ⟨hrows.content, hrows.wide⟩, K.sameRules (stamped_sameRules _ _ _) hkeeps⟩

theorem storedTable_fit (hs : s.WellFormed) (hregular : s.Regular) (hrows : K.holds s rows) (now : Timestamp) :
    (storedTable s rows now).Fit K where
  wellFormed := stamped_wellFormed hs _ _
  regular := stamped_regular hregular _ _
  rows := fun _ _ => ⟨rows, storedTable_holds (K.wide hrows) now, K.sameRules (stamped_sameRules _ _ _) hrows⟩

theorem setTable_mem (db : Database) (key : String) (t : Table) : (key, t) ∈ (db.setTable key t).tables :=
  mem_of_lookup_eq_some (lookup_setEntry_self key t db.tables)

/-- What holds of a table and of those under other names holds of all after it was put in its place. -/
theorem forall_mem_setTable (hnodup : (db.tables.map Prod.fst).Nodup) {P : String × Table → Prop} (hnew : P (key, t))
    (hold : ∀ entry ∈ db.tables, entry.1 ≠ key → P entry) : ∀ entry ∈ (db.setTable key t).tables, P entry := by
  rintro ⟨k, other⟩ hentry
  rcases (mem_setEntry hnodup).1 hentry with ⟨rfl, rfl⟩ | ⟨hne, hother⟩
  · exact hnew
  · exact hold _ hother hne

theorem shows_storedTable (db : Database) (key : String) (s : Schema) (rows : List (List String)) (now : Timestamp) :
    (db.setTable key (storedTable s rows now)).Shows (stamped s (rows.map Cell.ofTexts) now) (rows.map Cell.ofTexts) :=
  .inl ⟨_, setTable_mem db key _, rfl, rfl⟩

/-- Rows may be written for a table if there are none, or if the table is there with the same columns; then they are in
order under each definition with the rules of the table under which they can be loaded. -/
def MayWrite (K : RowInvariant) (db saved : Database) (s : Schema) (rows : List (List String)) : Prop :=
  rows = [] ∨ ∃ t, (keyOf s.name, t) ∈ db.tables ∧ t.schema.name = s.name ∧ t.schema.columns = s.columns ∧
    ∀ s', t.schema.SameRules s' → saved.Shows s' (rows.map Cell.ofTexts) → K.holds s' rows

namespace Consistent

theorem table?_eq_some_iff (h : db.Consistent K) : db.table? name = some t ↔ (keyOf name, t) ∈ db.tables :=
  lookup_eq_some_iff_mem h.nodup

theorem keyOf_name (h : db.Consistent K) (ht : (key, t) ∈ db.tables) : keyOf t.schema.name = key :=
  h.keyed (key, t) ht

/-- The content of a table is what its rows make it. -/
theorem holds (h : db.Consistent K) (ht : (key, t) ∈ db.tables) {content : Content}
    (hcontent : t.content = some content) :
    ∃ rows, t.Holds rows ∧ K.holds t.schema rows ∧ content = t.schema.contentOf rows := by
  obtain ⟨rows, hrows, hkeeps⟩ := (h.fit _ ht).rows content hcontent
  exact ⟨rows, hrows, hkeeps, Option.some.inj (hcontent.symm.trans hrows.content)⟩

/-- The rows that the database shows of a table are in order, whether it is in memory or could be loaded. -/
theorem holds_shown (h : db.Consistent K) {cells : List (List Cell)} (hshows : db.Shows s cells) :
    ∃ rows : List (List String), cells = rows.map Cell.ofTexts ∧ K.holds s rows := by
  rcases hshows with ⟨entry, hentry, rfl, rfl⟩ | ⟨d, hd, hread, hcells⟩
  · cases hcontent : entry.2.content with
    | none =>
      rw [Table.rows, hcontent]
      exact ⟨[], rfl, K.nil _⟩
    | some content =>
      obtain ⟨rows, hrows, hkeeps⟩ := (h.fit entry hentry).rows content hcontent
      exact ⟨rows, hrows.rows_eq, hkeeps⟩
  · exact (h.backed d hd).1.rows s.name s cells hread hcells

theorem empty (path : Option String) : (empty (path.map .empty)).Consistent K := by
  refine ⟨List.nodup_nil, fun _ h => (List.not_mem_nil h).elim, fun _ h => (List.not_mem_nil h).elim, ?_⟩
  intro d hd
  obtain ⟨path, -, rfl⟩ := Option.map_eq_some_iff.1 hd
  exact ⟨.empty path, fun _ h => (List.not_mem_nil h).elim⟩

theorem setTable (h : db.Consistent K) (hkey : keyOf t.schema.name = key) (ht : t.Fit K)
    (hagrees : ∀ d, db.directory = some d → Agrees d t.schema) : (db.setTable key t).Consistent K where
  nodup := nodup_setEntry h.nodup
  keyed := forall_mem_setTable h.nodup hkey fun entry hentry _ => h.keyed entry hentry
  fit := forall_mem_setTable h.nodup ht fun entry hentry _ => h.fit entry hentry
  backed := fun d hd =>
    ⟨(h.backed d hd).1, forall_mem_setTable h.nodup (hagrees d hd) fun entry hentry _ => (h.backed d hd).2 entry hentry⟩

theorem dropTable (h : db.Consistent K) (key : String) : (db.dropTable key).Consistent K := by
  have hsub : (db.dropTable key).tables ⊆ db.tables := (removeEntry_sublist key db.tables).subset
  refine ⟨nodup_removeEntry h.nodup, fun entry hentry => h.keyed entry (hsub hentry),
    fun entry hentry => h.fit entry (hsub hentry), fun d hd => ?_⟩
  exact ⟨(h.backed d hd).1, fun entry hentry => (h.backed d hd).2 entry (hsub hentry)⟩

/-- Files may get lost. -/
theorem remains (h : db.Consistent K) {d d' : Directory} (hd : db.directory = some d) (hlost : d.Remains d') :
    ({ db with directory := some d' } : Database).Consistent K := by
  refine ⟨h.nodup, h.keyed, h.fit, ?_⟩
  rintro _ ⟨⟩
  obtain ⟨hbacked, hagrees⟩ := h.backed d hd
  exact ⟨hbacked.remains hlost, fun entry hentry => Backed.agrees_remains (hagrees entry hentry) hlost⟩

/-! ## Writing a table -/

/-- Writing a table that takes the place of the one under its name. -/
theorem persist (h : db.Consistent K) (hs : s.WellFormed) (hregular : s.Regular)
    (hwide : ∀ row ∈ rows, row.length = s.columns.length) {written : Except Failure Unit}
    (hsaved : db.persist s (rows.map Cell.ofTexts) = (written, saved)) (hnew : written = .ok () → K.holds s rows)
    (hmay : MayWrite K db saved s rows) : (written ≠ .ok () → saved.Consistent K) ∧
      (written = .ok () → ∀ t, t.schema = s → t.Fit K → (saved.setTable (keyOf s.name) t).Consistent K) := by
  have htables := tables_of_persist hsaved
  unfold Database.persist at hsaved
  cases hd : db.directory with
  | none =>
    simp only [hd] at hsaved
    cases hsaved
    refine ⟨fun hne => absurd rfl hne, ?_⟩
    rintro - t rfl ht
    refine h.setTable rfl ht fun d hd' => ?_
    rw [hd] at hd'
    cases hd'
  | some d =>
    simp only [hd] at hsaved
    generalize hsave : Storage.save s (rows.map Cell.ofTexts) d = outcome at hsaved
    obtain ⟨result, d'⟩ := outcome
    cases hsaved
    obtain ⟨hbacked, hagrees⟩ := h.backed d hd
    have hnames : ∀ s', Reads d s.name s' → rows = [] ∨ s'.columnNames = s.columnNames := by
      intro s' hread
      refine hmay.imp_right fun ⟨t, ht, hname, hcolumns, _⟩ => ?_
      rw [← (hagrees _ ht s' (hname ▸ hread)).columnNames, Schema.columnNames, hcolumns, Schema.columnNames]
    have hold : ∀ s', Reads d s.name s' → Reads d' s.name s' → ReadsRows d' s' (rows.map Cell.ofTexts) →
        K.holds s' rows := by
      intro s' hread hread' hcells
      rcases hmay with rfl | ⟨t, ht, hname, -, hkeeps⟩
      · exact K.nil s'
      · have hsame := hagrees _ ht s' (hname ▸ hread)
        refine hkeeps s' hsame (.inr ⟨d', rfl, ?_, hcells⟩)
        rwa [← hsame.name, hname]
    obtain ⟨hbacked', hothers, hagrees'⟩ := hbacked.save hs hregular hwide hnames hsave hnew hold
    constructor
    · intro hne
      refine ⟨h.nodup, h.keyed, h.fit, ?_⟩
      rintro _ ⟨⟩
      exact ⟨hbacked', fun entry hentry => hothers _ (hagrees entry hentry) fun hok => absurd hok hne⟩
    · rintro rfl t rfl ht
      refine ⟨nodup_setEntry h.nodup, forall_mem_setTable h.nodup rfl fun entry hentry _ => h.keyed entry hentry,
        forall_mem_setTable h.nodup ht fun entry hentry _ => h.fit entry hentry, ?_⟩
      rintro _ ⟨⟩
      refine ⟨hbacked', forall_mem_setTable h.nodup (hagrees' rfl) fun entry hentry hne => ?_⟩
      -- a table under another key has another name
      refine hothers _ (hagrees entry hentry) fun _ hname => absurd ?_ hne
      exact (h.keyed entry hentry).symm.trans (congrArg keyOf hname)

/-- A table is written with the present moment, and then put in its place. -/
theorem store (h : db.Consistent K) (hs : s.WellFormed) (hregular : s.Regular)
    (hwide : ∀ row ∈ rows, row.length = s.columns.length) {written : Except Failure Unit}
    (hsaved : db.persist (stamped s (rows.map Cell.ofTexts) now) (rows.map Cell.ofTexts) = (written, saved))
    (hnew : written = .ok () → K.holds s rows) (hmay : MayWrite K db saved s rows) :
    (written ≠ .ok () → saved.Consistent K) ∧
      (written = .ok () → (saved.setTable (keyOf s.name) (storedTable s rows now)).Consistent K) := by
  obtain ⟨hfailed, hdone⟩ := h.persist (stamped_wellFormed hs _ _) (stamped_regular hregular _ _) hwide hsaved
    (fun hok => K.sameRules (stamped_sameRules _ _ _) (hnew hok)) hmay
  exact ⟨hfailed, fun hok => hdone hok _ rfl (storedTable_fit hs hregular (hnew hok) now)⟩

/-! ## Adding and removing tables -/

theorem addTable (h : db.Consistent K) (hs : s.WellFormed) (hregular : s.Regular) :
    (db.addTable now s).2.Consistent K := by
  unfold Database.addTable
  split
  · exact h
  · dsimp only
    have hnone : ∀ row ∈ ([] : List (List String)), row.length = s.columns.length :=
      fun _ hrow => (List.not_mem_nil hrow).elim
    have hstore : ∀ {written saved}, db.persist (stamped s [] now) [] = (written, saved) →
        (written ≠ .ok () → saved.Consistent K) ∧
          (written = .ok () → (saved.setTable (keyOf s.name) (storedTable s [] now)).Consistent K) :=
      fun hsaved => h.store hs hregular hnone hsaved (fun _ => K.nil s) (.inl rfl)
    split
    · rename_i saved hsaved
      rw [Schema.noContent_eq]
      exact (hstore hsaved).2 rfl
    · rename_i failed hfailed
      exact (hstore rfl).1 fun hok => hfailed _ (Prod.ext hok rfl)

theorem removeTable (h : db.Consistent K) (name : String) : (db.removeTable name).2.Consistent K := by
  unfold Database.removeTable
  dsimp only
  split
  · exact h
  · rename_i t ht
    split
    · exact h
    · split
      · exact h.dropTable _
      · rename_i d hd
        obtain ⟨hbacked, -⟩ := h.backed d hd
        split
        · rename_i d' hdeleted
          exact (h.dropTable (keyOf name)).remains hd (Backed.remains_delete hbacked.nodup hdeleted)
        · rename_i failure d' hdeleted
          exact h.remains hd (Backed.remains_delete hbacked.nodup hdeleted)

/-! ## Changing rows and indexes -/

/-- Rows take the place of others. They are in order if they are under each definition with the rules of the table
under which the database then shows them. -/
theorem commitRows (h : db.Consistent K) (ht : (key, t) ∈ db.tables) (old : List (List String))
    (hwide : ∀ row ∈ rows, row.length = t.schema.columns.length)
    (hput : ∀ s, t.schema.SameRules s →
      (db.commitRows now key t (t.schema.contentOf old) (rows.map Cell.ofTexts)).2.Shows s (rows.map Cell.ofTexts) →
      K.holds s rows) :
    (db.commitRows now key t (t.schema.contentOf old) (rows.map Cell.ofTexts)).2.Consistent K := by
  have hcontent : (t.schema.contentOf old).withRows (stamped t.schema (rows.map Cell.ofTexts) now)
      (rows.map Cell.ofTexts) = .ok (t.schema.contentOf rows) := Schema.withRows_contentOf rfl old rows
  have hfit := h.fit _ ht
  have hkey : keyOf t.schema.name = key := h.keyOf_name ht
  subst hkey
  simp only [Database.commitRows, hcontent] at hput ⊢
  generalize hsaved : db.persist (stamped t.schema (rows.map Cell.ofTexts) now) (rows.map Cell.ofTexts) = outcome
    at hput ⊢
  obtain ⟨written, saved⟩ := outcome
  cases written with
  | ok =>
    have hkeeps : K.holds t.schema rows := K.sameRules (stamped_sameRules _ _ _).symm
      (hput _ (stamped_sameRules _ _ _) (shows_storedTable saved _ _ _ _))
    exact (h.store hfit.wellFormed hfit.regular hwide hsaved (fun _ => hkeeps)
      (.inr ⟨t, ht, rfl, rfl, fun s' hsame _ => K.sameRules hsame hkeeps⟩)).2 rfl
  | error failure =>
    exact (h.store hfit.wellFormed hfit.regular hwide hsaved (fun hok => by cases hok)
      (.inr ⟨t, ht, rfl, rfl, hput⟩)).1 (by simp)

theorem commits (h : db.Consistent K) (hcommits : Commits db now name db')
    (hput : ∀ entry ∈ db.tables, ∀ rows rows', entry.2.Holds rows → K.holds entry.2.schema rows →
      Exchanges entry.2.schema now rows rows' → ∀ s, entry.2.schema.SameRules s →
      db'.Shows s (rows'.map Cell.ofTexts) → K.holds s rows') : db'.Consistent K := by
  cases hcommits with
  | idle => exact h
  | @inserted t content raw row ht hcontent hstored _ _ =>
    have hmem := mem_of_table? ht
    obtain ⟨rows, hrows, hkeeps, rfl⟩ := h.holds hmem hcontent
    have hnew : (t.schema.contentOf rows).rows ++ [Cell.ofTexts row] = (rows ++ [row]).map Cell.ofTexts := by
      simp [Schema.contentOf]
    rw [hnew] at hput ⊢
    refine h.commitRows hmem rows ?_ (hput _ hmem rows _ hrows hkeeps (.inserted hstored))
    rw [List.forall_mem_append, List.forall_mem_singleton]
    exact ⟨hrows.wide, Schema.length_storedRow hstored⟩
  | @updated t content raw row old i ht hcontent hold hstored _ _ _ =>
    have hmem := mem_of_table? ht
    obtain ⟨rows, hrows, hkeeps, rfl⟩ := h.holds hmem hcontent
    have hi : i < rows.length := by
      have hlt := (List.getElem?_eq_some_iff.1 hold).1
      rwa [Schema.contentOf, List.length_map] at hlt
    have hnew : (t.schema.contentOf rows).rows.set i (Cell.ofTexts row) = (rows.set i row).map Cell.ofTexts := by
      rw [List.map_set]
      rfl
    rw [hnew] at hput ⊢
    refine h.commitRows hmem rows (fun other hother => ?_) (hput _ hmem rows _ hrows hkeeps (.updated hi hstored))
    rcases List.mem_or_eq_of_mem_set hother with hother | rfl
    · exact hrows.wide other hother
    · exact Schema.length_storedRow hstored
  | @deleted t content old i ht hcontent _ _ =>
    have hmem := mem_of_table? ht
    obtain ⟨rows, hrows, hkeeps, rfl⟩ := h.holds hmem hcontent
    have hnew : (t.schema.contentOf rows).rows.eraseIdx i = (rows.eraseIdx i).map Cell.ofTexts :=
      List.eraseIdx_map _ _ _
    rw [hnew] at hput ⊢
    exact h.commitRows hmem rows (fun other hother => hrows.wide other (List.mem_of_mem_eraseIdx hother))
      (hput _ hmem rows _ hrows hkeeps (.deleted i))

theorem addIndex_regular {s s' : Schema} {index : String} {columns : List String} {unique : Bool}
    (h : s.addIndex index columns unique = .ok s') (hs : s.Regular) : s'.Regular := by
  obtain ⟨-, -, key, -, rfl⟩ := Schema.addIndex_eq_ok.1 h
  exact ⟨hs.written, hs.columns⟩

theorem createIndex (h : db.Consistent K) (name index : String) (columns : List String) (unique : Bool) :
    (db.createIndex now name index columns unique).2.Consistent K := by
  have hindexes : Indexes db now name index columns unique (db.createIndex now name index columns unique).2 := by
    refine createIndex_indexes (fun t content ht hcontent => ?_) index columns unique
    obtain ⟨rows, hrows, -⟩ := h.holds (mem_of_table? ht) hcontent
    exact ⟨rows, hrows⟩
  generalize (db.createIndex now name index columns unique).2 = db' at hindexes ⊢
  -- the rows are in order under the old definition, which is the one to be read if the new one is not written
  have hstore : ∀ {t rows s written saved}, db.table? name = some t → t.Holds rows →
      t.schema.addIndex index columns unique = .ok s → (written = .ok () → unique = true →
        duplicateKey? (t.schema.filled rows (.empty index (columns.filterMap t.schema.spelling) unique)) = none) →
      db.persist (stamped s (rows.map Cell.ofTexts) now) (rows.map Cell.ofTexts) = (written, saved) →
      keyOf s.name = keyOf name ∧ (written ≠ .ok () → saved.Consistent K) ∧
        (written = .ok () → (saved.setTable (keyOf s.name) (storedTable s rows now)).Consistent K) := by
    intro t rows s written saved ht hrows hindex hapart hsaved
    have hmem := mem_of_table? ht
    have hfit := h.fit _ hmem
    obtain ⟨rows', hrows', hkeeps, -⟩ := h.holds hmem hrows.content
    obtain rfl := hrows.unique hrows'
    obtain ⟨hcolumns, hname⟩ := columns_addIndex hindex
    have hkey : keyOf s.name = keyOf name := by
      rw [hname]
      exact h.keyOf_name hmem
    refine ⟨hkey, h.store (Schema.addIndex_wellFormed hfit.wellFormed hindex) (addIndex_regular hindex hfit.regular)
      ?_ hsaved (fun hok => K.indexed hindex (hapart hok) hkeeps)
      (.inr ⟨t, hkey ▸ hmem, hname.symm, hcolumns.symm, fun s' hsame _ => K.sameRules hsame hkeeps⟩)⟩
    rw [hcolumns]
    exact hrows.wide
  cases hindexes with
  | idle => exact h
  | indexed ht hrows hindex hapart hsaved =>
    obtain ⟨hkey, -, hdone⟩ := hstore ht hrows hindex (fun _ => hapart) hsaved
    exact hkey ▸ hdone rfl
  | @unwritten t rows s failure saved ht hrows hindex hsaved =>
    obtain ⟨-, hfailed, -⟩ := hstore ht hrows hindex (fun hok => by cases hok) hsaved
    have hmem := mem_of_table? ht
    have htables : saved.tables = db.tables := tables_of_persist hsaved
    have hconsistent := hfailed (by simp)
    have hkey : keyOf t.schema.name = keyOf name := h.keyOf_name hmem
    have hfit := stamped_fit (h.fit (keyOf name, t) hmem) (rows.map Cell.ofTexts) now
    refine hconsistent.setTable hkey hfit fun d hd => ?_
    have hagrees := (hconsistent.backed d hd).2
    rw [htables] at hagrees
    exact Backed.agrees_sameRules (hagrees _ hmem) (stamped_sameRules _ _ _)

/-! ## Saving all tables -/

theorem saveTables (h : db.Consistent K) {entries : List (String × Table)} (hnodup : (entries.map Prod.fst).Nodup)
    (hentries : ∀ entry ∈ entries, entry ∈ db.tables) : (saveTables now entries db).2.Consistent K := by
  induction entries generalizing db with
  | nil => exact h
  | cons entry entries ih =>
    obtain ⟨key, t⟩ := entry
    rw [List.map_cons, List.nodup_cons] at hnodup
    rw [List.forall_mem_cons] at hentries
    obtain ⟨hmem, hentries⟩ := hentries
    have hkey : keyOf t.schema.name = key := h.keyOf_name hmem
    subst hkey
    rw [Database.saveTables]
    split
    · exact h
    · rename_i content hloaded
      obtain ⟨rows, hrows, hkeeps, rfl⟩ := h.holds hmem (loaded_eq_ok.1 hloaded)
      have hcells : (t.schema.contentOf rows).rows = rows.map Cell.ofTexts := rfl
      have hfit := stamped_fit (h.fit _ hmem) (rows.map Cell.ofTexts) now
      have hstamped := stamped_sameRules t.schema (rows.map Cell.ofTexts) now
      -- the table is given its moment before it is written
      have hset := h.setTable (t := { t with schema := stamped t.schema (rows.map Cell.ofTexts) now }) rfl hfit
        fun d hd => Backed.agrees_sameRules ((h.backed d hd).2 _ hmem) hstamped
      have hput := setTable_mem db (keyOf t.schema.name)
        { t with schema := stamped t.schema (rows.map Cell.ofTexts) now }
      rw [hcells]
      dsimp only
      generalize hsaved : Database.persist _ _ _ = outcome
      obtain ⟨written, saved⟩ := outcome
      have htables : saved.tables = _ := tables_of_persist hsaved
      obtain ⟨hfailed, hdone⟩ := hset.persist hfit.wellFormed hfit.regular hrows.wide hsaved
        (fun _ => K.sameRules hstamped hkeeps)
        (.inr ⟨_, hput, rfl, rfl, fun s' hsame _ => K.sameRules (hstamped.trans hsame) hkeeps⟩)
      cases written with
      | error failure => exact hfailed (by simp)
      | ok =>
        have hconsistent := hdone rfl _ rfl hfit
        have hself : saved.setTable (keyOf t.schema.name)
            { t with schema := stamped t.schema (rows.map Cell.ofTexts) now } = saved := by
          rw [Database.setTable, setEntry_eq_self]
          rw [htables]
          exact lookup_setEntry_self _ _ _
        rw [stamped_name, hself] at hconsistent
        refine ih hconsistent hnodup.2 fun entry hentry => ?_
        rw [htables]
        have hkey : entry.1 ∈ entries.map Prod.fst := List.mem_map_of_mem hentry
        refine (mem_setEntry h.nodup).2 (.inr ⟨fun hsame => ?_, hentries entry hentry⟩)
        rw [hsame] at hkey
        exact hnodup.1 hkey

/-! ## Loading all tables -/

/-- Loading reads what stands in the directory, or less. -/
theorem loadTables {d view : Directory} (hview : d.Remains view) {names : List String}
    (h : ({ db with directory := some d } : Database).Consistent K) :
    ({ (loadTables now view names db).2 with directory := some d } : Database).Consistent K := by
  induction names generalizing db with
  | nil => exact h
  | cons name names ih =>
    rw [Database.loadTables]
    split
    · exact h
    · exact ih h
    · rename_i s hschema
      obtain ⟨hbacked, -⟩ := h.backed d rfl
      have hread := (loadSchema_reads hschema).remains hview
      obtain ⟨-, hs, hregular⟩ := hbacked.wellFormed name s hread
      have hput : ∀ content, Table.Fit K ⟨s, content⟩ →
          ({ db.setTable (keyOf s.name) ⟨s, content⟩ with directory := some d } : Database).Consistent K := by
        intro content hfit
        refine h.setTable rfl hfit ?_
        rintro _ ⟨⟩
        exact hbacked.agrees hread
      split
      · exact hput none ⟨hs, hregular, fun content hcontent => by cases hcontent⟩
      · rename_i cells hcells
        obtain ⟨rows, rfl, hkeeps⟩ := hbacked.rows name s cells hread ((loadRows_reads hcells).remains hview)
        have hcontent := Schema.withRows_noContent s rows
        simp only [hcontent]
        refine ih (hput (some (s.contentOf rows)) ⟨hs, hregular, fun _ _ => ?_⟩)
        exact ⟨rows, ⟨rfl, K.wide hkeeps⟩, hkeeps⟩

end Consistent

/-! ## Moves and what is reached -/

/-- Every move leaves the database consistent, if the rows that it puts in are in order where they are shown. -/
theorem Move.consistent (hmove : Move db db') (h : db.Consistent K)
    (hput : ∀ entry ∈ db.tables, ∀ now rows rows', entry.2.Holds rows → K.holds entry.2.schema rows →
      Exchanges entry.2.schema now rows rows' → ∀ s, entry.2.schema.SameRules s →
      db'.Shows s (rows'.map Cell.ofTexts) → K.holds s rows') : db'.Consistent K := by
  cases hmove with
  | addTable now hdeclared hregular => exact h.addTable hdeclared.wellFormed hregular
  | removeTable name => exact h.removeTable name
  | insertRow now name input => exact h.commits (insertRow_commits _ now name input) fun e he => hput e he now
  | updateRow now name position input =>
    exact h.commits (updateRow_commits _ now name position input) fun e he => hput e he now
  | deleteRow now name position => exact h.commits (deleteRow_commits _ now name position) fun e he => hput e he now
  | createIndex now name index columns unique => exact h.createIndex name index columns unique
  | saveAll now => exact h.saveTables h.nodup fun _ hentry => hentry
  | @loadAll d view hd hview now =>
    refine Consistent.loadTables hview ⟨List.nodup_nil, fun _ h => (List.not_mem_nil h).elim,
      fun _ h => (List.not_mem_nil h).elim, ?_⟩
    rintro _ ⟨⟩
    exact ⟨(h.backed d hd).1, fun _ h => (List.not_mem_nil h).elim⟩
  | lose hd hlost => exact h.remains hd hlost

/-- Rows that stand in a table still do after a row was exchanged. -/
theorem Exchanges.standing (h : Exchanges s now rows rows') (hrows : ∀ row ∈ rows, s.Standing row) :
    ∀ row ∈ rows', s.Standing row := by
  cases h with
  | inserted hstored =>
    rw [List.forall_mem_append, List.forall_mem_singleton]
    exact ⟨hrows, Schema.storedRow_standing hstored⟩
  | updated hi hstored =>
    intro row hrow
    rcases List.mem_or_eq_of_mem_set hrow with hrow | rfl
    · exact hrows row hrow
    · exact Schema.storedRow_standing hstored
  | deleted i => exact fun row hrow => hrows row (List.mem_of_mem_eraseIdx hrow)

/-- In every database that is reached, the rows of all tables stand. -/
theorem Reachable.consistent (h : db.Reachable) : db.Consistent .standingRows := by
  induction h with
  | empty path => exact .empty path
  | move _ hmove ih =>
    exact hmove.consistent ih fun _ _ _ _ _ _ hkeeps hexchanges _ hsame _ =>
      RowInvariant.standingRows.sameRules hsame (hexchanges.standing hkeeps)

end Database

end Relational
