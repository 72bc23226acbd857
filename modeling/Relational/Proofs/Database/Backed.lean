import Relational.Database.Change
import Relational.Proofs.Database.Content
import Relational.Proofs.Schema.Standing
import Relational.Proofs.Storage

/-!
# What a directory can be read as

A directory need not mirror the tables of its database: a write may fail between the two files of a table, and files
may get lost. But whatever was written was written by the database, rows before their definition. So every definition
that can be read is a definition of a table, and all rows that can be read under it stand in that table. Writing a
table keeps this as far as it gets, and losing files keeps it as well.
-/

namespace Relational

/-! ## Files that are lost -/

namespace Directory

variable {d d' : Directory}

/-- Every file of the second directory is a file of the first: others were removed, have a folder in their place, or
an access to them is refused. -/
structure Remains (d d' : Directory) : Prop where
  nodup : (d'.entries.map Prod.fst).Nodup
  file : ∀ name text, d'.entry? name = some (.file text) → d.entry? name = some (.file text)

theorem Remains.refl (h : (d.entries.map Prod.fst).Nodup) : d.Remains d :=
  ⟨h, fun _ _ hfile => hfile⟩

theorem Remains.trans {d'' : Directory} (h : d.Remains d') (h' : d'.Remains d'') : d.Remains d'' :=
  ⟨h'.nodup, fun name text hfile => h.file name text (h'.file name text hfile)⟩

theorem remains_addFolder (h : (d.entries.map Prod.fst).Nodup) (name : String) : d.Remains (d.addFolder name) := by
  refine ⟨nodup_setEntry h, ?_⟩
  intro other text hfile
  rw [ entry?, addFolder, lookup_setEntry] at hfile
  split at hfile
  · cases hfile
  · exact hfile

theorem remains_drop (h : (d.entries.map Prod.fst).Nodup) (name : String) : d.Remains (d.drop name) := by
  refine ⟨nodup_removeEntry h, ?_⟩
  intro other text hfile
  have hmem : (other, DirectoryEntry.file text) ∈ removeEntry name d.entries := mem_of_lookup_eq_some hfile
  exact lookup_eq_some_of_mem h ((removeEntry_sublist _ _).subset hmem)

theorem remains_remove? (h : (d.entries.map Prod.fst).Nodup) {name : String} (hremoved : d.remove? name = some d') :
    d.Remains d' := by
  unfold remove? at hremoved
  split at hremoved
  · split at hremoved
    · cases hremoved
    · cases hremoved
      exact remains_drop h name
  · cases hremoved
    exact .refl h

/-- A write that succeeds puts a file under its name, and nothing else changes. -/
theorem write?_eq_some {name text : String} (h : d.write? name text = some d') :
    (∀ other, d'.entry? other = if other = name then some (.file text) else d.entry? other) ∧
      ((d.entries.map Prod.fst).Nodup → (d'.entries.map Prod.fst).Nodup) := by
  unfold write? at h
  split at h
  · cases h
  · cases h
    refine ⟨fun other => ?_, nodup_setEntry⟩
    rw [ entry?, lookup_setEntry]
    by_cases hname : other = name
    · simp [hname]
    · simp [hname, entry?]

end Directory

/-! ## Reading -/

namespace Storage

variable {d d' : Directory} {table : String} {s s' : Schema} {cells : List (List Cell)}

/-- The document that a file holds. -/
def Holds (d : Directory) (file : String) (document : Json) : Prop :=
  ∃ text, d.entry? file = some (.file text) ∧ Json.parse? text = some document

/-- The definition of a table reads as a schema, at some moment. -/
def Reads (d : Directory) (table : String) (s : Schema) : Prop :=
  ∃ document now, Holds d (schemaFile table) document ∧ Schema.ofJson now document = .ok s

/-- The rows under a schema read as cells. -/
def ReadsRows (d : Directory) (s : Schema) (cells : List (List Cell)) : Prop :=
  cells = [] ∨ ∃ document, Holds d (rowsFile s.name) document ∧ readRows s.columnNames document = .ok cells

theorem readDocument_ok {file : String} {document : Json} (h : readDocument d file = .ok document) :
    Holds d file document := by
  unfold readDocument Directory.read? at h
  split at h
  · rename_i found hfound
    cases h
    obtain ⟨text, htext, hparse⟩ := Option.bind_eq_some_iff.1 hfound
    split at htext
    · rename_i content hentry
      cases htext
      exact ⟨text, hentry, hparse⟩
    · cases htext
  · simp [inaccessible] at h

theorem loadSchema_reads {now : Timestamp} (h : loadSchema now d table = .ok (some s)) : Reads d table s := by
  unfold loadSchema at h
  dsimp only at h
  split at h
  · obtain ⟨document, hdocument, h⟩ := bind_eq_ok.1 h
    refine ⟨document, now, readDocument_ok hdocument, ?_⟩
    split at h
    · rename_i read hread
      cases h
      exact hread
    · cases h
  · cases h

theorem loadRows_reads (h : loadRows d s = .ok cells) : ReadsRows d s cells := by
  unfold loadRows at h
  dsimp only at h
  split at h
  · obtain ⟨document, hdocument, hrows⟩ := bind_eq_ok.1 h
    exact .inr ⟨document, readDocument_ok hdocument, hrows⟩
  · cases h
    exact .inl rfl

theorem Holds.remains (hd : d.Remains d') {file : String} {document : Json} (h : Holds d' file document) :
    Holds d file document := by
  obtain ⟨text, hfile, hparse⟩ := h
  exact ⟨text, hd.file file text hfile, hparse⟩

theorem Reads.remains (hd : d.Remains d') (h : Reads d' table s) : Reads d table s := by
  obtain ⟨document, now, hdocument, hread⟩ := h
  exact ⟨document, now, hdocument.remains hd, hread⟩

theorem ReadsRows.remains (hd : d.Remains d') (h : ReadsRows d' s cells) : ReadsRows d s cells := by
  rcases h with hnone | ⟨document, hdocument, hread⟩
  · exact .inl hnone
  · exact .inr ⟨document, hdocument.remains hd, hread⟩

end Storage

/-! ## What was written by a database -/

open Storage

theorem Schema.standing_addIndex {s s' : Schema} {index : String} {columns row : List String} {unique : Bool}
    (h : s.addIndex index columns unique = .ok s') (hrow : s.Standing row) : s'.Standing row := by
  obtain ⟨-, -, key, -, rfl⟩ := Schema.addIndex_eq_ok.1 h
  exact Schema.Standing.congr (s := s) rfl rfl rfl rfl hrow

/-- What the rows of a table are held to, together. Each row stands in the table, only the rules of the definition
matter, and an index may be added that the rows allow. -/
structure RowInvariant where
  holds : Schema → List (List String) → Prop
  nil : ∀ s, holds s []
  standing : ∀ {s rows}, holds s rows → ∀ row ∈ rows, s.Standing row
  sameRules : ∀ {s s' : Schema} {rows}, s.SameRules s' → holds s rows → holds s' rows
  indexed : ∀ {s s' : Schema} {rows index columns unique}, s.addIndex index columns unique = .ok s' →
    (unique = true →
      Database.duplicateKey? (s.filled rows (.empty index (columns.filterMap s.spelling) unique)) = none) →
    holds s rows → holds s' rows

namespace RowInvariant

variable {K : RowInvariant}

/-- Nothing but that each row stands in the table. -/
def standingRows : RowInvariant where
  holds := fun s rows => ∀ row ∈ rows, s.Standing row
  nil := fun _ _ h => (List.not_mem_nil h).elim
  standing := id
  sameRules := fun hsame h row hrow => hsame.standing (h row hrow)
  indexed := fun hindex _ h row hrow => Schema.standing_addIndex hindex (h row hrow)

theorem wide {s : Schema} {rows : List (List String)} (h : K.holds s rows) :
    ∀ row ∈ rows, row.length = s.columns.length :=
  fun row hrow => (K.standing h row hrow).wide

end RowInvariant

/-- What can be read as a definition has no rows. -/
def Rowless (d : Directory) : Prop :=
  ∀ file document now s, Holds d file document → Schema.ofJson now document = .ok s →
    document.fieldOr "rows" Json.items [] = .ok []

/-- What can be read is what a database has written. -/
structure Backed (K : RowInvariant) (d : Directory) : Prop where
  nodup : (d.entries.map Prod.fst).Nodup
  wellFormed : ∀ table s, Reads d table s → s.name = table ∧ s.WellFormed ∧ s.Regular
  same : ∀ table s s', Reads d table s → Reads d table s' → s.SameRules s'
  rows : ∀ table s cells, Reads d table s → ReadsRows d s cells →
    ∃ rows : List (List String), cells = rows.map Cell.ofTexts ∧ K.holds s rows
  rowless : Rowless d

/-- A definition that can be read in place of a schema has the same rules. -/
def Agrees (d : Directory) (s : Schema) : Prop :=
  ∀ s', Reads d s.name s' → s.SameRules s'

namespace Backed

variable {K : RowInvariant} {d d' : Directory} {s s' : Schema} {rows : List (List String)}

theorem agrees_remains (h : Agrees d s) (hd : d.Remains d') : Agrees d' s :=
  fun s' hread => h s' (hread.remains hd)

theorem agrees_sameRules (h : Agrees d s) (hsame : s.SameRules s') : Agrees d s' := by
  intro other hother
  rw [← hsame.name] at hother
  exact hsame.symm.trans (h other hother)

theorem empty (path : String) : Backed K (.empty path) := by
  have hnone : ∀ table s, ¬ Reads (.empty path) table s := by
    rintro table s ⟨document, now, ⟨text, htext, -⟩, -⟩
    cases htext
  refine ⟨List.nodup_nil, fun table s hread => (hnone table s hread).elim,
    fun table s s' hread _ => (hnone table s hread).elim, fun table s cells hread _ => (hnone table s hread).elim, ?_⟩
  rintro file document now s ⟨text, htext, -⟩
  cases htext

/-- A directory that has lost files can be read as less. -/
theorem remains (h : Backed K d) (hd : d.Remains d') : Backed K d' where
  nodup := hd.nodup
  wellFormed := fun table s hread => h.wellFormed table s (hread.remains hd)
  same := fun table s s' hread hread' => h.same table s s' (hread.remains hd) (hread'.remains hd)
  rows := fun table s cells hread hrows => h.rows table s cells (hread.remains hd) (hrows.remains hd)
  rowless := fun file document now s hdocument => h.rowless file document now s (hdocument.remains hd)

theorem agrees (h : Backed K d) {table : String} (hread : Reads d table s) : Agrees d s := by
  intro s' hread'
  rw [(h.wellFormed table s hread).1] at hread'
  exact h.same table s s' hread hread'

/-! ## Writing rows -/

/-- What is read after a document was written is that document, or was there before. -/
theorem holds_written {file : String} {document : Json} (hplain : document.Plain)
    (hwritten : d.write? file document.print = some d') {other : String} {found : Json} (h : Holds d' other found) :
    (other = file ∧ found = document) ∨ (other ≠ file ∧ Holds d other found) := by
  obtain ⟨text, htext, hparse⟩ := h
  rw [(Directory.write?_eq_some hwritten).1] at htext
  split at htext
  · rename_i hsame
    cases htext
    rw [hplain.parse?_print] at hparse
    exact .inl ⟨hsame, (Option.some.inj hparse).symm⟩
  · rename_i hne
    exact .inr ⟨hne, text, htext, hparse⟩

/-- Rows are no definition: they have no name. -/
theorem ofJson_rowsJson (s : Schema) (cells : List (List Cell)) (now : Timestamp) :
    Schema.ofJson now (rowsJson s cells) = fail (.missingKey "name") := rfl

/-- Rows are never read as a definition, so writing rows makes no definition. -/
theorem reads_of_writeRows (hs : s.WellFormed) (hwide : ∀ row ∈ rows, row.length = s.columns.length)
    (hwritten : d.write? (rowsFile s.name) (rowsJson s (rows.map Cell.ofTexts)).print = some d') {table : String}
    (hread : Reads d' table s') : Reads d table s' := by
  obtain ⟨document, now, hdocument, hread⟩ := hread
  rcases holds_written (rowsJson_plain hs.columnsDiffer hwide) hwritten hdocument with ⟨-, rfl⟩ | ⟨-, hold⟩
  · rw [ofJson_rowsJson] at hread
    cases hread
  · exact ⟨document, now, hold, hread⟩

/-- The rows that can be read after rows were written are those, or were there before. -/
theorem readsRows_of_writeRows (hs : s.WellFormed) (hwide : ∀ row ∈ rows, row.length = s.columns.length)
    (hwritten : d.write? (rowsFile s.name) (rowsJson s (rows.map Cell.ofTexts)).print = some d')
    (hnames : s'.name = s.name → rows = [] ∨ s'.columnNames = s.columnNames) {cells : List (List Cell)}
    (hread : ReadsRows d' s' cells) :
    cells = [] ∨ (s'.name = s.name ∧ cells = rows.map Cell.ofTexts) ∨ (s'.name ≠ s.name ∧ ReadsRows d s' cells) := by
  rcases hread with hnone | ⟨document, hdocument, hread⟩
  · exact .inl hnone
  right
  rcases holds_written (rowsJson_plain hs.columnsDiffer hwide) hwritten hdocument with ⟨hfile, rfl⟩ | ⟨hne, hold⟩
  · left
    have hname := rowsFile_inj.1 hfile
    refine ⟨hname, ?_⟩
    rcases hnames hname with rfl | hcolumns
    · cases hread
      rfl
    · rw [hcolumns, readRows_rowsJson hs.columnsDiffer hwide] at hread
      exact (Except.ok.inj hread).symm
  · exact .inr ⟨fun hname => hne (by rw [hname]), .inr ⟨document, hold, hread⟩⟩

theorem rowless_of_writeRows (h : Rowless d) (hs : s.WellFormed)
    (hwide : ∀ row ∈ rows, row.length = s.columns.length)
    (hwritten : d.write? (rowsFile s.name) (rowsJson s (rows.map Cell.ofTexts)).print = some d') : Rowless d' := by
  intro file document now s' hdocument hread
  rcases holds_written (rowsJson_plain hs.columnsDiffer hwide) hwritten hdocument with ⟨-, rfl⟩ | ⟨-, hold⟩
  · rw [ofJson_rowsJson] at hread
    cases hread
  · exact h file document now s' hold hread

/-! ## Writing a definition -/

/-- What is read as a definition after one was written has the same rules, or was there before. -/
theorem reads_of_writeSchema (hs : s.WellFormed) (hregular : s.Regular)
    (hwritten : d.write? (schemaFile s.name) s.toJson.print = some d') {table : String} (hread : Reads d' table s') :
    (table = s.name ∧ s'.name = table ∧ s'.WellFormed ∧ s'.Regular ∧ s.SameRules s') ∨
      (table ≠ s.name ∧ Reads d table s') := by
  obtain ⟨document, now, hdocument, hread⟩ := hread
  rcases holds_written (Schema.toJson_plain hs hregular) hwritten hdocument with ⟨hfile, rfl⟩ | ⟨hne, hold⟩
  · have htable := schemaFile_inj.1 hfile
    obtain ⟨createdAt, modifiedAt, rfl⟩ := Schema.eq_of_ofJson_toJson hs hregular hread
    refine .inl ⟨htable, htable.symm, ?_, ⟨hregular.written, hregular.columns⟩, rfl, rfl, rfl, rfl, rfl⟩
    exact ⟨hs.named, hs.columns, hs.columnsDiffer, hs.key, hs.constraints, hs.uniques, hs.foreignKeys, hs.checks,
      hs.indexNames, hs.indexes⟩
  · exact .inr ⟨fun htable => hne (by rw [htable]), document, now, hold, hread⟩

theorem rows_toJson (hregular : s.Regular) : s.toJson.fieldOr "rows" Json.items [] = .ok [] := by
  rw [Schema.toJson, hregular.written, Json.restore_nil]
  rfl

/-- A definition has no rows, should it be read for them. -/
theorem readsRows_of_writeSchema (hs : s.WellFormed) (hregular : s.Regular)
    (hwritten : d.write? (schemaFile s.name) s.toJson.print = some d') {cells : List (List Cell)}
    (hread : ReadsRows d' s' cells) : ReadsRows d s' cells := by
  rcases hread with hnone | ⟨document, hdocument, hread⟩
  · exact .inl hnone
  rcases holds_written (Schema.toJson_plain hs hregular) hwritten hdocument with ⟨-, rfl⟩ | ⟨-, hold⟩
  · rw [readRows, rows_toJson hregular] at hread
    cases hread
    exact .inl rfl
  · exact .inr ⟨document, hold, hread⟩

/-! ## Writing and removing a table -/

section Save

variable {d₁ : Directory}

/-- Only the rows were written: they can be read under the definition that was there before. -/
theorem writeRows (h : Backed K d) (hs : s.WellFormed) (hwide : ∀ row ∈ rows, row.length = s.columns.length)
    (hnames : ∀ s', Reads d s.name s' → rows = [] ∨ s'.columnNames = s.columnNames)
    (hwritten : d.write? (rowsFile s.name) (rowsJson s (rows.map Cell.ofTexts)).print = some d')
    (hkeeps : ∀ s', Reads d' s.name s' → ReadsRows d' s' (rows.map Cell.ofTexts) → K.holds s' rows) :
    Backed K d' where
  nodup := (Directory.write?_eq_some hwritten).2 h.nodup
  wellFormed := fun table s' hread => h.wellFormed table s' (reads_of_writeRows hs hwide hwritten hread)
  same := fun table s' s'' hread hread' => h.same table s' s'' (reads_of_writeRows hs hwide hwritten hread)
    (reads_of_writeRows hs hwide hwritten hread')
  rows := by
    intro table s' cells hread hcells
    have hold := reads_of_writeRows hs hwide hwritten hread
    have hname := (h.wellFormed table s' hold).1
    have hnames' : s'.name = s.name → rows = [] ∨ s'.columnNames = s.columnNames :=
      fun hsame => hnames s' (by rwa [← hsame, hname])
    rcases readsRows_of_writeRows hs hwide hwritten hnames' hcells with rfl | ⟨hsame, rfl⟩ | ⟨-, hcells'⟩
    · exact ⟨[], rfl, K.nil s'⟩
    · exact ⟨rows, rfl, hkeeps s' (by rwa [← hsame, hname]) hcells⟩
    · exact h.rows table s' cells hold hcells'
  rowless := rowless_of_writeRows h.rowless hs hwide hwritten

/-- The rows and the definition were written: the rows are read under it. -/
theorem writeTable (h : Backed K d) (hs : s.WellFormed) (hregular : s.Regular) (hrows : K.holds s rows)
    (hfirst : d.write? (rowsFile s.name) (rowsJson s (rows.map Cell.ofTexts)).print = some d₁)
    (hsecond : d₁.write? (schemaFile s.name) s.toJson.print = some d') : Backed K d' := by
  have hread : ∀ {table s'}, Reads d' table s' → (table = s.name ∧ s'.name = table ∧ s'.WellFormed ∧ s'.Regular ∧
      s.SameRules s') ∨ (table ≠ s.name ∧ Reads d table s') :=
    fun hread => (reads_of_writeSchema hs hregular hsecond hread).imp_right
      fun ⟨hne, hold⟩ => ⟨hne, reads_of_writeRows hs (K.wide hrows) hfirst hold⟩
  constructor
  case nodup => exact (Directory.write?_eq_some hsecond).2 ((Directory.write?_eq_some hfirst).2 h.nodup)
  case wellFormed =>
    intro table s' hnew
    rcases hread hnew with ⟨-, hname, hwellFormed, hregular', -⟩ | ⟨-, hold⟩
    · exact ⟨hname, hwellFormed, hregular'⟩
    · exact h.wellFormed table s' hold
  case same =>
    intro table s' s'' hnew hnew'
    rcases hread hnew with ⟨htable, -, -, -, hsame⟩ | ⟨hne, hold⟩ <;>
      rcases hread hnew' with ⟨htable', -, -, -, hsame'⟩ | ⟨hne', hold'⟩
    · exact hsame.symm.trans hsame'
    · exact absurd htable hne'
    · exact absurd htable' hne
    · exact h.same table s' s'' hold hold'
  case rows =>
    intro table s' cells hnew hcells
    have hcells' := readsRows_of_writeSchema hs hregular hsecond hcells
    rcases hread hnew with ⟨-, -, -, -, hsame⟩ | ⟨hne, hold⟩
    · rcases readsRows_of_writeRows hs (K.wide hrows) hfirst (fun _ => .inr hsame.symm.columnNames) hcells'
        with rfl | ⟨-, rfl⟩ | ⟨hname, -⟩
      · exact ⟨[], rfl, K.nil s'⟩
      · exact ⟨rows, rfl, K.sameRules hsame hrows⟩
      · exact absurd hsame.symm.name hname
    · have hname := (h.wellFormed table s' hold).1
      rcases readsRows_of_writeRows hs (K.wide hrows) hfirst (fun hsame => absurd (hname.symm.trans hsame) hne) hcells'
        with rfl | ⟨hsame, -⟩ | ⟨-, hcells''⟩
      · exact ⟨[], rfl, K.nil s'⟩
      · exact absurd (hname.symm.trans hsame) hne
      · exact h.rows table s' cells hold hcells''
  case rowless =>
    intro file document now s' hdocument hnew
    rcases holds_written (Schema.toJson_plain hs hregular) hsecond hdocument with ⟨-, rfl⟩ | ⟨-, hdocument⟩
    · exact rows_toJson hregular
    · exact rowless_of_writeRows h.rowless hs (K.wide hrows) hfirst file document now s' hdocument hnew

/-- Writing a table, however far it gets: what can be read afterwards was there before or is that table, and its rows
are in order if they are under the new definition, or under the old one where they can be read so. -/
theorem save (h : Backed K d) (hs : s.WellFormed) (hregular : s.Regular)
    (hwide : ∀ row ∈ rows, row.length = s.columns.length)
    (hnames : ∀ s', Reads d s.name s' → rows = [] ∨ s'.columnNames = s.columnNames) {written : Except Failure Unit}
    (hsaved : Storage.save s (rows.map Cell.ofTexts) d = (written, d')) (hnew : written = .ok () → K.holds s rows)
    (hold : ∀ s', Reads d s.name s' → Reads d' s.name s' → ReadsRows d' s' (rows.map Cell.ofTexts) → K.holds s' rows) :
    Backed K d' ∧ (∀ other, Agrees d other → (written = .ok () → other.name = s.name → other.SameRules s) →
      Agrees d' other) ∧ (written = .ok () → Agrees d' s) := by
  simp only [Storage.save, andThen, writeDocument] at hsaved
  cases hfirst : d.write? (rowsFile s.name) (rowsJson s (rows.map Cell.ofTexts)).print with
  | none =>
    rw [hfirst] at hsaved
    cases hsaved
    exact ⟨h, fun other hother _ => hother, fun hok => by cases hok⟩
  | some d₁ =>
    have hagrees : ∀ other, Agrees d other → Agrees d₁ other :=
      fun other hother s' hread => hother s' (reads_of_writeRows hs hwide hfirst hread)
    cases hsecond : d₁.write? (schemaFile s.name) s.toJson.print with
    | none =>
      simp only [hfirst, hsecond] at hsaved
      cases hsaved
      refine ⟨h.writeRows hs hwide hnames hfirst fun s' hread hcells => ?_, fun other hother _ => hagrees other hother,
        fun hok => by cases hok⟩
      exact hold s' (reads_of_writeRows hs hwide hfirst hread) hread hcells
    | some d₂ =>
      simp only [hfirst, hsecond] at hsaved
      cases hsaved
      refine ⟨h.writeTable hs hregular (hnew rfl) hfirst hsecond, ?_, ?_⟩
      · intro other hother hrules s' hread
        rcases reads_of_writeSchema hs hregular hsecond hread with ⟨htable, -, -, -, hsame⟩ | ⟨-, hread'⟩
        · exact (hrules rfl htable).trans hsame
        · exact hagrees other hother s' hread'
      · intro _ s' hread
        rcases reads_of_writeSchema hs hregular hsecond hread with ⟨-, -, -, -, hsame⟩ | ⟨hne, -⟩
        · exact hsame
        · exact absurd rfl hne

end Save

/-- Removing a table, however far it gets, removes files. -/
theorem remains_delete (h : (d.entries.map Prod.fst).Nodup) {table : String} {removed : Except Failure Unit}
    (hremoved : Storage.delete table d = (removed, d')) : d.Remains d' := by
  simp only [Storage.delete, andThen, removeFile] at hremoved
  cases hfirst : d.remove? (schemaFile table) with
  | none =>
    rw [hfirst] at hremoved
    cases hremoved
    exact .refl h
  | some d₁ =>
    have hd₁ := Directory.remains_remove? h hfirst
    cases hsecond : d₁.remove? (rowsFile table) with
    | none =>
      simp only [hfirst, hsecond] at hremoved
      cases hremoved
      exact hd₁
    | some d₂ =>
      simp only [hfirst, hsecond] at hremoved
      cases hremoved
      exact hd₁.trans (Directory.remains_remove? hd₁.nodup hsecond)

end Backed

end Relational
