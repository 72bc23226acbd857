import Relational.Proofs.Database.Keys

/-!
# References

A row refers to the row that holds its foreign key. Every change keeps the references of all rows, but for one
case: an update can take the key away to which the new version of the same row refers, since the rules look at the
rows as they were before the change, and do not count the row itself among those that refer to it.
-/

namespace Relational

namespace Database

variable {db db' saved : Database} {now : Timestamp} {New : Schema → Prop} {key : String} {t t' : Table}
  {fk : ForeignKey} {k : List String}

/-! ## Tables by name -/

theorem table?_of_tables_eq (h : db'.tables = db.tables) (name : String) : db'.table? name = db.table? name := by
  rw [table?, table?, h]

theorem tables_setTable_congr (h : db'.tables = db.tables) (key : String) (t : Table) :
    (db'.setTable key t).tables = (db.setTable key t).tables := by
  rw [setTable, setTable, h]

theorem table?_setTable (db : Database) (key : String) (t : Table) (name : String) :
    (db.setTable key t).table? name = if keyOf name = key then some t else db.table? name := by
  rw [table?, table?, setTable, lookup_setEntry]
  simp only [beq_iff_eq]

theorem table?_dropTable_of_ne {name : String} (h : keyOf name ≠ key) :
    (db.dropTable key).table? name = db.table? name :=
  lookup_removeEntry_of_ne h db.tables

/-- There is a table of the name, and it has a property. -/
def Provides (db : Database) (name : String) (P : Table → Prop) : Prop :=
  ∃ t, db.table? name = some t ∧ P t

variable {name : String} {P : Table → Prop}

theorem Provides.of_tables_eq (h : db.Provides name P) (htables : db'.tables = db.tables) : db'.Provides name P := by
  rw [Provides, table?_of_tables_eq htables]
  exact h

theorem Provides.addTable (h : db.Provides name P) (hnew : ∀ name, keyOf name = key → db.table? name = none) :
    (db.setTable key t).Provides name P := by
  obtain ⟨found, hfound, hP⟩ := h
  have hne : keyOf name ≠ key := by
    intro heq
    rw [hnew _ heq] at hfound
    cases hfound
  exact ⟨found, by rw [table?_setTable, if_neg hne, hfound], hP⟩

/-- A table that takes the place of another provides what it keeps of the other. -/
theorem Provides.setTable (h : db.Provides name P) (hsound : db.Sound) (ht : (key, t) ∈ db.tables)
    (hP : keyOf name = key → P t → P t') : (db.setTable key t').Provides name P := by
  obtain ⟨found, hfound, hfoundP⟩ := h
  by_cases heq : keyOf name = key
  · have hmem := mem_of_table? hfound
    rw [heq] at hmem
    obtain rfl := hsound.unique hmem ht
    exact ⟨t', by rw [table?_setTable, if_pos heq], hP heq hfoundP⟩
  · exact ⟨found, by rw [table?_setTable, if_neg heq, hfound], hfoundP⟩

theorem Provides.dropTable (h : db.Provides name P) (hne : keyOf name ≠ key) :
    (db.dropTable key).Provides name P := by
  obtain ⟨found, hfound, hP⟩ := h
  exact ⟨found, by rw [table?_dropTable_of_ne hne, hfound], hP⟩

/-! ## Referenced keys -/

/-- The table has all of the columns. -/
def HasColumns (columns : List String) (t : Table) : Prop :=
  ∀ name ∈ columns, t.schema.hasColumn name = true

theorem HasColumns.of_columns_eq {columns : List String} (h : HasColumns columns t)
    (hcolumns : t'.schema.columns = t.schema.columns) : HasColumns columns t' := by
  intro name hname
  rw [Schema.hasColumn_of_columns_eq hcolumns]
  exact h name hname

/-- The table that a foreign key refers to is there, with the columns referred to and a row that holds the key. -/
def HasReferenced (db : Database) (fk : ForeignKey) (key : List String) : Prop :=
  db.Provides fk.refTable fun parent => HasColumns fk.refColumns parent ∧ parent.HasKey fk.refColumns key

/-- A table with the same columns takes the place of another. What the other was referred to for is still there, if
the new one holds the key. -/
theorem HasReferenced.setTable (h : db.HasReferenced fk k) (hsound : db.Sound) (ht : (key, t) ∈ db.tables)
    (hcolumns : t'.schema.columns = t.schema.columns)
    (hkey : keyOf fk.refTable = key → HasColumns fk.refColumns t → t.HasKey fk.refColumns k →
      t'.HasKey fk.refColumns k) : (db.setTable key t').HasReferenced fk k :=
  Provides.setTable h hsound ht fun heq ⟨hall, hheld⟩ => ⟨hall.of_columns_eq hcolumns, hkey heq hall hheld⟩

/-- For the foreign keys in question, every key without NULL that a row of the table has is one of the referenced
rows. -/
def ReferencesHold (db : Database) (Concerns : String → ForeignKey → Prop) : Prop :=
  ∀ entry ∈ db.tables, ∀ rule ∈ entry.2.schema.foreignKeys, Concerns entry.1 rule.2 →
    ∀ k, Index.hasNull k = false → entry.2.HasKey rule.2.columns k → db.HasReferenced rule.2 k

variable {Concerns : String → ForeignKey → Prop}

/-- The cells of a row, if none is NULL, are a key that the table has. -/
theorem exists_hasKey (hsound : db.Sound) (ht : (key, t) ∈ db.tables) {columns : List String} {row : List Cell}
    (hrow : row ∈ t.rows) (hpresent : ∀ cell ∈ t.schema.cells columns row, cell.isNull = false) :
    ∃ k, t.schema.cells columns row = Cell.ofTexts k ∧ Index.hasNull k = false ∧ t.HasKey columns k := by
  obtain ⟨rows, hrows⟩ := hsound.holds ht
  have htexts := hrow
  rw [hrows.rows_eq] at htexts
  obtain ⟨texts, -, rfl⟩ := List.mem_map.1 htexts
  rw [Schema.cells_ofTexts] at hpresent
  exact ⟨t.schema.cells columns texts, Schema.cells_ofTexts _ _, Cell.forall_isNull_eq_false_iff.1 hpresent,
    _, hrow, Schema.cells_ofTexts _ _⟩

theorem ReferencesHold.of_tables_eq (h : db.ReferencesHold Concerns) (htables : db'.tables = db.tables) :
    db'.ReferencesHold Concerns := by
  intro entry hentry rule hrule hconcerns k hnull hheld
  rw [htables] at hentry
  exact Provides.of_tables_eq (h entry hentry rule hrule hconcerns k hnull hheld) htables

theorem hasKey_congr (hcolumns : t'.schema.columns = t.schema.columns) (hrows : t'.rows = t.rows)
    (columns k : List String) : t'.HasKey columns k ↔ t.HasKey columns k := by
  simp only [Table.HasKey, hrows, Schema.cells_of_columns_eq hcolumns]

/-- A table takes the place of one with the same columns, rows and foreign keys. -/
theorem ReferencesHold.setTable (h : db.ReferencesHold Concerns) (hsound : db.Sound) (ht : (key, t) ∈ db.tables)
    (hcolumns : t'.schema.columns = t.schema.columns) (hforeign : t'.schema.foreignKeys = t.schema.foreignKeys)
    (hrows : t'.rows = t.rows) : (db.setTable key t').ReferencesHold Concerns := by
  intro entry hentry rule hrule hconcerns k hnull hheld
  have hold : db.HasReferenced rule.2 k := by
    rcases mem_setTable hsound hentry with rfl | ⟨-, hmem⟩
    · rw [hforeign] at hrule
      rw [hasKey_congr hcolumns hrows] at hheld
      exact h _ ht rule hrule hconcerns k hnull hheld
    · exact h entry hmem rule hrule hconcerns k hnull hheld
  exact hold.setTable hsound ht hcolumns fun _ _ hkey => (hasKey_congr hcolumns hrows _ _).2 hkey

/-! ## One row changes -/

/-- A change of one row takes a row away, puts one in, or both. -/
structure RowExchange (db : Database) (key : String) (s : Schema) (rows rows' : List (List String))
    (gone : Option (Nat × List String)) (fresh : Option (List String)) : Prop where
  mem : ∀ row ∈ rows', fresh = some row ∨ ∃ j, rows[j]? = some row ∧ ∀ p ∈ gone, j ≠ p.1
  kept : ∀ (j : Nat) (row : List String), rows[j]? = some row → (∀ p ∈ gone, j ≠ p.1) → row ∈ rows'
  put : ∀ row ∈ fresh, row ∈ rows' ∧ db.ReferencesPresent s row
  taken : ∀ p ∈ gone, rows[p.1]? = some p.2 ∧ db.Unreferenced key s p.2 p.1 fresh
  replaced : ∀ p ∈ gone, ∀ row ∈ fresh, rows' = rows.set p.1 row

theorem RowChange.exchange {rows rows' : List (List String)} (h : RowChange db key t rows rows') :
    ∃ gone fresh, RowExchange db key t.schema rows rows' gone fresh := by
  cases h with
  | inserted hstored hkeys hrefs =>
    rename_i now raw row
    refine ⟨none, some row, ?_, ?_, ?_, by simp, by simp⟩
    · intro other hother
      rcases List.mem_append.1 hother with hother | hother
      · obtain ⟨j, hj⟩ := List.mem_iff_getElem?.1 hother
        exact .inr ⟨j, hj, by simp⟩
      · exact .inl (by rw [List.mem_singleton.1 hother])
    · exact fun j other hother _ => List.mem_append_left _ (List.mem_of_getElem? hother)
    · rintro other ⟨⟩
      exact ⟨by simp, hrefs⟩
  | updated hold hstored hkeys hrefs hfree =>
    rename_i now raw row old i
    have hlt := (List.getElem?_eq_some_iff.1 hold).1
    refine ⟨some (i, old), some row, ?_, ?_, ?_, ?_, ?_⟩
    · intro other hother
      obtain ⟨j, hj⟩ := List.mem_iff_getElem?.1 hother
      rcases getElem?_set_eq_some hj with ⟨-, rfl⟩ | ⟨hne, hj⟩
      · exact .inl rfl
      · exact .inr ⟨j, hj, by simpa using hne⟩
    · intro j other hother hne
      have hset : (rows.set i row)[j]? = some other := by
        rw [List.getElem?_set_ne (Ne.symm (by simpa using hne)), hother]
      exact List.mem_of_getElem? hset
    · rintro other ⟨⟩
      exact ⟨List.mem_set hlt row, hrefs⟩
    · rintro p ⟨⟩
      exact ⟨hold, hfree⟩
    · rintro p ⟨⟩ other ⟨⟩
      rfl
  | deleted hold hfree =>
    rename_i old i
    refine ⟨some (i, old), none, ?_, ?_, by simp, ?_, by simp⟩
    · intro other hother
      obtain ⟨j, hne, hj⟩ := List.mem_eraseIdx_iff_getElem?.1 hother
      exact .inr ⟨j, hj, by simpa using hne⟩
    · intro j other hother hne
      exact List.mem_eraseIdx_iff_getElem?.2 ⟨j, by simpa using hne, hother⟩
    · rintro p ⟨⟩
      exact ⟨hold, hfree⟩

variable {rows rows' : List (List String)} {gone : Option (Nat × List String)} {fresh : Option (List String)}

/-- A key that was held is still held, or the only row with it was taken away and the new one has another. -/
theorem RowExchange.held {s : Schema} (hx : RowExchange db key s rows rows' gone fresh) {columns : List String}
    (hheld : ∃ row ∈ rows, s.cells columns row = k) : (∃ row ∈ rows', s.cells columns row = k) ∨
      ∃ i old, gone = some (i, old) ∧ s.cells columns old = k ∧ fresh.map (s.cells columns) ≠ some k ∧
        ∀ j row, j ≠ i → rows[j]? = some row → s.cells columns row ≠ k := by
  by_cases hnew : ∃ row ∈ rows', s.cells columns row = k
  · exact .inl hnew
  right
  obtain ⟨row, hrow, hk⟩ := hheld
  obtain ⟨j, hj⟩ := List.mem_iff_getElem?.1 hrow
  -- a row with the key that is not among the rows any more is the one taken away
  have hgone : ∀ j row, rows[j]? = some row → s.cells columns row = k → ∃ p ∈ gone, j = p.1 := by
    intro j row hj hk
    by_contra hnone
    exact hnew ⟨row, hx.kept j row hj (fun p hp heq => hnone ⟨p, hp, heq⟩), hk⟩
  obtain ⟨⟨i, old⟩, hp, (hij : j = i)⟩ := hgone j row hj hk
  have hold : rows[i]? = some old := (hx.taken _ hp).1
  rw [← hij, hj] at hold
  refine ⟨i, old, hp, Option.some.inj hold ▸ hk, ?_, ?_⟩
  · intro hfresh
    obtain ⟨new, hput, hnewk⟩ := Option.map_eq_some_iff.1 hfresh
    exact hnew ⟨new, (hx.put new hput).1, hnewk⟩
  · intro j' other hne hj' hother
    obtain ⟨p, hp', rfl⟩ := hgone j' other hj' hother
    rw [Option.mem_def.1 hp] at hp'
    cases hp'
    exact hne rfl

/-! ## Rows that lose their own key -/

/-- The row at a position is replaced by one that refers to the key of the old one, which neither it nor any other
row has. -/
structure StrandsRow (s : Schema) (fk : ForeignKey) (rows : List (List Cell)) (i : Nat) (old new : List Cell) :
    Prop where
  replaced : rows[i]? = some old
  present : ∀ cell ∈ s.cells fk.columns new, cell.isNull = false
  refers : s.cells fk.columns new = s.cells fk.refColumns old
  gone : s.cells fk.refColumns new ≠ s.cells fk.refColumns old
  alone : ∀ j other, j ≠ i → rows[j]? = some other → s.cells fk.refColumns other ≠ s.cells fk.refColumns old

theorem StrandsRow.of_columns_eq {s s' : Schema} {rows : List (List Cell)} {i : Nat} {old new : List Cell}
    (h : StrandsRow s fk rows i old new) (hcolumns : s'.columns = s.columns) : StrandsRow s' fk rows i old new := by
  obtain ⟨hreplaced, hpresent, hrefers, hgone, halone⟩ := h
  refine ⟨hreplaced, ?_, ?_, ?_, ?_⟩ <;> simpa only [Schema.cells_of_columns_eq hcolumns]

/-- The change from one database to another replaces a row of a table by one that refers, by a foreign key of the
table to itself, to the key that only the replaced row had. -/
def Strands (db db' : Database) : Prop :=
  ∃ key t t' rule i old new, (key, t) ∈ db.tables ∧ (key, t') ∈ db'.tables ∧ rule ∈ t'.schema.foreignKeys ∧
    keyOf rule.2.refTable = key ∧ t'.rows = t.rows.set i new ∧ StrandsRow t'.schema rule.2 t.rows i old new

theorem Strands.of_tables_eq (h : db.Strands db') {db'' : Database} (htables : db''.tables = db'.tables) :
    db.Strands db'' := by
  rw [Strands, htables]
  exact h

theorem storedTable_holds_iff {s : Schema} {now : Timestamp} {columns : List String}
    (hwide : ∀ row ∈ rows, row.length = s.columns.length) :
    (storedTable s rows now).HasKey columns k ↔ ∃ row ∈ rows, s.cells columns row = k :=
  (storedTable_holds hwide now).hasKey_iff

/-- A key that the table referred to gives up has no row that refers to it, but perhaps the changed row itself. -/
theorem RowExchange.referrer {i : Nat} {old : List String}
    (hx : RowExchange db key t.schema rows rows' gone fresh) (hgone : gone = some (i, old))
    {childKey : String} {child : Table} (hchild : (childKey, child) ∈ db.tables) {rule : String × ForeignKey}
    (hrule : rule ∈ child.schema.foreignKeys) (hkey : keyOf rule.2.refTable = key)
    (hall : HasColumns rule.2.refColumns t) (hnull : Index.hasNull k = false)
    (hold : t.schema.cells rule.2.refColumns old = k) (hfresh : fresh.map (t.schema.cells rule.2.refColumns) ≠ some k)
    {j : Nat} {row : List Cell} (hrow : child.rows[j]? = some row)
    (hk : child.schema.cells rule.2.columns row = Cell.ofTexts k) : childKey = key ∧ j = i := by
  subst hold
  obtain ⟨-, hfree⟩ := hx.taken _ hgone
  exact hfree _ hchild rule hrule hkey ⟨hall, hnull, hfresh⟩ j (Table.mem_scan.2 ⟨row, hrow, hk⟩)

theorem ReferencesPresent.hasReferenced {s : Schema} {row : List String} (h : db.ReferencesPresent s row)
    {rule : String × ForeignKey} (hrule : rule ∈ s.foreignKeys)
    (hnull : Index.hasNull (s.cells rule.2.columns row) = false) :
    db.HasReferenced rule.2 (s.cells rule.2.columns row) := by
  obtain ⟨parent, hparent, hrest⟩ := h rule hrule
  exact ⟨parent, hparent, (hrest hnull).1, (hrest hnull).2⟩

/-- The key to which the new row refers was that of the old one alone, and the new one has another. -/
theorem RowExchange.strandsRow {s : Schema} {i : Nat} {old row : List String}
    (hx : RowExchange db key s rows rows' gone fresh) (hgone : gone = some (i, old)) (hfresh : fresh = some row)
    (hnull : Index.hasNull (s.cells fk.columns row) = false)
    (hold : s.cells fk.refColumns old = s.cells fk.columns row)
    (hother : fresh.map (s.cells fk.refColumns) ≠ some (s.cells fk.columns row))
    (halone : ∀ j other, j ≠ i → rows[j]? = some other → s.cells fk.refColumns other ≠ s.cells fk.columns row) :
    StrandsRow s fk (rows.map Cell.ofTexts) i (Cell.ofTexts old) (Cell.ofTexts row) := by
  have hi : rows[i]? = some old := (hx.taken _ hgone).1
  rw [hfresh] at hother
  refine ⟨by rw [List.getElem?_map, hi]; rfl, ?_, ?_, ?_, ?_⟩
  · rw [Schema.cells_ofTexts]
    exact Cell.forall_isNull_eq_false_iff.2 hnull
  · rw [Schema.cells_ofTexts, Schema.cells_ofTexts, hold]
  · rw [Schema.cells_ofTexts, Schema.cells_ofTexts, hold]
    exact fun heq => hother (congrArg some (Cell.ofTexts_injective heq))
  · intro j other hne hj
    rw [List.getElem?_map] at hj
    obtain ⟨texts, htexts, rfl⟩ := Option.map_eq_some_iff.1 hj
    rw [Schema.cells_ofTexts, Schema.cells_ofTexts, hold]
    exact fun heq => halone j texts hne htexts (Cell.ofTexts_injective heq)

/-- The rows of one table change. Every reference in question is kept, if no row is stranded. -/
theorem ReferencesHold.exchange (h : db.ReferencesHold Concerns) (hsound : db.Sound) (ht : (key, t) ∈ db.tables)
    (hrows : t.Holds rows) (hx : RowExchange db key t.schema rows rows' gone fresh)
    (hwide : ∀ row ∈ rows', row.length = t.schema.columns.length) (now : Timestamp)
    (hstrand : ∀ fk, Concerns key fk → keyOf fk.refTable = key →
      ¬ db.Strands (db.setTable key (storedTable t.schema rows' now))) :
    (db.setTable key (storedTable t.schema rows' now)).ReferencesHold Concerns := by
  intro entry hentry rule hrule hconcerns k hnull hheld
  rcases mem_setTable hsound hentry with rfl | ⟨hne, hmem⟩
  · rw [storedTable_holds_iff hwide] at hheld
    obtain ⟨row, hrow, rfl⟩ := hheld
    rcases hx.mem row hrow with hfresh | ⟨j, hj, hkept⟩
    · -- the new row: its references were looked up among the old rows
      have hput := (hx.put row hfresh).2.hasReferenced hrule hnull
      refine hput.setTable hsound ht rfl fun heq hall hparent => ?_
      rw [storedTable_holds_iff hwide]
      rcases hx.held (hrows.hasKey_iff.1 hparent) with hstill | ⟨i, old, hgone, hold, hother, halone⟩
      · exact hstill
      · have hset : rows' = rows.set i row := hx.replaced _ hgone row hfresh
        refine absurd ⟨key, t, storedTable t.schema rows' now, rule, i, Cell.ofTexts old, Cell.ofTexts row, ht,
          hentry, hrule, heq, ?_, ?_⟩ (hstrand rule.2 hconcerns heq)
        · rw [(storedTable_holds hwide now).rows_eq, hrows.rows_eq, hset, List.map_set]
        · rw [hrows.rows_eq]
          exact (hx.strandsRow hgone hfresh hnull hold hother halone).of_columns_eq rfl
    · -- an old row: it is not the one taken away
      have hold := h _ ht rule hrule hconcerns _ hnull (hrows.hasKey_iff.2 ⟨row, List.mem_of_getElem? hj, rfl⟩)
      refine hold.setTable hsound ht rfl fun heq hall hparent => ?_
      rw [storedTable_holds_iff hwide]
      rcases hx.held (hrows.hasKey_iff.1 hparent) with hstill | ⟨i, old, hgone, holdk, hfresh, -⟩
      · exact hstill
      · have hrow' : t.rows[j]? = some (Cell.ofTexts row) := by
          rw [hrows.rows_eq, List.getElem?_map, hj]
          rfl
        have hself := hx.referrer hgone ht hrule heq hall hnull holdk hfresh hrow' (Schema.cells_ofTexts _ _)
        exact absurd hself.2 (hkept _ hgone)
  · -- a row of another table
    have hold := h entry hmem rule hrule hconcerns k hnull hheld
    refine hold.setTable hsound ht rfl fun heq hall hparent => ?_
    rw [storedTable_holds_iff hwide]
    rcases hx.held (hrows.hasKey_iff.1 hparent) with hstill | ⟨i, old, hgone, holdk, hfresh, -⟩
    · exact hstill
    · obtain ⟨row, hrow, hk⟩ := hheld
      obtain ⟨j, hj⟩ := List.mem_iff_getElem?.1 hrow
      exact absurd (hx.referrer hgone hmem hrule heq hall hnull holdk hfresh hj hk).1 hne

/-! ## Any change -/

theorem table?_eq_none_of_hasTable {s : Schema} (h : db.hasTable s.name = false) :
    ∀ name, keyOf name = keyOf s.name → db.table? name = none := by
  intro name heq
  rw [hasTable, Option.isSome_eq_false_iff, Option.isNone_iff_eq_none] at h
  rw [table?, heq]
  exact h

theorem ReferencesHold.addTable (h : db.ReferencesHold Concerns) (hsound : db.Sound) {s : Schema} {now : Timestamp}
    (hnew : db.hasTable s.name = false) :
    (db.setTable (keyOf s.name) (storedTable s [] now)).ReferencesHold Concerns := by
  intro entry hentry rule hrule hconcerns k hnull hheld
  rcases mem_setTable hsound hentry with rfl | ⟨-, hmem⟩
  · rw [storedTable_holds_iff (fun _ hrow => by cases hrow)] at hheld
    obtain ⟨row, hrow, -⟩ := hheld
    cases hrow
  · exact Provides.addTable (h entry hmem rule hrule hconcerns k hnull hheld) (table?_eq_none_of_hasTable hnew)

theorem referrer?_eq_none (h : db.referrer? key = none) {entry : String × Table} (hentry : entry ∈ db.tables)
    (hne : entry.1 ≠ key) {rule : String × ForeignKey} (hrule : rule ∈ entry.2.schema.foreignKeys) :
    keyOf rule.2.refTable ≠ key := by
  intro heq
  have hnone := List.find?_eq_none.1 (Option.map_eq_none_iff.1 h) entry hentry
  apply hnone
  simp only [Bool.and_eq_true, bne_iff_ne, ne_eq, List.any_eq_true, beq_iff_eq]
  exact ⟨hne, rule, hrule, heq⟩

theorem ReferencesHold.dropTable (h : db.ReferencesHold Concerns) (hsound : db.Sound)
    (hfree : db.referrer? key = none) : (db.dropTable key).ReferencesHold Concerns := by
  rintro ⟨childKey, child⟩ hentry rule hrule hconcerns k hnull hheld
  obtain ⟨hne, hmem⟩ := (mem_removeEntry hsound.nodup).1 hentry
  exact Provides.dropTable (h _ hmem rule hrule hconcerns k hnull hheld) (referrer?_eq_none hfree hmem hne hrule)

/-- Every change keeps the references in question, if it strands no row with such a reference. -/
theorem Transition.referencesHold (hsound : db.Sound) (h : db.ReferencesHold Concerns)
    (ht : Transition db now New db')
    (hstrand : ∀ key fk, Concerns key fk → keyOf fk.refTable = key → ¬ db.Strands db') :
    db'.ReferencesHold Concerns := by
  cases ht with
  | idle => exact h
  | unwritten hsaved => exact h.of_tables_eq (tables_of_persist hsaved)
  | restamped ht hsaved =>
    refine .of_tables_eq ?_ (tables_setTable_congr (tables_of_persist hsaved) _ _)
    exact h.setTable hsound ht rfl rfl rfl
  | added hs hs' hnew hsaved =>
    exact (h.addTable hsound hnew).of_tables_eq (tables_setTable_congr (tables_of_persist hsaved) _ _)
  | unremoved _ => exact h.of_tables_eq rfl
  | removed ht hfree _ => exact (h.dropTable hsound hfree).of_tables_eq rfl
  | rewritten ht hrows hchange hsaved =>
    have htables := tables_of_persist hsaved
    obtain ⟨gone, fresh, hx⟩ := hchange.exchange
    refine (h.exchange hsound ht hrows hx (hchange.wide hrows.wide) _ ?_).of_tables_eq
      (tables_setTable_congr htables _ _)
    exact fun fk hconcerns hself hstrands =>
      hstrand _ fk hconcerns hself (hstrands.of_tables_eq (tables_setTable_congr htables _ _))
  | indexed ht hrows hindex hsaved =>
    obtain ⟨-, -, key, -, rfl⟩ := Schema.addIndex_eq_ok.1 hindex
    refine .of_tables_eq ?_ (tables_setTable_congr (tables_of_persist hsaved) _ _)
    exact h.setTable hsound ht rfl rfl hrows.rows_eq.symm

end Database

end Relational
