import Relational.Proofs.Database.Reachable

/-!
# Answers

Every step asks one change of a database. Its checks look at the tables alone; they refuse it or say which table is to
be put in its place or to be dropped. That is then made: in the directory first, if there is one, and in memory once the
directory has taken it. So whether the checks let a step pass does not depend on the directory, and a step that they let
pass fails only if the directory does.
-/

namespace Relational.Database

open Text

variable {K : RowInvariant} {db : Database} {now : Timestamp} {key name : String} {t : Table}

/-! ## Asking -/

/-- An outcome of which only the success counts. -/
def Outcome.done {α : Type} (outcome : Outcome α) : Outcome Unit :=
  (outcome.1.map fun _ => (), outcome.2)

/-- What a database answers to a step, and the database after it. -/
def answer (db : Database) : Step → Outcome Unit
  | .addTable now s _ => db.addTable now s
  | .removeTable name => db.removeTable name
  | .insertRow now name input => Outcome.done (db.insertRow now name input)
  | .updateRow now name position input => Outcome.done (db.updateRow now name position input)
  | .deleteRow now name position => Outcome.done (db.deleteRow now name position)
  | .createIndex now name index columns unique => db.createIndex now name index columns unique
  | .disturb directory => (.ok (), { db with directory := directory })

theorem Outcome.error_of_done {α : Type} {outcome : Outcome α} {failure : Failure}
    (h : (Outcome.done outcome).1 = .error failure) : outcome.1 = .error failure := by
  obtain ⟨written, saved⟩ := outcome
  cases written with
  | ok => cases h
  | error failure' =>
    cases h
    rfl

theorem answer_snd (db : Database) (step : Step) : (db.answer step).2 = db.after step := by
  cases step <;> rfl

/-! ## Making a change -/

/-- What a step comes down to: a table is put in its place, or one is dropped. Should the directory not take the table
that is put, another may be put instead. -/
inductive Change where
  | put (key : String) (t : Table) (instead : Option Table)
  | drop (key : String) (t : Table)

/-- Makes a change, in the directory first. -/
def make (db : Database) : Change → Outcome Unit
  | .put key t instead =>
    match db.persist t.schema t.rows with
    | (.ok (), saved) => (.ok (), saved.setTable key t)
    | (.error failure, saved) => (.error failure, instead.elim saved (saved.setTable key))
  | .drop key t =>
    match unlink db.directory t.schema.name with
    | (.ok (), directory) => (t.loaded.map fun _ => (), { db.dropTable key with directory := directory })
    | (.error failure, directory) => (.error failure, { db with directory := directory })

/-! ## Checking -/

/-- The checks before a row is inserted: the table with its content, and the row in its stored form. -/
def insertion (db : Database) (now : Timestamp) (name : String) (input : RowInput) :
    Except Failure (Table × Content × List String) := do
  let t ← db.table name
  let row ← storedRow t.schema now (input.toRow t.schema)
  checkTogether [checkKeys t row none, checkReferences db t.schema row]
  pure (t, ← t.loaded, row)

/-- The checks before a row is replaced. -/
def replacement (db : Database) (now : Timestamp) (name : String) (position : Int) (input : RowInput) :
    Except Failure (Table × Content × Nat × List String) := do
  let t ← db.table name
  let (content, i, old) ← rowAt t position
  let row ← storedRow t.schema now (← input.onRow t.schema old)
  checkTogether [checkKeys t row (some i), checkReferences db t.schema row,
    checkNotReferenced db (keyOf name) t.schema old i (some row)]
  pure (t, content, i, row)

/-- The checks before a row is deleted. -/
def deletion (db : Database) (name : String) (position : Int) : Except Failure (Table × Content × Nat) := do
  let t ← db.table name
  let (content, i, old) ← rowAt t position
  checkNotReferenced db (keyOf name) t.schema old i none
  pure (t, content, i)

/-- The checks before an index is created: the table with its content, the definition with the index, and the index with
its entries. -/
def indexing (db : Database) (name index : String) (columns : List String) (unique : Bool) :
    Except Failure (Table × Content × Schema × Index) := do
  let t ← db.table name
  if let some column := columns.find? fun column => !t.schema.hasColumn column then
    reject (.noColumn column t.schema.name)
  let content ← t.loaded
  if (content.indexes.lookup (lower index)).isSome then reject (.indexExists index t.schema.name)
  let spelled := columns.filterMap fun column => (t.schema.column? column).map Column.name
  let filled ← t.schema.fillIndex content.rows (.empty index spelled unique)
  if unique then
    if let some key := duplicateKey? filled then reject (.indexDuplicate index key)
  pure (t, content, ← t.schema.addIndex index columns unique, filled)

/-- The change that a step comes down to, if the checks let it pass. -/
inductive Planned (db : Database) : Step → Change → Prop where
  | added {now : Timestamp} {s : Schema} {declared : s.Declared} (hnew : db.hasTable s.name = false) :
      Planned db (.addTable now s declared) (.put (keyOf s.name) (storedTable s [] now) none)
  | removed {name : String} {t : Table} (ht : db.table? name = some t) :
      Planned db (.removeTable name) (.drop (keyOf name) t)
  | inserted {now : Timestamp} {name : String} {input : RowInput} {t : Table} {rows : List (List String)}
      {row : List String} (ht : db.table? name = some t) (hrows : t.Holds rows)
      (hrow : storedRow t.schema now (input.toRow t.schema) = .ok row) :
      Planned db (.insertRow now name input) (.put (keyOf name) (storedTable t.schema (rows ++ [row]) now) none)
  | updated {now : Timestamp} {name : String} {i : Nat} {input : RowInput} {t : Table} {rows : List (List String)}
      {raw row : List String} (ht : db.table? name = some t) (hrows : t.Holds rows) (hi : i < rows.length)
      (hrow : storedRow t.schema now raw = .ok row) :
      Planned db (.updateRow now name i input) (.put (keyOf name) (storedTable t.schema (rows.set i row) now) none)
  | deleted {now : Timestamp} {name : String} {i : Nat} {t : Table} {rows : List (List String)}
      (ht : db.table? name = some t) (hrows : t.Holds rows) (hi : i < rows.length) :
      Planned db (.deleteRow now name i) (.put (keyOf name) (storedTable t.schema (rows.eraseIdx i) now) none)
  | indexed {now : Timestamp} {name index : String} {columns : List String} {unique : Bool} {t : Table} {s : Schema}
      {rows : List (List String)} (ht : db.table? name = some t) (hrows : t.Holds rows)
      (hindex : t.schema.addIndex index columns unique = .ok s) :
      Planned db (.createIndex now name index columns unique) (.put (keyOf name) (storedTable s rows now)
        (some { t with schema := stamped t.schema (rows.map Cell.ofTexts) now }))

/-! ## Answers come from changes -/

/-- The database over another directory. -/
def upon (db : Database) (directory : Option Directory) : Database :=
  { db with directory := directory }

/-- What a database answers to a step over any directory: the checks refuse it, or its change is made. -/
inductive Answered (db : Database) (step : Step) : Prop where
  | refused (failure : Failure)
      (hrefused : ∀ directory, (db.upon directory).answer step = (.error failure, db.upon directory))
  | made {change : Change} (hplanned : Planned db step change)
      (hmade : ∀ directory, (db.upon directory).answer step = (db.upon directory).make change)
  | disturbed {directory : Option Directory} (hstep : step = .disturb directory)

theorem commitRows_eq (db : Database) (now : Timestamp) (key : String) (t : Table) (old rows : List (List String)) :
    db.commitRows now key t (t.schema.contentOf old) (rows.map Cell.ofTexts)
      = db.make (.put key (storedTable t.schema rows now) none) := by
  have hcontent : (t.schema.contentOf old).withRows (stamped t.schema (rows.map Cell.ofTexts) now)
      (rows.map Cell.ofTexts) = .ok (t.schema.contentOf rows) := Schema.withRows_contentOf rfl old rows
  have hrows : (storedTable t.schema rows now).rows = rows.map Cell.ofTexts := rfl
  have hschema : (storedTable t.schema rows now).schema = stamped t.schema (rows.map Cell.ofTexts) now := rfl
  simp only [commitRows, hcontent, make, hrows, hschema]
  generalize db.persist (stamped t.schema (rows.map Cell.ofTexts) now) (rows.map Cell.ofTexts) = outcome
  obtain ⟨written, saved⟩ := outcome
  cases written <;> rfl

theorem rowAt_position {position : Int} {content : Content} {i : Nat} {row : List Cell}
    (h : rowAt t position = .ok (content, i, row)) : position = i := by
  obtain ⟨content', -, h⟩ := bind_eq_ok.1 h
  cases position with
  | negSucc n => simp at h
  | ofNat n =>
    dsimp only at h
    split at h
    · cases h
      rfl
    · simp at h

theorem done_make {α : Type} (outcome : Outcome Unit) (a : α) :
    Outcome.done (outcome.1.map fun _ => a, outcome.2) = outcome := by
  obtain ⟨written, saved⟩ := outcome
  cases written <;> rfl

theorem addTable_answered (now : Timestamp) (s : Schema) (declared : s.Declared) :
    Answered db (.addTable now s declared) := by
  cases hnew : db.hasTable s.name with
  | true =>
    refine .refused (.rejection (.tableExists s.name)) fun directory => ?_
    have hnew' : (db.upon directory).hasTable s.name = true := hnew
    simp only [answer, addTable, hnew', if_true, reject]
  | false =>
    refine .made (.added hnew) fun directory => ?_
    have hnew' : (db.upon directory).hasTable s.name = false := hnew
    have hrows : (storedTable s [] now).rows = [] := rfl
    have hschema : (storedTable s [] now).schema = stamped s [] now := rfl
    simp only [answer, addTable, hnew', Bool.false_eq_true, if_false, make, hrows, hschema, Schema.noContent_eq]
    generalize (db.upon directory).persist (stamped s [] now) [] = outcome
    obtain ⟨written, saved⟩ := outcome
    cases written <;> rfl

theorem removeTable_answered (name : String) : Answered db (.removeTable name) := by
  cases ht : db.table name with
  | error failure =>
    refine .refused failure fun directory => ?_
    have ht' : (db.upon directory).table name = .error failure := ht
    simp only [answer, removeTable, ht']
  | ok t =>
    cases hreferrer : db.referrer? (keyOf name) with
    | some other =>
      refine .refused (.rejection (.tableReferenced t.schema.name other.schema.name)) fun directory => ?_
      have ht' : (db.upon directory).table name = .ok t := ht
      have hreferrer' : (db.upon directory).referrer? (keyOf name) = some other := hreferrer
      simp only [answer, removeTable, ht', hreferrer', reject]
    | none =>
      refine .made (.removed (table_eq_ok.1 ht)) fun directory => ?_
      have ht' : (db.upon directory).table name = .ok t := ht
      have hreferrer' : (db.upon directory).referrer? (keyOf name) = none := hreferrer
      simp only [answer, removeTable, ht', hreferrer', make, unlink]
      cases directory with
      | none => rfl
      | some d =>
        simp only [upon]
        generalize Storage.delete t.schema.name d = outcome
        obtain ⟨deleted, d'⟩ := outcome
        cases deleted <;> rfl

theorem insertRow_upon (db : Database) (directory : Option Directory) (now : Timestamp) (name : String)
    (input : RowInput) : (db.upon directory).insertRow now name input
      = match db.insertion now name input with
        | .error failure => (.error failure, db.upon directory)
        | .ok (t, content, row) =>
          let (written, saved) := (db.upon directory).commitRows now (keyOf name) t content
            (content.rows ++ [Cell.ofTexts row])
          (written.map fun _ => content.rows.length, saved) := rfl

theorem insertRow_refused {input : RowInput} {failure : Failure}
    (hchecked : db.insertion now name input = .error failure) (directory : Option Directory) :
    (db.upon directory).answer (.insertRow now name input) = (.error failure, db.upon directory) := by
  rw [answer, insertRow_upon, hchecked]
  rfl

/-- What the checks before a row is inserted have found. -/
theorem insertion_eq_ok (h : db.Consistent K) {input : RowInput} {content : Content} {row : List String}
    (hchecked : db.insertion now name input = .ok (t, content, row)) : db.table? name = some t ∧
      ∃ rows, t.Holds rows ∧ content = t.schema.contentOf rows ∧
        storedRow t.schema now (input.toRow t.schema) = .ok row := by
  obtain ⟨t', ht, hchecked⟩ := bind_eq_ok.1 hchecked
  obtain ⟨row', hrow, hchecked⟩ := bind_eq_ok.1 hchecked
  obtain ⟨-, hchecked⟩ := check_bind_eq_ok.1 hchecked
  obtain ⟨content', hloaded, hchecked⟩ := bind_eq_ok.1 hchecked
  cases hchecked
  rw [table_eq_ok] at ht
  obtain ⟨rows, hrows, -, rfl⟩ := h.holds (mem_of_table? ht) (loaded_eq_ok.1 hloaded)
  exact ⟨ht, rows, hrows, rfl, hrow⟩

/-- An insertion that was let pass puts the table with the new row. -/
theorem insertRow_made {input : RowInput} {rows : List (List String)} {row : List String}
    (hchecked : db.insertion now name input = .ok (t, t.schema.contentOf rows, row))
    (directory : Option Directory) : (db.upon directory).answer (.insertRow now name input)
      = (db.upon directory).make (.put (keyOf name) (storedTable t.schema (rows ++ [row]) now) none) := by
  have hnew : (t.schema.contentOf rows).rows ++ [Cell.ofTexts row] = (rows ++ [row]).map Cell.ofTexts := by
    simp [Schema.contentOf]
  rw [answer, insertRow_upon, hchecked]
  simp only [hnew, commitRows_eq]
  exact done_make _ _

theorem insertRow_answered (h : db.Consistent K) (now : Timestamp) (name : String) (input : RowInput) :
    Answered db (.insertRow now name input) := by
  cases hinsertion : db.insertion now name input with
  | error failure => exact .refused failure (insertRow_refused hinsertion)
  | ok checked =>
    obtain ⟨t, content, row⟩ := checked
    obtain ⟨ht, rows, hrows, rfl, hrow⟩ := insertion_eq_ok h hinsertion
    exact .made (.inserted ht hrows hrow) (insertRow_made hinsertion)

theorem updateRow_upon (db : Database) (directory : Option Directory) (now : Timestamp) (name : String)
    (position : Int) (input : RowInput) : (db.upon directory).updateRow now name position input
      = match db.replacement now name position input with
        | .error failure => (.error failure, db.upon directory)
        | .ok (t, content, i, row) =>
          let (written, saved) := (db.upon directory).commitRows now (keyOf name) t content
            (content.rows.set i (Cell.ofTexts row))
          (written.map fun _ => i, saved) := rfl

theorem updateRow_refused {position : Int} {input : RowInput} {failure : Failure}
    (hchecked : db.replacement now name position input = .error failure) (directory : Option Directory) :
    (db.upon directory).answer (.updateRow now name position input) = (.error failure, db.upon directory) := by
  rw [answer, updateRow_upon, hchecked]
  rfl

/-- What the checks before a row is replaced have found. -/
theorem replacement_eq_ok (h : db.Consistent K) {position : Int} {input : RowInput} {content : Content} {i : Nat}
    {row : List String} (hchecked : db.replacement now name position input = .ok (t, content, i, row)) :
    position = i ∧ db.table? name = some t ∧ ∃ rows old raw, t.Holds rows ∧ K.holds t.schema rows ∧
      content = t.schema.contentOf rows ∧ rows[i]? = some old ∧ input.onRow t.schema (Cell.ofTexts old) = .ok raw ∧
        storedRow t.schema now raw = .ok row := by
  obtain ⟨t', ht, hchecked⟩ := bind_eq_ok.1 hchecked
  obtain ⟨⟨content', i', cells⟩, hat, hchecked⟩ := bind_eq_ok.1 hchecked
  obtain ⟨raw, hraw, hchecked⟩ := bind_eq_ok.1 hchecked
  obtain ⟨row', hrow, hchecked⟩ := bind_eq_ok.1 hchecked
  obtain ⟨-, hchecked⟩ := check_bind_eq_ok.1 hchecked
  cases hchecked
  rw [table_eq_ok] at ht
  obtain ⟨hcontent, hcells⟩ := rowAt_eq_ok hat
  obtain ⟨rows, hrows, hkeeps, rfl⟩ := h.holds (mem_of_table? ht) hcontent
  obtain ⟨old, hold, rfl⟩ := Table.getElem?_map_ofTexts.1 hcells
  exact ⟨rowAt_position hat, ht, rows, old, raw, hrows, hkeeps, rfl, hold, hraw, hrow⟩

/-- A replacement that was let pass puts the table with the new row. -/
theorem updateRow_made {input : RowInput} {rows : List (List String)} {i : Nat} {row : List String}
    (hchecked : db.replacement now name i input = .ok (t, t.schema.contentOf rows, i, row))
    (directory : Option Directory) : (db.upon directory).answer (.updateRow now name i input)
      = (db.upon directory).make (.put (keyOf name) (storedTable t.schema (rows.set i row) now) none) := by
  have hnew : (t.schema.contentOf rows).rows.set i (Cell.ofTexts row) = (rows.set i row).map Cell.ofTexts := by
    rw [List.map_set]
    rfl
  rw [answer, updateRow_upon, hchecked]
  simp only [hnew, commitRows_eq]
  exact done_make _ _

theorem updateRow_answered (h : db.Consistent K) (now : Timestamp) (name : String) (position : Int)
    (input : RowInput) : Answered db (.updateRow now name position input) := by
  cases hreplacement : db.replacement now name position input with
  | error failure => exact .refused failure (updateRow_refused hreplacement)
  | ok checked =>
    obtain ⟨t, content, i, row⟩ := checked
    obtain ⟨rfl, ht, rows, old, raw, hrows, -, rfl, hold, -, hrow⟩ := replacement_eq_ok h hreplacement
    have hi : i < rows.length := (List.getElem?_eq_some_iff.1 hold).1
    exact .made (.updated ht hrows hi hrow) (updateRow_made hreplacement)

theorem deleteRow_upon (db : Database) (directory : Option Directory) (now : Timestamp) (name : String)
    (position : Int) : (db.upon directory).deleteRow now name position
      = match db.deletion name position with
        | .error failure => (.error failure, db.upon directory)
        | .ok (t, content, i) =>
          let (written, saved) := (db.upon directory).commitRows now (keyOf name) t content (content.rows.eraseIdx i)
          (written.map fun _ => i, saved) := rfl

theorem deleteRow_refused {position : Int} {failure : Failure} (hchecked : db.deletion name position = .error failure)
    (now : Timestamp) (directory : Option Directory) :
    (db.upon directory).answer (.deleteRow now name position) = (.error failure, db.upon directory) := by
  rw [answer, deleteRow_upon, hchecked]
  rfl

/-- What the checks before a row is deleted have found. -/
theorem deletion_eq_ok (h : db.Consistent K) {position : Int} {content : Content} {i : Nat}
    (hchecked : db.deletion name position = .ok (t, content, i)) : position = i ∧ db.table? name = some t ∧
      ∃ rows, t.Holds rows ∧ i < rows.length ∧ content = t.schema.contentOf rows := by
  obtain ⟨t', ht, hchecked⟩ := bind_eq_ok.1 hchecked
  obtain ⟨⟨content', i', old⟩, hat, hchecked⟩ := bind_eq_ok.1 hchecked
  obtain ⟨-, hchecked⟩ := check_bind_eq_ok.1 hchecked
  cases hchecked
  rw [table_eq_ok] at ht
  obtain ⟨hcontent, hold⟩ := rowAt_eq_ok hat
  obtain ⟨rows, hrows, -, rfl⟩ := h.holds (mem_of_table? ht) hcontent
  have hi : i < rows.length := by
    have hlt := (List.getElem?_eq_some_iff.1 hold).1
    rwa [Schema.contentOf, List.length_map] at hlt
  exact ⟨rowAt_position hat, ht, rows, hrows, hi, rfl⟩

/-- A deletion that was let pass puts the table without the row. -/
theorem deleteRow_made {rows : List (List String)} {i : Nat}
    (hchecked : db.deletion name i = .ok (t, t.schema.contentOf rows, i)) (now : Timestamp)
    (directory : Option Directory) : (db.upon directory).answer (.deleteRow now name i)
      = (db.upon directory).make (.put (keyOf name) (storedTable t.schema (rows.eraseIdx i) now) none) := by
  have hnew : (t.schema.contentOf rows).rows.eraseIdx i = (rows.eraseIdx i).map Cell.ofTexts :=
    List.eraseIdx_map _ _ _
  rw [answer, deleteRow_upon, hchecked]
  simp only [hnew, commitRows_eq]
  exact done_make _ _

theorem deleteRow_answered (h : db.Consistent K) (now : Timestamp) (name : String) (position : Int) :
    Answered db (.deleteRow now name position) := by
  cases hdeletion : db.deletion name position with
  | error failure => exact .refused failure (deleteRow_refused hdeletion now)
  | ok checked =>
    obtain ⟨t, content, i⟩ := checked
    obtain ⟨rfl, ht, rows, hrows, hi, rfl⟩ := deletion_eq_ok h hdeletion
    exact .made (.deleted ht hrows hi) (deleteRow_made hdeletion now)

theorem indexing_eq_ok (h : db.Consistent K) {index : String} {columns : List String} {unique : Bool}
    {content : Content} {s : Schema} {filled : Index}
    (hchecked : db.indexing name index columns unique = .ok (t, content, s, filled)) : ∃ rows,
    db.table? name = some t ∧ t.Holds rows ∧ content = t.schema.contentOf rows ∧
      t.schema.addIndex index columns unique = .ok s ∧
      setEntry (lower index) filled content.indexes = (s.contentOf rows).indexes := by
  unfold indexing at hchecked
  dsimp only at hchecked
  obtain ⟨t', ht, hchecked⟩ := bind_eq_ok.1 hchecked
  rw [table_eq_ok] at ht
  split at hchecked
  · simp at hchecked
  obtain ⟨content', hloaded, hchecked⟩ := bind_eq_ok.1 hchecked
  obtain ⟨rows, hrows, -, rfl⟩ := h.holds (mem_of_table? ht) (loaded_eq_ok.1 hloaded)
  split at hchecked
  · simp at hchecked
  obtain ⟨filled', hfilled, hchecked⟩ := bind_eq_ok.1 hchecked
  have hrowsOf : (t'.schema.contentOf rows).rows = rows.map Cell.ofTexts := rfl
  rw [hrowsOf, Schema.fillIndex_texts] at hfilled
  -- the keys of a unique index are looked at first; the definition is the same either way
  obtain ⟨s', hindex, heq⟩ : ∃ s', t'.schema.addIndex index columns unique = .ok s' ∧
      (pure (t', t'.schema.contentOf rows, s', filled') : Except Failure _) = .ok (t, content, s, filled) := by
    split at hchecked
    · split at hchecked
      · simp at hchecked
      · exact bind_eq_ok.1 hchecked
    · exact bind_eq_ok.1 hchecked
  cases heq
  cases hfilled
  obtain ⟨key, hkey, hcontent⟩ := contentOf_addIndex hindex rows
  -- the index was filled under the spelling of the table
  have hspelled : columns.filterMap (fun column => (t.schema.column? column).map Column.name) = key :=
    Schema.filterMap_spelling hkey
  exact ⟨rows, ht, hrows, rfl, hindex, by rw [hspelled, hcontent]⟩

theorem createIndex_upon (db : Database) (directory : Option Directory) (now : Timestamp) (name index : String)
    (columns : List String) (unique : Bool) : (db.upon directory).createIndex now name index columns unique
      = match db.indexing name index columns unique with
        | .error failure => (.error failure, db.upon directory)
        | .ok (t, content, s, filled) =>
          let key := keyOf name
          let s := stamped s content.rows now
          match (db.upon directory).persist s content.rows with
          | (.ok (), saved) => (.ok (), saved.setTable key ⟨s, some { content with
              indexes := setEntry (lower index) filled content.indexes }⟩)
          | (.error failure, saved) =>
            (.error failure, saved.setTable key { t with schema := stamped t.schema content.rows now }) := rfl

theorem createIndex_answered (h : db.Consistent K) (now : Timestamp) (name index : String) (columns : List String)
    (unique : Bool) : Answered db (.createIndex now name index columns unique) := by
  cases hindexing : db.indexing name index columns unique with
  | error failure =>
    refine .refused failure fun directory => ?_
    rw [answer, createIndex_upon, hindexing]
  | ok checked =>
    obtain ⟨t, content, s, filled⟩ := checked
    obtain ⟨rows, ht, hrows, rfl, hindex, hindexes⟩ := indexing_eq_ok h hindexing
    refine .made (.indexed ht hrows hindex) fun directory => ?_
    have hcells : (t.schema.contentOf rows).rows = rows.map Cell.ofTexts := rfl
    have hnew : (storedTable s rows now).rows = rows.map Cell.ofTexts := rfl
    have hschema : (storedTable s rows now).schema = stamped s (rows.map Cell.ofTexts) now := rfl
    rw [answer, createIndex_upon, hindexing]
    simp only [hindexes, hcells, make, hnew, hschema]
    generalize (db.upon directory).persist (stamped s (rows.map Cell.ofTexts) now) (rows.map Cell.ofTexts) = outcome
    obtain ⟨written, saved⟩ := outcome
    cases written <;> rfl

/-- Every step is refused by its checks, or comes down to a change, whatever the directory. -/
theorem Consistent.answered (h : db.Consistent K) (step : Step) : Answered db step := by
  cases step with
  | addTable now s declared => exact addTable_answered now s declared
  | removeTable name => exact removeTable_answered name
  | insertRow now name input => exact insertRow_answered h now name input
  | updateRow now name position input => exact updateRow_answered h now name position input
  | deleteRow now name position => exact deleteRow_answered h now name position
  | createIndex now name index columns unique => exact createIndex_answered h now name index columns unique
  | disturb directory => exact .disturbed rfl

end Relational.Database
