import Mathlib.Data.List.Induction
import Relational.Proofs.Database.Transition

/-!
# Runs

A run asks one change after another of a database; between two of them the directory may become any other, so
that any access to it can fail. Whatever holds of a database without tables and is kept by every change holds
after every run. Soundness is the first such property: the rows of every table are texts of its width, and its
indexes are what the rows make them.
-/

namespace Relational

/-! ## Sound tables -/

namespace Database

theorem storedTable_name (s : Schema) (rows : List (List String)) (now : Timestamp) :
    (storedTable s rows now).schema.name = s.name := rfl

/-- A table that is stored with rows of its width holds them. -/
theorem storedTable_holds {s : Schema} {rows : List (List String)}
    (hwide : ∀ row ∈ rows, row.length = s.columns.length) (now : Timestamp) : (storedTable s rows now).Holds rows :=
  ⟨rfl, hwide⟩

theorem storedTable_sound {s : Schema} (hs : s.WellFormed) {rows : List (List String)}
    (hwide : ∀ row ∈ rows, row.length = s.columns.length) (now : Timestamp) : (storedTable s rows now).Sound :=
  ⟨stamped_wellFormed hs _ _, rows, storedTable_holds hwide now⟩

/-- What holds of the rows that were there, and of every row in its stored form, holds of the changed rows. -/
theorem RowChange.forall_mem {db : Database} {key : String} {t : Table} {rows rows' : List (List String)}
    {P : List String → Prop} (h : RowChange db key t rows rows') (hold : ∀ row ∈ rows, P row)
    (hnew : ∀ now raw row, storedRow t.schema now raw = .ok row → P row) : ∀ row ∈ rows', P row := by
  intro row hrow
  cases h with
  | inserted hstored _ _ =>
    rcases List.mem_append.1 hrow with hrow | hrow
    · exact hold row hrow
    · rw [List.mem_singleton.1 hrow]
      exact hnew _ _ _ hstored
  | updated _ hstored _ _ _ =>
    rcases List.mem_or_eq_of_mem_set hrow with hrow | rfl
    · exact hold row hrow
    · exact hnew _ _ _ hstored
  | deleted _ _ => exact hold row (List.mem_of_mem_eraseIdx hrow)

theorem RowChange.wide {db : Database} {key : String} {t : Table} {rows rows' : List (List String)}
    (h : RowChange db key t rows rows') (hwide : ∀ row ∈ rows, row.length = t.schema.columns.length) :
    ∀ row ∈ rows', row.length = t.schema.columns.length :=
  h.forall_mem hwide fun _ _ _ => Schema.length_storedRow

/-- An index more changes no column. -/
theorem columns_addIndex {s s' : Schema} {index : String} {columns : List String} {unique : Bool}
    (h : s.addIndex index columns unique = .ok s') : s'.columns = s.columns ∧ s'.name = s.name := by
  obtain ⟨-, -, key, -, rfl⟩ := Schema.addIndex_eq_ok.1 h
  exact ⟨rfl, rfl⟩

/-! ## Sound databases -/

variable {db db' saved : Database} {now : Timestamp} {New : Schema → Prop} {key : String} {t : Table}

theorem mem_setTable (h : db.Sound) {entry : String × Table} (hentry : entry ∈ (db.setTable key t).tables) :
    entry = (key, t) ∨ entry.1 ≠ key ∧ entry ∈ db.tables := by
  obtain ⟨k, v⟩ := entry
  rcases (mem_setEntry h.nodup).1 hentry with ⟨rfl, rfl⟩ | hother
  · exact .inl rfl
  · exact .inr hother

theorem Sound.setTable (h : db.Sound) {name : String} (hname : t.schema.name = name) (hkey : keyOf name = key)
    (ht : t.Sound) : (db.setTable key t).Sound := by
  subst hname
  refine ⟨nodup_setEntry h.nodup, ?_, ?_⟩
  · intro entry hentry
    rcases mem_setTable h hentry with rfl | ⟨-, hmem⟩
    · exact hkey
    · exact h.keyed entry hmem
  · intro entry hentry
    rcases mem_setTable h hentry with rfl | ⟨-, hmem⟩
    · exact ht
    · exact h.tables entry hmem

theorem Sound.dropTable (h : db.Sound) (key : String) : (db.dropTable key).Sound :=
  ⟨nodup_removeEntry h.nodup, fun entry hentry => h.keyed entry ((removeEntry_sublist key db.tables).subset hentry),
    fun entry hentry => h.tables entry ((removeEntry_sublist key db.tables).subset hentry)⟩

theorem Sound.of_tables_eq (h : db.Sound) (htables : db'.tables = db.tables) : db'.Sound := by
  refine ⟨?_, ?_, ?_⟩
  · rw [htables]
    exact h.nodup
  · rw [htables]
    exact h.keyed
  · rw [TablesSound, htables]
    exact h.tables

theorem Sound.empty (directory : Option Directory) : (empty directory).Sound :=
  ⟨List.nodup_nil, fun _ h => (List.not_mem_nil h).elim, fun _ h => (List.not_mem_nil h).elim⟩

/-- Every change leaves a sound database sound. -/
theorem Transition.sound (h : db.Sound) (ht : Transition db now New db') : db'.Sound := by
  cases ht with
  | idle => exact h
  | unwritten hsaved => exact h.of_tables_eq (tables_of_persist hsaved)
  | restamped ht hsaved =>
    have hsound := h.tables _ ht
    obtain ⟨rows, hrows⟩ := hsound.holds
    exact (h.of_tables_eq (tables_of_persist hsaved)).setTable (stamped_name _ _ _) (h.keyOf_name ht)
      ⟨stamped_wellFormed hsound.wellFormed _ _, rows, hrows.content, hrows.wide⟩
  | added hs _ _ hsaved =>
    exact (h.of_tables_eq (tables_of_persist hsaved)).setTable (storedTable_name _ _ _) rfl
      (storedTable_sound hs.wellFormed (fun _ hrow => (List.not_mem_nil hrow).elim) _)
  | unremoved _ => exact h.of_tables_eq rfl
  | removed _ _ _ => exact (h.dropTable _).of_tables_eq rfl
  | rewritten ht hrows hchange hsaved =>
    exact (h.of_tables_eq (tables_of_persist hsaved)).setTable (storedTable_name _ _ _) (h.keyOf_name ht)
      (storedTable_sound (h.tables _ ht).wellFormed (hchange.wide hrows.wide) _)
  | indexed ht hrows hindex hsaved =>
    obtain ⟨hcolumns, hname⟩ := columns_addIndex hindex
    refine (h.of_tables_eq (tables_of_persist hsaved)).setTable ((storedTable_name _ _ _).trans hname) (h.keyOf_name ht)
      (storedTable_sound (Schema.addIndex_wellFormed (h.tables _ ht).wellFormed hindex) ?_ _)
    rw [hcolumns]
    exact hrows.wide

/-- A property of single tables that new tables have, and that changes of one table keep, holds of all tables. -/
theorem Transition.forall_tables {P : Table → Prop} (h : db.Sound) (hdb : ∀ entry ∈ db.tables, P entry.2)
    (ht : Transition db now New db')
    (hstamped : ∀ t rows, t.Sound → P t → P { t with schema := stamped t.schema rows now })
    (hadded : ∀ s, s.Declared → New s → P (storedTable s [] now))
    (hrewritten : ∀ key t rows rows', t.Sound → t.Holds rows → RowChange db key t rows rows' → P t →
      P (storedTable t.schema rows' now))
    (hindexed : ∀ t s index columns unique rows, t.Sound → t.Holds rows →
      t.schema.addIndex index columns unique = .ok s → P t → P (storedTable s rows now)) :
    ∀ entry ∈ db'.tables, P entry.2 := by
  have hset : ∀ {saved : Database} {key : String} {t : Table}, saved.tables = db.tables → P t →
      ∀ entry ∈ (saved.setTable key t).tables, P entry.2 := by
    intro saved key t htables hP entry hentry
    rcases mem_setTable (h.of_tables_eq htables) hentry with rfl | ⟨-, hmem⟩
    · exact hP
    · exact hdb entry (htables ▸ hmem)
  cases ht with
  | idle => exact hdb
  | unwritten hsaved => rwa [tables_of_persist hsaved]
  | restamped ht hsaved => exact hset (tables_of_persist hsaved) (hstamped _ _ (h.tables _ ht) (hdb _ ht))
  | added hs hs' _ hsaved => exact hset (tables_of_persist hsaved) (hadded _ hs hs')
  | unremoved _ => exact hdb
  | removed _ _ _ => exact fun entry hentry => hdb entry ((removeEntry_sublist _ _).subset hentry)
  | rewritten ht hrows hchange hsaved =>
    exact hset (tables_of_persist hsaved) (hrewritten _ _ _ _ (h.tables _ ht) hrows hchange (hdb _ ht))
  | indexed ht hrows hindex hsaved =>
    exact hset (tables_of_persist hsaved) (hindexed _ _ _ _ _ _ (h.tables _ ht) hrows hindex (hdb _ ht))

/-! ## Runs -/

/-- What is asked of a database, or that its directory becomes another. -/
inductive Step where
  | addTable (now : Timestamp) (s : Schema) (declared : s.Declared)
  | removeTable (name : String)
  | insertRow (now : Timestamp) (name : String) (input : RowInput)
  | updateRow (now : Timestamp) (name : String) (position : Int) (input : RowInput)
  | deleteRow (now : Timestamp) (name : String) (position : Int)
  | createIndex (now : Timestamp) (name index : String) (columns : List String) (unique : Bool)
  | disturb (directory : Option Directory)

/-- The database after a step, whether it succeeds or not. -/
def after (db : Database) : Step → Database
  | .addTable now s _ => (db.addTable now s).2
  | .removeTable name => (db.removeTable name).2
  | .insertRow now name input => (db.insertRow now name input).2
  | .updateRow now name position input => (db.updateRow now name position input).2
  | .deleteRow now name position => (db.deleteRow now name position).2
  | .createIndex now name index columns unique => (db.createIndex now name index columns unique).2
  | .disturb directory => { db with directory := directory }

/-- The database after steps. -/
def run (db : Database) (steps : List Step) : Database :=
  steps.foldl after db

/-- What holds at first, and is kept from each state of a run to the next, holds in all states of the run. -/
theorem forall_foldl_take {α β : Type} {P : β → Prop} {f : β → α → β} {b : β} {as : List α} (hb : P b)
    (h : ∀ n a, P ((as.take n).foldl f b) → (as.take (n + 1)).foldl f b = f ((as.take n).foldl f b) a →
      P (f ((as.take n).foldl f b) a)) (n : Nat) : P ((as.take n).foldl f b) := by
  induction n with
  | zero => exact hb
  | succ n ih =>
    cases ha : as[n]? with
    | none =>
      rw [List.take_add_one, ha, Option.toList_none, List.append_nil]
      exact ih
    | some a =>
      have hnext : (as.take (n + 1)).foldl f b = f ((as.take n).foldl f b) a := by
        rw [List.take_add_one, ha, Option.toList_some, List.foldl_concat]
      rw [hnext]
      exact h n a ih hnext

/-- The table that a step may add. -/
def Step.adds : Step → Schema → Prop
  | .addTable _ s _, added => added = s
  | _, _ => False

/-- The step is made at a moment. The removal of a table asks for none, and is made at any. -/
def Step.MadeAt (now : Timestamp) : Step → Prop
  | .addTable moment _ _ => moment = now
  | .removeTable _ => True
  | .insertRow moment _ _ => moment = now
  | .updateRow moment _ _ _ => moment = now
  | .deleteRow moment _ _ => moment = now
  | .createIndex moment _ _ _ _ => moment = now
  | .disturb _ => False

/-- A step that is made at a moment makes a change. -/
theorem Step.MadeAt.transition {step : Step} (hmade : step.MadeAt now) (h : db.Sound) :
    Transition db now step.adds (db.after step) := by
  cases step with
  | addTable moment s declared =>
    obtain rfl : moment = now := hmade
    exact addTable_transition declared rfl
  | removeTable name => exact removeTable_transition name
  | insertRow moment name input =>
    obtain rfl : moment = now := hmade
    exact insertRow_transition h name input
  | updateRow moment name position input =>
    obtain rfl : moment = now := hmade
    exact updateRow_transition h name position input
  | deleteRow moment name position =>
    obtain rfl : moment = now := hmade
    exact deleteRow_transition h name position
  | createIndex moment name index columns unique =>
    obtain rfl : moment = now := hmade
    exact createIndex_transition h name index columns unique
  | disturb directory => exact hmade.elim

/-- Every step is made at some moment, but one that changes nothing but the directory. -/
theorem Step.exists_madeAt (step : Step) : (∃ now, step.MadeAt now) ∨ ∃ directory, step = .disturb directory := by
  cases step with
  | addTable now s declared => exact .inl ⟨now, rfl⟩
  | removeTable name => exact .inl ⟨default, trivial⟩
  | insertRow now name input => exact .inl ⟨now, rfl⟩
  | updateRow now name position input => exact .inl ⟨now, rfl⟩
  | deleteRow now name position => exact .inl ⟨now, rfl⟩
  | createIndex now name index columns unique => exact .inl ⟨now, rfl⟩
  | disturb directory => exact .inr ⟨directory, rfl⟩

theorem after_transition (h : db.Sound) (step : Step) : (∃ now, Transition db now step.adds (db.after step)) ∨
    ∃ directory, db.after step = { db with directory := directory } := by
  rcases step.exists_madeAt with ⟨now, hmade⟩ | ⟨directory, rfl⟩
  · exact .inl ⟨now, hmade.transition h⟩
  · exact .inr ⟨directory, rfl⟩

theorem after_sound (h : db.Sound) (step : Step) : (db.after step).Sound := by
  rcases after_transition h step with ⟨now, ht⟩ | ⟨directory, hafter⟩
  · exact ht.sound h
  · rw [hafter]
    exact h.of_tables_eq rfl

/-- The tables of every database that is reached from an empty one are sound. -/
theorem run_sound (directory : Option Directory) (steps : List Step) : ((empty directory).run steps).Sound := by
  induction steps using List.reverseRec with
  | nil => exact .empty directory
  | append_singleton steps step ih =>
    rw [run, List.foldl_concat]
    exact after_sound ih step

/-- A property of the tables that changes keep holds after every run. -/
theorem run_induction {P : List (String × Table) → Prop}
    (hstep : ∀ db db' now New, db.Sound → P db.tables → Transition db now New db' → P db'.tables) (hempty : P [])
    (directory : Option Directory) (steps : List Step) : P ((empty directory).run steps).tables := by
  induction steps using List.reverseRec with
  | nil => exact hempty
  | append_singleton steps step ih =>
    have hsound := run_sound directory steps
    rw [run, List.foldl_concat]
    rcases after_transition hsound step with ⟨now, ht⟩ | ⟨directory', hafter⟩
    · exact hstep _ _ _ _ hsound ih ht
    · rw [run] at hafter
      rw [hafter]
      exact ih

end Database

end Relational
