import Relational.Proofs.Database.References
import Relational.Proofs.Execution

/-!
# References in a session

CREATE TABLE refers only to tables that are there, or to its own, and no table goes away to which another refers.
So in a session that starts without tables every reference to another table finds the table, its columns and the
row, whatever is asked and whatever of it fails.
-/

namespace Relational

namespace Database

variable {db db' : Database} {now : Timestamp} {New : Schema → Prop} {key : String} {t t' : Table}

/-! ## Tables referred to -/

/-- Each foreign key of a table to be added refers to columns of the table itself or of a table that is there. -/
def FoundedIn (db : Database) (s : Schema) : Prop :=
  ∀ rule ∈ s.foreignKeys,
    (keyOf rule.2.refTable = keyOf s.name ∧ ∀ name ∈ rule.2.refColumns, s.hasColumn name = true) ∨
      db.Provides rule.2.refTable (HasColumns rule.2.refColumns)

/-- Each foreign key of each table refers to columns of a table that is there. -/
def ParentsHold (db : Database) : Prop :=
  ∀ entry ∈ db.tables, ∀ rule ∈ entry.2.schema.foreignKeys, db.Provides rule.2.refTable (HasColumns rule.2.refColumns)

theorem ParentsHold.of_tables_eq (h : db.ParentsHold) (htables : db'.tables = db.tables) : db'.ParentsHold := by
  intro entry hentry rule hrule
  rw [htables] at hentry
  exact (h entry hentry rule hrule).of_tables_eq htables

theorem ParentsHold.setTable (h : db.ParentsHold) (hsound : db.Sound) (ht : (key, t) ∈ db.tables)
    (hcolumns : t'.schema.columns = t.schema.columns) (hforeign : t'.schema.foreignKeys = t.schema.foreignKeys) :
    (db.setTable key t').ParentsHold := by
  intro entry hentry rule hrule
  have hold : db.Provides rule.2.refTable (HasColumns rule.2.refColumns) := by
    rcases mem_setTable hsound hentry with rfl | ⟨-, hmem⟩
    · rw [hforeign] at hrule
      exact h _ ht rule hrule
    · exact h entry hmem rule hrule
  exact hold.setTable hsound ht fun _ hall => hall.of_columns_eq hcolumns

theorem ParentsHold.addTable (h : db.ParentsHold) (hsound : db.Sound) {s : Schema} (hs : db.FoundedIn s)
    (hnew : db.hasTable s.name = false) (now : Timestamp) :
    (db.setTable (keyOf s.name) (storedTable s [] now)).ParentsHold := by
  have hnone := table?_eq_none_of_hasTable hnew
  intro entry hentry rule hrule
  rcases mem_setTable hsound hentry with rfl | ⟨-, hmem⟩
  · rcases hs rule hrule with ⟨hown, hall⟩ | hthere
    · exact ⟨storedTable s [] now, by rw [table?_setTable, if_pos hown], hall⟩
    · exact hthere.addTable hnone
  · exact (h entry hmem rule hrule).addTable hnone

theorem ParentsHold.dropTable (h : db.ParentsHold) (hsound : db.Sound) (hfree : db.referrer? key = none) :
    (db.dropTable key).ParentsHold := by
  rintro ⟨childKey, child⟩ hentry rule hrule
  obtain ⟨hne, hmem⟩ := (mem_removeEntry hsound.nodup).1 hentry
  exact (h _ hmem rule hrule).dropTable (referrer?_eq_none hfree hmem hne hrule)

/-- A change that adds only founded tables keeps the tables that are referred to. -/
theorem Transition.parentsHold (hsound : db.Sound) (h : db.ParentsHold) (ht : Transition db now New db')
    (hnew : ∀ s, New s → db.FoundedIn s) : db'.ParentsHold := by
  cases ht with
  | idle => exact h
  | unwritten hsaved => exact h.of_tables_eq (tables_of_persist hsaved)
  | restamped ht hsaved =>
    refine .of_tables_eq ?_ (tables_setTable_congr (tables_of_persist hsaved) _ _)
    exact h.setTable hsound ht rfl rfl
  | added hs hs' hnone hsaved =>
    exact (h.addTable hsound (hnew _ hs') hnone _).of_tables_eq
      (tables_setTable_congr (tables_of_persist hsaved) _ _)
  | unremoved _ => exact h.of_tables_eq rfl
  | removed ht hfree _ => exact (h.dropTable hsound hfree).of_tables_eq rfl
  | rewritten ht hrows hchange hsaved =>
    refine .of_tables_eq ?_ (tables_setTable_congr (tables_of_persist hsaved) _ _)
    exact h.setTable hsound ht rfl rfl
  | indexed ht hrows hindex hsaved =>
    obtain ⟨-, -, columns, -, rfl⟩ := Schema.addIndex_eq_ok.1 hindex
    refine .of_tables_eq ?_ (tables_setTable_congr (tables_of_persist hsaved) _ _)
    exact h.setTable hsound ht rfl rfl

/-- The foreign keys of a table to others. -/
def IsForeign (key : String) (fk : ForeignKey) : Prop :=
  keyOf fk.refTable ≠ key

/-- What holds of a database in a session. -/
structure Linked (db : Database) : Prop where
  sound : db.Sound
  parents : db.ParentsHold
  references : db.ReferencesHold IsForeign

theorem Linked.empty (directory : Option Directory) : (Database.empty directory).Linked :=
  ⟨.empty directory, fun _ h => (List.not_mem_nil h).elim, fun _ h => (List.not_mem_nil h).elim⟩

theorem Linked.of_tables_eq (h : db.Linked) (htables : db'.tables = db.tables) : db'.Linked :=
  ⟨h.sound.of_tables_eq htables, h.parents.of_tables_eq htables, h.references.of_tables_eq htables⟩

/-- Any step keeps the links, if a table that it adds is founded. -/
theorem Linked.after (h : db.Linked) (step : Step) (hnew : ∀ s, step.adds s → db.FoundedIn s) :
    (db.after step).Linked := by
  rcases after_transition h.sound step with ⟨now, ht⟩ | ⟨directory, hafter⟩
  · -- no row is stranded by a reference to another table
    have href := ht.referencesHold h.sound h.references fun key fk hforeign hown => absurd hown hforeign
    exact ⟨ht.sound h.sound, ht.parentsHold h.sound h.parents hnew, href⟩
  · rw [hafter]
    exact h.of_tables_eq rfl

end Database

/-! ## Declared tables are founded -/

namespace Execution

open Database

variable {db : Database} {now : Timestamp} {s s' : Schema}

theorem addColumn_foreignKeys {clause : Sql.ColumnClause} (h : (do s.addColumn (← column clause)) = .ok s') :
    s'.foreignKeys = s.foreignKeys := by
  obtain ⟨c, -, h⟩ := bind_eq_ok.1 h
  obtain ⟨-, rfl⟩ := Schema.addColumn_eq_ok.1 h
  rfl

theorem addPrimaryKey_foreignKeys {columns : List String} (h : addPrimaryKey s columns = .ok s') :
    s'.foreignKeys = s.foreignKeys := by
  unfold addPrimaryKey at h
  split at h
  · cases h
    rfl
  · obtain ⟨key, -, rfl⟩ := Schema.addPrimaryKey_eq_ok.1 h
    rfl

theorem addUnique_foreignKeys {clause : Sql.UniqueClause} (h : addUnique s clause = .ok s') :
    s'.foreignKeys = s.foreignKeys := by
  obtain ⟨-, key, -, rfl⟩ := Schema.addUnique_eq_ok.1 h
  rfl

/-- The table that a reference names is the declared one itself, or one that is there. -/
theorem parent_eq_ok (hsound : db.Sound) {table : String} {target : Schema} (h : parent db s table = .ok target) :
    target = s ∨ ∃ t, t.schema = target ∧ db.table? target.name = some t := by
  unfold parent at h
  split at h
  · cases h
    exact .inl rfl
  · split at h
    · rename_i t ht
      cases h
      refine .inr ⟨t, rfl, ?_⟩
      have hmem := mem_of_table? ht
      rw [hsound.table?_eq_some_iff, hsound.keyOf_name hmem]
      exact hmem
    · simp at h

theorem addReference_foundedIn (hsound : db.Sound) {fk : Sql.Reference} (hs : db.FoundedIn s)
    (h : addReference db s fk = .ok s') : db.FoundedIn s' := by
  obtain ⟨target, name, declared, htarget, hall, -, htable, hcolumns, h⟩ := addReference_eq_ok h
  obtain ⟨-, columns, -, -, rfl⟩ := Schema.addForeignKey_eq_ok.1 h
  intro rule hrule
  rcases List.mem_append.1 hrule with hrule | hrule
  · exact hs rule hrule
  · rw [List.mem_singleton.1 hrule]
    dsimp only
    rw [htable, hcolumns]
    rcases parent_eq_ok hsound htarget with rfl | ⟨t, rfl, ht⟩
    · exact .inl ⟨rfl, hall⟩
    · exact .inr ⟨t, ht, hall⟩

theorem schema_foundedIn (hsound : db.Sound) {statement : Sql.CreateTable} (h : schema db now statement = .ok s) :
    db.FoundedIn s := by
  obtain ⟨s₀, s₁, s₂, s₃, s₄, h₀, h₁, h₂, h₃, h₄, h⟩ := schema_eq_ok h
  obtain ⟨-, h₀⟩ := check_bind_eq_ok.1 h₀
  cases h₀
  -- before the references are declared there is no foreign key
  have hs₁ : s₁.foreignKeys = [] :=
    foldlM_preserves (P := fun s : Schema => s.foreignKeys = []) (fun _ _ _ hs h => (addColumn_foreignKeys h).trans hs)
      rfl h₁
  have hs₂ : s₂.foreignKeys = [] := (addPrimaryKey_foreignKeys h₂).trans hs₁
  have hs₃ : s₃.foreignKeys = [] :=
    foldlM_preserves (P := fun s : Schema => s.foreignKeys = []) (fun _ _ _ hs h => (addUnique_foreignKeys h).trans hs)
      hs₂ h₃
  have hs₄ : db.FoundedIn s₄ := by
    refine foldlM_preserves (fun _ _ _ hs h => addReference_foundedIn hsound hs h) ?_ h₄
    intro rule hrule
    rw [hs₃] at hrule
    cases hrule
  refine foldlM_preserves (fun _ _ _ hs h => ?_) hs₄ h
  obtain ⟨-, -, rfl⟩ := Schema.addCheck_eq_ok.1 h
  exact hs

theorem Edits.linked {db' : Database} (hdb : db.Linked) (h : Edits now db db') : db'.Linked := by
  obtain ⟨step, -, hnone, rfl⟩ := h
  exact hdb.after step fun s hs => absurd hs (hnone s)

theorem Effect.linked {db' : Database} (hdb : db.Linked) (h : Effect now db db') : db'.Linked := by
  cases h with
  | edited hedits =>
    induction hedits with
    | refl => exact hdb
    | tail _ hstep ih => exact hstep.linked ih
  | @added statement s hs =>
    refine hdb.after (.addTable now s (schema_declared hs)) fun added hadded => ?_
    obtain rfl : added = s := hadded
    exact schema_foundedIn hdb.sound hs

end Execution

/-! ## Sessions -/

namespace Session

/-- A text is run at a moment, or the directory becomes another. -/
inductive Event where
  | text (now : Timestamp) (sql : String)
  | disturb (directory : Option Directory)

/-- The session after an event. -/
def handle (session : Session) : Event → Session
  | .text now sql => (session.run now sql).2
  | .disturb directory => { session with database := { session.database with directory := directory } }

/-- The session after events. -/
def handleAll (session : Session) (events : List Event) : Session :=
  events.foldl handle session

theorem run_linked {session : Session} (h : session.database.Linked) (now : Timestamp) (sql : String) :
    (session.run now sql).2.database.Linked :=
  (session.run_effect now sql).linked h

theorem handleAll_linked {session : Session} (h : session.database.Linked) (events : List Event) :
    (session.handleAll events).database.Linked := by
  induction events generalizing session with
  | nil => exact h
  | cons event events ih =>
    apply ih
    cases event with
    | text now sql => exact run_linked h now sql
    | disturb directory => exact h.of_tables_eq rfl

end Session

namespace Database

/-- Each foreign key of a table to another finds that table with the columns referred to, and each row whose cells
in the foreign key are not NULL finds a row there that holds the same cells in those columns. -/
def ForeignReferencesHold (db : Database) : Prop :=
  ∀ entry ∈ db.tables, ∀ rule ∈ entry.2.schema.foreignKeys, keyOf rule.2.refTable ≠ entry.1 →
    ∃ parent, db.table? rule.2.refTable = some parent ∧
      (∀ name ∈ rule.2.refColumns, parent.schema.hasColumn name = true) ∧
      (∀ name ∈ rule.2.columns, entry.2.schema.hasColumn name = true) ∧
      ∀ row ∈ entry.2.rows, (∀ cell ∈ entry.2.schema.cells rule.2.columns row, cell.isNull = false) →
        ∃ other ∈ parent.rows, parent.schema.cells rule.2.refColumns other = entry.2.schema.cells rule.2.columns row

theorem Linked.foreignReferencesHold {db : Database} (h : db.Linked) : db.ForeignReferencesHold := by
  intro entry hentry rule hrule hforeign
  obtain ⟨parent, hparent, hall⟩ := h.parents entry hentry rule hrule
  refine ⟨parent, hparent, hall, ((h.sound.tables _ hentry).wellFormed.foreignKeys rule hrule).1.hasColumn, ?_⟩
  intro row hrow hpresent
  obtain ⟨k, hcells, hnull, hheld⟩ := exists_hasKey h.sound hentry hrow hpresent
  rw [hcells]
  obtain ⟨found, hfound, -, other, hother, heq⟩ := h.references entry hentry rule hrule hforeign k hnull hheld
  rw [hparent] at hfound
  cases hfound
  exact ⟨other, hother, heq⟩

end Database

/-- In a session that starts without tables, whatever texts are run and whatever becomes of the directory, the
references of every table to other tables hold. -/
theorem Session.handleAll_foreignReferencesHold (directory : Option Directory) (events : List Session.Event) :
    ((Session.ofDatabase (.empty directory)).handleAll events).database.ForeignReferencesHold := by
  have hempty : (Session.ofDatabase (.empty directory)).database.Linked := .empty directory
  exact (handleAll_linked hempty events).foreignReferencesHold

end Relational
