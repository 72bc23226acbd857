import Mathlib.Logic.Relation
import Relational.Proofs.Database.Run
import Relational.Session

/-!
# What statements do

A statement adds one table, or it asks one step after another of the tables that are there, all at the moment at
which it runs. No statement does both.
-/

namespace Relational

namespace Execution

open Database (Step)
open Relation (ReflTransGen)

/-! ## The table that a statement declares -/

variable {db : Database} {now : Timestamp}

theorem schema_eq_ok {statement : Sql.CreateTable} {s : Schema} (h : schema db now statement = .ok s) :
    ∃ s₀ s₁ s₂ s₃ s₄, Schema.create statement.table "" false now = .ok s₀ ∧
      statement.columns.foldlM (fun s clause => do s.addColumn (← column clause)) s₀ = .ok s₁ ∧
      addPrimaryKey s₁ statement.primaryKey = .ok s₂ ∧ statement.uniques.foldlM addUnique s₂ = .ok s₃ ∧
      (references statement).foldlM (addReference db) s₃ = .ok s₄ ∧
      (statement.checks.zipIdx 1).foldlM addCheck s₄ = .ok s := by
  obtain ⟨s₀, h₀, h⟩ := bind_eq_ok.1 h
  obtain ⟨s₁, h₁, h⟩ := bind_eq_ok.1 h
  obtain ⟨s₂, h₂, h⟩ := bind_eq_ok.1 h
  obtain ⟨s₃, h₃, h⟩ := bind_eq_ok.1 h
  obtain ⟨s₄, h₄, h⟩ := bind_eq_ok.1 h
  exact ⟨s₀, s₁, s₂, s₃, s₄, h₀, h₁, h₂, h₃, h₄, h⟩

/-- The parameters of its type change nothing else of a column. -/
theorem withParameters_eq_ok {params : List String} {c c' : Column} (h : withParameters params c = .ok c') :
    c' = { c with
      maxLength := c'.maxLength
      precision := c'.precision
      scale := c'.scale
      choices := c'.choices } := by
  unfold withParameters at h
  split at h
  · obtain ⟨_, _, h⟩ := bind_eq_ok.1 h
    cases h
    rfl
  · split at h
    · obtain ⟨_, _, h⟩ := bind_eq_ok.1 h
      obtain ⟨_, _, h⟩ := bind_eq_ok.1 h
      cases h
      rfl
    · split at h <;> (cases h; rfl)

theorem column_declared {clause : Sql.ColumnClause} {c : Column} (h : column clause = .ok c) :
    ∃ raw : Column, raw.declare = .ok c := by
  obtain ⟨_, _, h⟩ := bind_eq_ok.1 h
  obtain ⟨raw, _, h⟩ := bind_eq_ok.1 h
  exact ⟨raw, (check_bind_eq_ok.1 h).2⟩

theorem addColumn_declared {s s' : Schema} (hs : s.Declared) {clause : Sql.ColumnClause}
    (h : (do s.addColumn (← column clause)) = .ok s') : s'.Declared := by
  obtain ⟨c, hc, h⟩ := bind_eq_ok.1 h
  obtain ⟨raw, hraw⟩ := column_declared hc
  exact hs.addColumn hraw h

/-- A reference is added if the table that it names has the columns it names. -/
theorem addReference_iff {s s' : Schema} {fk : Sql.Reference} : addReference db s fk = .ok s' ↔
    ∃ target onDelete onUpdate, parent db s fk.refTable = .ok target ∧
      (∀ column ∈ fk.refColumns, target.hasColumn column = true) ∧ CascadeAction.read fk.onDelete = .ok onDelete ∧
      CascadeAction.read fk.onUpdate = .ok onUpdate ∧
      s.addForeignKey (fk.name.getD (nameOver "fk" s.name fk.columns))
        ⟨fk.columns, target.name, fk.refColumns, onDelete, onUpdate⟩ = .ok s' := by
  have hcolumns : ∀ target : Schema, (fk.refColumns.find? fun name => !target.hasColumn name) = none ↔
      ∀ column ∈ fk.refColumns, target.hasColumn column = true := by
    intro target
    simp
  unfold addReference
  rw [bind_eq_ok]
  constructor
  · rintro ⟨target, htarget, h⟩
    split at h
    · simp at h
    · rename_i hmissing
      obtain ⟨onDelete, hdelete, h⟩ := bind_eq_ok.1 h
      obtain ⟨onUpdate, hupdate, h⟩ := bind_eq_ok.1 h
      exact ⟨target, onDelete, onUpdate, htarget,
        (hcolumns target).1 (Option.eq_none_iff_forall_ne_some.2 hmissing), hdelete, hupdate, h⟩
  · rintro ⟨target, onDelete, onUpdate, htarget, hpresent, hdelete, hupdate, h⟩
    refine ⟨target, htarget, ?_⟩
    rw [(hcolumns target).2 hpresent, hdelete, hupdate]
    exact h

/-- A reference is declared with the name and the columns of the table that it names. -/
theorem addReference_eq_ok {s s' : Schema} {fk : Sql.Reference} (h : addReference db s fk = .ok s') :
    ∃ target name declared, parent db s fk.refTable = .ok target ∧
      (∀ column ∈ fk.refColumns, target.hasColumn column = true) ∧ declared.columns = fk.columns ∧
      declared.refTable = target.name ∧ declared.refColumns = fk.refColumns ∧ s.addForeignKey name declared = .ok s' := by
  obtain ⟨target, onDelete, onUpdate, htarget, hcolumns, -, -, h⟩ := addReference_iff.1 h
  exact ⟨target, _, _, htarget, hcolumns, rfl, rfl, rfl, h⟩

/-- What holds of a table without columns, and is kept by each declaration, holds of the table that a statement
declares. -/
theorem schema_preserves {P : Schema → Prop} {statement : Sql.CreateTable} {s : Schema}
    (hcreate : ∀ s, Schema.create statement.table "" false now = .ok s → P s)
    (hcolumn : ∀ s clause c s', column clause = .ok c → s.addColumn c = .ok s' → P s → P s')
    (hkey : ∀ s columns s', s.addPrimaryKey columns = .ok s' → P s → P s')
    (hunique : ∀ s name columns s', s.addUnique name columns = .ok s' → P s → P s')
    (hforeign : ∀ s name fk s', s.addForeignKey name fk = .ok s' → P s → P s')
    (hcheck : ∀ s name condition s', s.addCheck name condition = .ok s' → P s → P s')
    (h : schema db now statement = .ok s) : P s := by
  obtain ⟨s₀, s₁, s₂, s₃, s₄, h₀, h₁, h₂, h₃, h₄, h⟩ := schema_eq_ok h
  have hs₁ : P s₁ := by
    refine foldlM_preserves (P := P) ?_ (hcreate s₀ h₀) h₁
    intro s clause s' hs hadd
    obtain ⟨c, hc, hadd⟩ := bind_eq_ok.1 hadd
    exact hcolumn s clause c s' hc hadd hs
  have hs₂ : P s₂ := by
    unfold addPrimaryKey at h₂
    split at h₂
    · cases h₂
      exact hs₁
    · exact hkey s₁ _ s₂ h₂ hs₁
  have hs₃ : P s₃ := foldlM_preserves (P := P) (fun s _ s' hs hadd => hunique s _ _ s' hadd hs) hs₂ h₃
  have hs₄ : P s₄ := by
    refine foldlM_preserves (P := P) ?_ hs₃ h₄
    intro s reference s' hs hadd
    obtain ⟨target, name, declared, -, -, -, -, -, hadd⟩ := addReference_eq_ok hadd
    exact hforeign s name declared s' hadd hs
  exact foldlM_preserves (P := P) (fun s _ s' hs hadd => hcheck s _ _ s' hadd hs) hs₄ h

/-- What a statement declares is a declared table. -/
theorem schema_declared {statement : Sql.CreateTable} {s : Schema} (h : schema db now statement = .ok s) :
    s.Declared := by
  apply schema_preserves (P := Schema.Declared) (h := h)
  case hcreate => exact fun s hcreate => .create hcreate
  case hcolumn =>
    intro s clause c s' hc hadd hs
    obtain ⟨raw, hraw⟩ := column_declared hc
    exact hs.addColumn hraw hadd
  case hkey => exact fun s columns s' hadd hs => hs.addPrimaryKey hadd
  case hunique => exact fun s name columns s' hadd hs => hs.addUnique hadd
  case hforeign => exact fun s name fk s' hadd hs => hs.addForeignKey hadd
  case hcheck => exact fun s name condition s' hadd hs => hs.addCheck hadd

/-- It has the name that the statement gives it. -/
theorem schema_name {statement : Sql.CreateTable} {s : Schema} (h : schema db now statement = .ok s) :
    s.name = statement.table := by
  apply schema_preserves (P := fun s => s.name = statement.table) (h := h)
  case hcreate =>
    intro s hcreate
    obtain ⟨-, hcreate⟩ := check_bind_eq_ok.1 hcreate
    cases hcreate
    rfl
  case hcolumn =>
    intro s clause c s' _ hadd hs
    obtain ⟨-, rfl⟩ := Schema.addColumn_eq_ok.1 hadd
    exact hs
  case hkey =>
    intro s columns s' hadd hs
    obtain ⟨key, -, rfl⟩ := Schema.addPrimaryKey_eq_ok.1 hadd
    exact hs
  case hunique =>
    intro s name columns s' hadd hs
    obtain ⟨-, key, -, rfl⟩ := Schema.addUnique_eq_ok.1 hadd
    exact hs
  case hforeign =>
    intro s name fk s' hadd hs
    obtain ⟨-, columns, -, -, rfl⟩ := Schema.addForeignKey_eq_ok.1 hadd
    exact hs
  case hcheck =>
    intro s name condition s' hadd hs
    obtain ⟨-, -, rfl⟩ := Schema.addCheck_eq_ok.1 hadd
    exact hs

/-! ## Steps of statements -/

/-- One database comes from another by a step at a moment that adds no table. -/
def Edits (now : Timestamp) (db db' : Database) : Prop :=
  ∃ step : Step, step.MadeAt now ∧ (∀ s, ¬ step.adds s) ∧ db' = db.after step

/-- What a statement makes of a database at a moment. -/
inductive Effect (now : Timestamp) (db : Database) : Database → Prop where
  | edited {db' : Database} (hedits : ReflTransGen (Edits now) db db') : Effect now db db'
  | added {statement : Sql.CreateTable} {s : Schema} (hs : schema db now statement = .ok s) :
      Effect now db (db.addTable now s).2

theorem Effect.idle : Effect now db db :=
  .edited .refl

/-- CREATE TABLE changes nothing, or it adds the table it declares. -/
theorem createTable_effect (statement : Sql.CreateTable) : Effect now db (createTable db now statement).2 := by
  unfold createTable
  split
  · split <;> exact .idle
  · split
    · rename_i s hs
      exact .added hs
    · exact .idle

theorem dropTable_effect (table : String) (ifExists : Bool) : Effect now db (dropTable db table ifExists).2 := by
  unfold dropTable
  split
  · exact .edited (.single ⟨.removeTable table, trivial, fun _ => id, rfl⟩)
  · split <;> exact .idle

theorem createIndex_effect (statement : Sql.CreateIndex) : Effect now db (createIndex db now statement).2 := by
  unfold createIndex
  split
  · exact .edited (.single ⟨.createIndex now _ _ _ _, rfl, fun _ => id, rfl⟩)
  · exact .idle

theorem insertTuples_edits (s : Schema) (names : List String) (count : Nat) (tuples : List (List Expr)) :
    ReflTransGen (Edits now) db (insertTuples now s names count tuples db).2 := by
  induction tuples generalizing count db with
  | nil => exact .refl
  | cons values tuples ih =>
    rw [insertTuples]
    split
    · exact .refl
    · rename_i row _
      have hstep : Edits now db (db.insertRow now s.name (.cells row)).2 := ⟨.insertRow now _ _, rfl, fun _ => id, rfl⟩
      split
      · rename_i i after hinserted
        rw [hinserted] at hstep
        exact .head hstep (ih (count + 1))
      · rename_i cause after hinserted
        rw [hinserted] at hstep
        exact .single hstep
      · rename_i failure after _ hinserted
        rw [hinserted] at hstep
        exact .single hstep

theorem insert_effect (statement : Sql.Insert) : Effect now db (insert db now statement).2 := by
  unfold insert
  split
  · exact .idle
  · exact .edited <| insertTuples_edits _ _ _ _

theorem updateRows_edits (s : Schema) (assignments : List (String × Expr)) (count : Nat)
    (rows : List (Nat × List Cell)) : ReflTransGen (Edits now) db (updateRows now s assignments count rows db).2 := by
  induction rows generalizing count db with
  | nil => exact .refl
  | cons row rows ih =>
    obtain ⟨position, cells⟩ := row
    rw [updateRows]
    split
    · exact .refl
    · rename_i texts _
      have hstep : Edits now db (db.updateRow now s.name position (.named texts)).2 :=
        ⟨.updateRow now _ _ _, rfl, fun _ => id, rfl⟩
      split
      · rename_i i after hupdated
        rw [hupdated] at hstep
        exact .head hstep (ih (count + 1))
      · rename_i cause after hupdated
        rw [hupdated] at hstep
        exact .single hstep
      · rename_i failure after _ hupdated
        rw [hupdated] at hstep
        exact .single hstep

theorem update_effect (statement : Sql.Update) : Effect now db (update db now statement).2 := by
  unfold update
  dsimp only
  split
  · exact .idle
  · exact .edited <| updateRows_edits _ _ _ _

theorem deleteRows_edits (s : Schema) (count : Nat) (positions : List Nat) :
    ReflTransGen (Edits now) db (deleteRows now s count positions db).2 := by
  induction positions generalizing count db with
  | nil => exact .refl
  | cons position positions ih =>
    rw [deleteRows]
    have hstep : Edits now db (db.deleteRow now s.name position).2 := ⟨.deleteRow now _ _, rfl, fun _ => id, rfl⟩
    split
    · rename_i i after hdeleted
      rw [hdeleted] at hstep
      exact .head hstep (ih (count + 1))
    · rename_i cause after hdeleted
      rw [hdeleted] at hstep
      exact .single hstep
    · rename_i failure after _ hdeleted
      rw [hdeleted] at hstep
      exact .single hstep

theorem delete_effect (statement : Sql.Delete) : Effect now db (delete db now statement).2 := by
  unfold delete
  dsimp only
  split
  · exact .idle
  · exact .edited <| deleteRows_edits _ _ _

end Execution

namespace Session

open Execution (Effect)

theorem execute_effect (session : Session) (now : Timestamp) (statement : Sql.Statement) :
    Effect now session.database (session.execute now statement).2.database := by
  cases statement with
  | createTable statement => exact Execution.createTable_effect statement
  | dropTable table ifExists => exact Execution.dropTable_effect table ifExists
  | createIndex statement => exact Execution.createIndex_effect statement
  | insert statement => exact Execution.insert_effect statement
  | update statement => exact Execution.update_effect statement
  | delete statement => exact Execution.delete_effect statement
  | select statement => exact .idle
  | alterTable => exact .idle
  | begin =>
    simp only [execute, begin]
    split <;> exact .idle
  | commit =>
    simp only [execute, commit]
    split <;> exact .idle
  | rollback => exact .idle

/-- A text has the effect of a statement, or none if it is no statement. -/
theorem run_effect (session : Session) (now : Timestamp) (sql : String) :
    Effect now session.database (session.run now sql).2.database := by
  unfold run
  split
  · rename_i statement _
    exact session.execute_effect now statement
  · exact .idle
  · exact .idle

end Session

end Relational
