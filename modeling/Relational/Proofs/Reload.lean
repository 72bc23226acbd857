import Relational.Proofs.Database.Reload
import Relational.Proofs.Execution
import Relational.Proofs.Schema.Built

/-!
# Databases built again after a session

A session that starts in an empty directory keeps all of its tables there: a database that is built on the directory
has the same ones, whatever texts were run and whatever of them failed. The one thing that breaks this is a table whose
name ends in `_schema`.
-/

namespace Relational

open Storage (Misnamed)
open Relation (ReflTransGen)

/-! ## Declared tables have the usual entries -/

namespace Execution

variable {db db' : Database} {now : Timestamp} {s s' : Schema}

theorem column_written {clause : Sql.ColumnClause} {c : Column} (h : column clause = .ok c) : c.written = [] := by
  obtain ⟨_, _, h⟩ := bind_eq_ok.1 h
  obtain ⟨raw, hraw, h⟩ := bind_eq_ok.1 h
  obtain ⟨-, rfl⟩ := Column.declare_eq_ok.1 (check_bind_eq_ok.1 h).2
  rw [withParameters_eq_ok hraw]

theorem schema_usual (hnow : now.Valid) {statement : Sql.CreateTable} (h : schema db now statement = .ok s) :
    s.Usual := by
  apply schema_preserves (P := Schema.Usual) (h := h)
  case hcreate => exact fun s hcreate => Schema.create_usual hnow hcreate
  case hcolumn => exact fun s clause c s' hc hadd hs => hs.addColumn (column_written hc) hadd
  case hkey => exact fun s columns s' hadd hs => hs.addPrimaryKey hadd
  case hunique => exact fun s name columns s' hadd hs => hs.addUnique hadd
  case hforeign => exact fun s name fk s' hadd hs => hs.addForeignKey hadd
  case hcheck => exact fun s name condition s' hadd hs => hs.addCheck hadd

/-! ## Statements -/

theorem Edits.stored (h : db.Stored) (hnow : now.Valid) (hedits : Edits now db db') : db'.Stored := by
  obtain ⟨step, hmade, hnone, rfl⟩ := hedits
  exact (hmade.transition h.sound).stored h hnow fun s hs => absurd hs (hnone s)

/-- A statement is written down, or it adds a misnamed table, and the directory makes no database any more. -/
theorem Effect.stored_or (h : db.Stored) (hnow : now.Valid) (heffect : Effect now db db') :
    db'.Stored ∨ ¬ db'.Reloads ∧ ∃ entry ∈ db'.tables, Misnamed entry.2.schema.name := by
  cases heffect with
  | edited hedits =>
    refine .inl ?_
    induction hedits with
    | refl => exact h
    | tail _ hstep ih => exact hstep.stored ih hnow
  | @added statement s hs =>
    have hdeclared := schema_declared hs
    have hmade : (Database.Step.addTable now s hdeclared).MadeAt now := rfl
    by_cases hmisnamed : Misnamed s.name
    · cases hnew : db.hasTable s.name with
      | true =>
        rw [Database.addTable, if_pos hnew]
        exact .inl h
      | false => exact .inr (h.misnamed hdeclared hnew hmisnamed)
    · refine .inl ((hmade.transition h.sound).stored h hnow fun added hadded => ?_)
      obtain rfl : added = s := hadded
      exact ⟨schema_usual hnow hs, hmisnamed⟩

end Execution

/-! ## Sessions -/

/-- A moment of the calendar, as a clock shows it. -/
structure Moment where
  time : Timestamp
  valid : time.Valid

namespace Session

/-- The session after texts that were run one after another, each at a moment. -/
def runAll (session : Session) (texts : List (Moment × String)) : Session :=
  texts.foldl (fun session text => (session.run text.1.time text.2).2) session

theorem run_stored_or {session : Session} (h : session.database.Stored) (text : Moment × String) :
    (session.run text.1.time text.2).2.database.Stored ∨
      ¬ (session.run text.1.time text.2).2.database.Reloads ∧
        ∃ entry ∈ (session.run text.1.time text.2).2.database.tables, Misnamed entry.2.schema.name :=
  (session.run_effect text.1.time text.2).stored_or h text.1.valid

/-- As long as no text leads to a misnamed table, every state is written down. -/
theorem runAll_stored {session : Session} (h : session.database.Stored) (texts : List (Moment × String))
    (hnever : ∀ n, ¬ (¬ (session.runAll (texts.take n)).database.Reloads ∧
      ∃ entry ∈ (session.runAll (texts.take n)).database.tables, Misnamed entry.2.schema.name)) (n : Nat) :
    (session.runAll (texts.take n)).database.Stored := by
  refine Database.forall_foldl_take (P := fun session : Session => session.database.Stored) h ?_ n
  intro n text ih hnext
  have hn := hnever (n + 1)
  rw [runAll, hnext] at hn
  exact (run_stored_or ih text).resolve_right hn

/-- Along a session that starts in an empty directory, a database that is built on the directory has the same tables in
all states, exactly if in no state there is a table whose name ends in `_schema`. -/
theorem runAll_reloads_iff (path : String) (texts : List (Moment × String)) :
    (∀ n, ((ofDatabase (.empty (some (.empty path)))).runAll (texts.take n)).database.Reloads) ↔
      ∀ n, ∀ entry ∈ ((ofDatabase (.empty (some (.empty path)))).runAll (texts.take n)).database.tables,
        ¬ Misnamed entry.2.schema.name := by
  have hempty : (ofDatabase (.empty (some (.empty path)))).database.Stored := .empty path
  constructor
  · intro h n
    exact (runAll_stored hempty texts (fun n hn => hn.1 (h n)) n).named
  · intro h n
    refine (runAll_stored hempty texts (fun n hn => ?_) n).reloads
    obtain ⟨entry, hentry, hmisnamed⟩ := hn.2
    exact h n entry hentry hmisnamed

end Session

/-! ## A table that is lost -/

/-- A moment at which a text is run. -/
def leapDay : Moment where
  time := ⟨⟨2024, 2, 29⟩, ⟨12, 34, 56⟩⟩
  valid := ⟨by decide, by decide, by decide, by decide, by decide, by decide⟩

/-- A table with a name that is accepted, and with which the directory makes no database any more. -/
theorem Session.misnamed_table_lost :
    ((Session.ofDatabase (.empty (some (.empty "data")))).run leapDay.time "CREATE TABLE t_schema (id INT)").1
        = .ok (.done "Table 't_schema' created") ∧
      ¬ ((Session.ofDatabase (.empty (some (.empty "data")))).run leapDay.time
        "CREATE TABLE t_schema (id INT)").2.database.Reloads := by
  refine ⟨by decide +kernel, ?_⟩
  have hempty : (Session.ofDatabase (.empty (some (.empty "data")))).database.Stored := .empty "data"
  have hmisnamed : ∃ entry ∈ ((Session.ofDatabase (.empty (some (.empty "data")))).run leapDay.time
      "CREATE TABLE t_schema (id INT)").2.database.tables, Misnamed entry.2.schema.name := by decide +kernel
  rcases run_stored_or hempty (leapDay, "CREATE TABLE t_schema (id INT)") with hstored | ⟨hlost, -⟩
  · obtain ⟨entry, hentry, hname⟩ := hmisnamed
    exact absurd hname (hstored.named entry hentry)
  · exact hlost

end Relational
