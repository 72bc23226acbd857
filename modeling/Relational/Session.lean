import Relational.Execution.Declaration
import Relational.Execution.Query

/-!
# Sessions

A session runs statements on a database, one after the other. Every statement is written as soon as it runs, so
a transaction is no more than an open or closed state: there is nothing to commit and nothing that could be
rolled back. Whatever goes wrong in a statement becomes a failed result.
-/

namespace Relational

/-- A database, and whether a transaction is open. -/
structure Session where
  database : Database
  inTransaction : Bool
  deriving Repr, DecidableEq

namespace Session

open Database (Outcome)

/-- A session on a database. -/
def ofDatabase (db : Database) : Session :=
  ⟨db, false⟩

/-! ## Transactions -/

/-- Opens a transaction, unless one is open. -/
def begin (session : Session) : Except Failure Result × Session :=
  if session.inTransaction then (refuse (.transaction .open), session)
  else (.ok (.done "Transaction started"), { session with inTransaction := true })

/-- Closes the open transaction. -/
def commit (session : Session) : Except Failure Result × Session :=
  if session.inTransaction then (.ok (.done "Transaction committed"), { session with inTransaction := false })
  else (refuse (.transaction .closed), session)

/-- Closes the open transaction and refuses to undo it. -/
def rollback (session : Session) : Except Failure Result × Session :=
  (refuse (.transaction (if session.inTransaction then .rollback else .closed)),
    { session with inTransaction := false })

/-! ## Statements -/

/-- The session with the database after a change. -/
def after (session : Session) (outcome : Outcome Result) : Except Failure Result × Session :=
  (outcome.1, { session with database := outcome.2 })

/-- Runs a statement. -/
def execute (session : Session) (now : Timestamp) (statement : Sql.Statement) : Except Failure Result × Session :=
  let db := session.database
  match statement with
  | .createTable statement => session.after (Execution.createTable db now statement)
  | .dropTable table ifExists => session.after (Execution.dropTable db table ifExists)
  | .createIndex statement => session.after (Execution.createIndex db now statement)
  | .insert statement => session.after (Execution.insert db now statement)
  | .update statement => session.after (Execution.update db now statement)
  | .delete statement => session.after (Execution.delete db now statement)
  | .select statement => (Execution.select db now statement, session)
  | .alterTable _ _ _ _ => (refuse (.unsupported .alterTable), session)
  | .begin => session.begin
  | .commit => session.commit
  | .rollback => session.rollback

/-- The result that reports a failure. -/
def reported : Except Failure Result → Result
  | .ok result => result
  | .error (.fault cause) => .failed ("Internal error: " ++ cause.message)
  | .error failure => .failed failure.message

/-- Runs the statement in a text. A text that is no statement gives a failed result; only a fault on reading it
is passed on. -/
def run (session : Session) (now : Timestamp) (sql : String) : Except Failure Result × Session :=
  match Sql.parse sql with
  | .ok statement =>
    let (outcome, session) := session.execute now statement
    (.ok (reported outcome), session)
  | .error (.fault cause) => (fail cause, session)
  | .error failure => (.ok (.failed failure.message), session)

end Session

end Relational
