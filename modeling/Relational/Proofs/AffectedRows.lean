import Relational.Proofs.Database.Answers
import Relational.Proofs.Database.References
import Relational.Proofs.Plan
import Relational.Session

/-!
# Affected rows

INSERT, UPDATE and DELETE make one step after another, one for each row, until one fails. Each step that is taken
inserts, replaces or removes one row, and one that fails changes none. So the number of rows that a statement has
changed is the number of steps that were taken. A statement that succeeds, or that stops at a row that a rule rejects,
reports this number. A statement that ends with any other failure reports no row, whatever it has changed before.
-/

namespace Relational

open Database (Step keyOf)

/-! ## Steps on rows -/

namespace Database

variable {K : RowInvariant} {db db' : Database} {now : Timestamp} {name : String} {step : Step}

/-- A step that inserts, replaces or removes a row. -/
def Step.OnRow : Step → Prop
  | .insertRow _ _ _ => True
  | .updateRow _ _ _ _ => True
  | .deleteRow _ _ _ => True
  | _ => False

theorem Step.OnRow.reachable (hstep : step.OnRow) (h : db.Reachable) : (db.answer step).2.Reachable := by
  cases step with
  | insertRow now name input => exact h.move (.insertRow now name input)
  | updateRow now name position input => exact h.move (.updateRow now name position input)
  | deleteRow now name position => exact h.move (.deleteRow now name position)
  | _ => exact hstep.elim

/-- A step on a row fails and leaves the tables as they are, or puts the table that was planned. -/
theorem Step.OnRow.outcome (hstep : step.OnRow) (h : db.Consistent K) :
    (∃ failure, (db.answer step).1 = .error failure ∧ (db.answer step).2.tables = db.tables) ∨
      ∃ key t, Planned db step (.put key t none) ∧ (db.answer step).1 = .ok () ∧
        (db.answer step).2.tables = (db.setTable key t).tables := by
  cases h.answered step with
  | refused failure hrefused =>
    have hanswer : db.answer step = (.error failure, db) := hrefused db.directory
    rw [hanswer]
    exact .inl ⟨failure, rfl, rfl⟩
  | disturbed hdisturbed =>
    subst hdisturbed
    exact hstep.elim
  | @made change hplanned hmade =>
    have hanswer : db.answer step = db.make change := hmade db.directory
    rw [hanswer]
    have hput : ∃ key t, change = .put key t none := by
      cases hplanned with
      | added | removed | indexed => exact hstep.elim
      | inserted | updated | deleted => exact ⟨_, _, rfl⟩
    obtain ⟨key, t, rfl⟩ := hput
    simp only [make]
    generalize hsaved : db.persist t.schema t.rows = outcome
    obtain ⟨written, saved⟩ := outcome
    have htables := tables_of_persist hsaved
    cases written with
    | error failure => exact .inl ⟨failure, rfl, htables⟩
    | ok =>
      refine .inr ⟨key, t, hplanned, rfl, ?_⟩
      simp only [Database.setTable, htables]

theorem Step.OnRow.put_of_ok (hstep : step.OnRow) (h : db.Consistent K) (hok : (db.answer step).1 = .ok ()) :
    ∃ key t, Planned db step (.put key t none) ∧ (db.answer step).2.tables = (db.setTable key t).tables := by
  obtain ⟨failure, hfailed, -⟩ | ⟨key, t, hplanned, -, htables⟩ := hstep.outcome h
  · rw [hfailed] at hok
    cases hok
  · exact ⟨key, t, hplanned, htables⟩

theorem Step.OnRow.tables_of_error (hstep : step.OnRow) (h : db.Consistent K) {failure : Failure}
    (hfailed : (db.answer step).1 = .error failure) : (db.answer step).2.tables = db.tables := by
  obtain ⟨-, -, htables⟩ | ⟨key, t, -, hok, -⟩ := hstep.outcome h
  · exact htables
  · rw [hok] at hfailed
    cases hfailed

/-- The rows of one table are changed in some way, and those of the others are not. -/
structure Rewrites (db db' : Database) (name : String)
    (change : List (List Cell) → List (List Cell) → Prop) : Prop where
  here : change (db.rows name) (db'.rows name)
  elsewhere : ∀ other, keyOf other ≠ keyOf name → db'.rows other = db.rows other

theorem rows_of_tables_eq (h : db'.tables = db.tables) (name : String) : db'.rows name = db.rows name := by
  rw [rows, rows, table?_of_tables_eq h]

theorem rows_of_keyOf_eq {other : String} (h : keyOf name = keyOf other) (db : Database) :
    db.rows name = db.rows other := by
  rw [rows, rows, table?, table?, h]

/-- If the tables are the same, so are the rows. -/
theorem Rewrites.idle {change : List (List Cell) → List (List Cell) → Prop} (htables : db'.tables = db.tables)
    (hchange : ∀ rows, change rows rows) : Rewrites db db' name change :=
  ⟨by rw [rows_of_tables_eq htables]; exact hchange _, fun other _ => rows_of_tables_eq htables other⟩

/-- One change after another. -/
theorem Rewrites.comp {between : Database} {P Q R : List (List Cell) → List (List Cell) → Prop}
    (hfirst : Rewrites db between name P) (hsecond : Rewrites between db' name Q)
    (hboth : ∀ rows rows' rows'', P rows rows' → Q rows' rows'' → R rows rows'') : Rewrites db db' name R :=
  ⟨hboth _ _ _ hfirst.here hsecond.here,
    fun other hother => (hsecond.elsewhere other hother).trans (hfirst.elsewhere other hother)⟩

theorem Rewrites.weaken {P Q : List (List Cell) → List (List Cell) → Prop} (h : Rewrites db db' name P)
    (hPQ : ∀ rows rows', P rows rows' → Q rows rows') : Rewrites db db' name Q :=
  ⟨hPQ _ _ h.here, h.elsewhere⟩

/-- The table may be spelled in another case. -/
theorem Rewrites.respelled {other : String} {change : List (List Cell) → List (List Cell) → Prop}
    (h : Rewrites db db' name change) (hkey : keyOf name = keyOf other) : Rewrites db db' other change := by
  refine ⟨?_, fun third hthird => h.elsewhere third (hkey ▸ hthird)⟩
  rw [← rows_of_keyOf_eq hkey, ← rows_of_keyOf_eq hkey]
  exact h.here

theorem rows_of_table? {t : Table} (h : db.table? name = some t) : db.rows name = t.rows := by
  rw [rows, h]
  rfl

theorem rewrites_setTable {t t' : Table} {change : List (List Cell) → List (List Cell) → Prop}
    (ht : db.table? name = some t) (hchange : change t.rows t'.rows)
    (htables : db'.tables = (db.setTable (keyOf name) t').tables) : Rewrites db db' name change := by
  have hrows : ∀ other, db'.rows other = (db.setTable (keyOf name) t').rows other := fun other => by
    rw [rows, rows, table?_of_tables_eq htables]
  constructor
  · rw [hrows, rows_of_table? ht, rows, table?_setTable, if_pos rfl]
    exact hchange
  · intro other hother
    rw [hrows, rows, table?_setTable, if_neg hother, rows]

theorem insertRow_rewrites (h : db.Consistent K) {input : RowInput}
    (hok : (db.answer (.insertRow now name input)).1 = .ok ()) :
    Rewrites db (db.answer (.insertRow now name input)).2 name fun rows rows' => ∃ row, rows' = rows ++ [row] := by
  have hstep : (Step.insertRow now name input).OnRow := trivial
  obtain ⟨key, t, hplanned, htables⟩ := hstep.put_of_ok h hok
  cases hplanned with
  | @inserted _ _ _ old rows row hold hrows _ =>
    refine rewrites_setTable hold ⟨Cell.ofTexts row, ?_⟩ htables
    rw [hrows.rows_eq]
    exact List.map_append

theorem updateRow_rewrites (h : db.Consistent K) {position : Nat} {input : RowInput}
    (hok : (db.answer (.updateRow now name position input)).1 = .ok ()) :
    Rewrites db (db.answer (.updateRow now name position input)).2 name fun rows rows' =>
      position < rows.length ∧ ∃ row, rows' = rows.set position row := by
  generalize hplace : (position : Int) = place at hok ⊢
  have hstep : (Step.updateRow now name place input).OnRow := trivial
  obtain ⟨key, t, hplanned, htables⟩ := hstep.put_of_ok h hok
  cases hplanned with
  | @updated _ _ i _ old rows raw row hold hrows hi _ =>
    obtain rfl : position = i := Int.ofNat.inj hplace
    refine rewrites_setTable hold ⟨?_, Cell.ofTexts row, ?_⟩ htables
    · rw [hrows.rows_eq, List.length_map]
      exact hi
    · rw [hrows.rows_eq]
      exact List.map_set

theorem deleteRow_rewrites (h : db.Consistent K) {position : Nat}
    (hok : (db.answer (.deleteRow now name position)).1 = .ok ()) :
    Rewrites db (db.answer (.deleteRow now name position)).2 name fun rows rows' =>
      position < rows.length ∧ rows' = rows.eraseIdx position := by
  generalize hplace : (position : Int) = place at hok ⊢
  have hstep : (Step.deleteRow now name place).OnRow := trivial
  obtain ⟨key, t, hplanned, htables⟩ := hstep.put_of_ok h hok
  cases hplanned with
  | @deleted _ _ i old rows hold hrows hi =>
    obtain rfl : position = i := Int.ofNat.inj hplace
    refine rewrites_setTable hold ⟨?_, ?_⟩ htables
    · rw [hrows.rows_eq, List.length_map]
      exact hi
    · rw [hrows.rows_eq]
      exact (List.eraseIdx_map _ _ _).symm

end Database

/-! ## Steps of a statement -/

namespace Execution

open Database (Outcome Rewrites)

variable {db : Database} {now : Timestamp} {s : Schema} {attempts : List (Database → Except Failure Step)} {count : Nat}

/-- Makes steps, each worked out on the database as it is then, until one fails. -/
def makeSteps (count : Nat) : List (Database → Except Failure Step) → Database → Outcome Result
  | [], db => (.ok (.changed count), db)
  | attempt :: attempts, db =>
    match attempt db with
    | .error failure => (.error failure, db)
    | .ok step =>
      match db.answer step with
      | (.ok (), db) => makeSteps (count + 1) attempts db
      | (.error (.rejection cause), db) => (.ok (.stopped count cause.message), db)
      | (.error failure, db) => (.error failure, db)

/-- The number of steps that are taken before one fails. -/
def taken : List (Database → Except Failure Step) → Database → Nat
  | [], _ => 0
  | attempt :: attempts, db =>
    match attempt db with
    | .error _ => 0
    | .ok step =>
      match db.answer step with
      | (.ok (), db) => taken attempts db + 1
      | (.error _, _) => 0

/-- The step that inserts a tuple. -/
def insertion (now : Timestamp) (s : Schema) (names : List String) (values : List Expr) (db : Database) :
    Except Failure Step := do
  pure (.insertRow now s.name (.cells (← newRow db now s names values)))

/-- What assignments give to a row. -/
def assigned (now : Timestamp) (s : Schema) (assignments : List (String × Expr)) (cells : List Cell) :
    Except Failure (List (String × String)) := do
  assignedTexts s (s.rowScope now (← Cell.texts cells)) assignments

/-- The step that updates a row. -/
def replacement (now : Timestamp) (s : Schema) (assignments : List (String × Expr)) (row : Nat × List Cell)
    (_ : Database) : Except Failure Step := do
  pure (.updateRow now s.name row.1 (.named (← assigned now s assignments row.2)))

/-- The step that deletes a row. -/
def deletion (now : Timestamp) (s : Schema) (position : Nat) (_ : Database) : Except Failure Step :=
  .ok (.deleteRow now s.name position)

theorem insertTuples_eq (now : Timestamp) (s : Schema) (names : List String) (count : Nat) (tuples : List (List Expr))
    (db : Database) :
    insertTuples now s names count tuples db = makeSteps count (tuples.map (insertion now s names)) db := by
  induction tuples generalizing count db with
  | nil => rfl
  | cons values tuples ih =>
    rw [insertTuples, List.map_cons, makeSteps, insertion]
    cases newRow db now s names values with
    | error failure => rfl
    | ok row =>
      simp only [ok_bind, pure_eq_ok, Database.answer, Outcome.done]
      generalize db.insertRow now s.name (.cells row) = outcome
      obtain ⟨result, db'⟩ := outcome
      cases result with
      | ok i => exact ih (count + 1) db'
      | error failure => cases failure <;> rfl

theorem updateRows_eq (now : Timestamp) (s : Schema) (assignments : List (String × Expr)) (count : Nat)
    (rows : List (Nat × List Cell)) (db : Database) :
    updateRows now s assignments count rows db = makeSteps count (rows.map (replacement now s assignments)) db := by
  induction rows generalizing count db with
  | nil => rfl
  | cons row rows ih =>
    obtain ⟨position, cells⟩ := row
    rw [updateRows, List.map_cons, makeSteps, replacement]
    have hassigned : (Cell.texts cells >>= fun texts => assignedTexts s (s.rowScope now texts) assignments)
        = assigned now s assignments cells := rfl
    simp only [hassigned]
    cases assigned now s assignments cells with
    | error failure => rfl
    | ok texts =>
      simp only [ok_bind, pure_eq_ok, Database.answer, Outcome.done]
      generalize db.updateRow now s.name position (.named texts) = outcome
      obtain ⟨result, db'⟩ := outcome
      cases result with
      | ok i => exact ih (count + 1) db'
      | error failure => cases failure <;> rfl

theorem deleteRows_eq (now : Timestamp) (s : Schema) (count : Nat) (positions : List Nat) (db : Database) :
    deleteRows now s count positions db = makeSteps count (positions.map (deletion now s)) db := by
  induction positions generalizing count db with
  | nil => rfl
  | cons position positions ih =>
    rw [deleteRows, List.map_cons, makeSteps, deletion]
    simp only [Database.answer, Outcome.done]
    generalize db.deleteRow now s.name position = outcome
    obtain ⟨result, db'⟩ := outcome
    cases result with
    | ok i => exact ih (count + 1) db'
    | error failure => cases failure <;> rfl

/-! ## What the steps do -/

/-- If all steps are taken, or one is rejected, the number of steps taken is reported. -/
theorem affectedRows_makeSteps {result : Result} (h : (makeSteps count attempts db).1 = .ok result) :
    result.affectedRows = count + taken attempts db := by
  induction attempts generalizing count db with
  | nil =>
    cases h
    simp [taken, Result.changed]
  | cons attempt attempts ih =>
    rw [makeSteps] at h
    rw [taken]
    cases hattempt : attempt db with
    | error failure =>
      rw [hattempt] at h
      cases h
    | ok step =>
      simp only [hattempt] at h ⊢
      generalize db.answer step = outcome at h ⊢
      obtain ⟨answer, db'⟩ := outcome
      cases answer with
      | ok =>
        rw [ih h]
        push_cast
        omega
      | error failure =>
        cases failure with
        | rejection cause =>
          cases h
          simp [Result.stopped]
        | refusal | fault => cases h

/-- What holds if nothing was done, and is extended by every step that is taken, holds of the steps that are taken. -/
theorem makeSteps_effect {α : Type} {f : α → Database → Except Failure Step}
    {R : List α → Nat → Database → Database → Prop} (hf : ∀ a db step, f a db = .ok step → step.OnRow)
    (hidle : ∀ as db db', db'.tables = db.tables → R as 0 db db')
    (hstep : ∀ a as n db db' step, db.Reachable → f a db = .ok step → (db.answer step).1 = .ok () →
      R as n (db.answer step).2 db' → R (a :: as) (n + 1) db db')
    (as : List α) (count : Nat) (h : db.Reachable) :
    R as (taken (as.map f) db) db (makeSteps count (as.map f) db).2 := by
  induction as generalizing count db with
  | nil => exact hidle [] db db rfl
  | cons a as ih =>
    rw [List.map_cons, makeSteps, taken]
    cases hattempt : f a db with
    | error failure => exact hidle (a :: as) db db rfl
    | ok step =>
      have honRow := hf a db step hattempt
      have hreachable := honRow.reachable h
      have hextends := hstep a as (taken (as.map f) (db.answer step).2) db
        (makeSteps (count + 1) (as.map f) (db.answer step).2).2 step h hattempt
      have hfailed : ∀ failure, (db.answer step).1 = .error failure → (db.answer step).2.tables = db.tables :=
        fun _ => honRow.tables_of_error h.consistent
      dsimp only
      generalize db.answer step = outcome at hreachable hextends hfailed ⊢
      obtain ⟨answer, db'⟩ := outcome
      cases answer with
      | ok => exact hextends rfl (ih (count + 1) hreachable)
      | error failure => cases failure <;> exact hidle (a :: as) db db' (hfailed _ rfl)

/-- Tuples are inserted after the other rows. -/
theorem insertion_rewrites (h : db.Reachable) (now : Timestamp) (s : Schema) (names : List String) (count : Nat)
    (tuples : List (List Expr)) :
    Rewrites db (makeSteps count (tuples.map (insertion now s names)) db).2 s.name fun rows rows' =>
      ∃ new, new.length = taken (tuples.map (insertion now s names)) db ∧ rows' = rows ++ new := by
  refine makeSteps_effect (R := fun _ n db db' => Rewrites db db' s.name fun rows rows' =>
    ∃ new, new.length = n ∧ rows' = rows ++ new) ?onRow ?idle ?step tuples count h
  case onRow =>
    intro values db step hstep
    obtain ⟨row, -, hstep⟩ := bind_eq_ok.1 hstep
    cases hstep
    trivial
  case idle => exact fun _ db db' htables => .idle htables fun rows => ⟨[], rfl, by simp⟩
  case step =>
    intro values tuples n db db' step hreachable hstep hok hrest
    obtain ⟨row, -, hstep⟩ := bind_eq_ok.1 hstep
    cases hstep
    refine (Database.insertRow_rewrites hreachable.consistent hok).comp hrest ?_
    rintro rows _ _ ⟨row, rfl⟩ ⟨new, rfl, rfl⟩
    exact ⟨row :: new, rfl, by simp⟩

/-- Rows at different places are replaced by others. -/
def Replaces (positions : List Nat) (n : Nat) (rows rows' : List (List Cell)) : Prop :=
  ∃ changes : List (Nat × List Cell), changes.length = n ∧ (changes.map Prod.fst).Sublist positions ∧
    (∀ change ∈ changes, change.1 < rows.length) ∧
      rows' = changes.foldl (fun rows change => rows.set change.1 change.2) rows

theorem replacement_rewrites (h : db.Reachable) (now : Timestamp) (s : Schema) (assignments : List (String × Expr))
    (count : Nat) (rows : List (Nat × List Cell)) :
    Rewrites db (makeSteps count (rows.map (replacement now s assignments)) db).2 s.name
      (Replaces (rows.map Prod.fst) (taken (rows.map (replacement now s assignments)) db)) := by
  refine makeSteps_effect (R := fun rows n db db' => Rewrites db db' s.name (Replaces (rows.map Prod.fst) n))
    ?onRow ?idle ?step rows count h
  case onRow =>
    intro row db step hstep
    obtain ⟨texts, -, hstep⟩ := bind_eq_ok.1 hstep
    cases hstep
    trivial
  case idle =>
    exact fun _ db db' htables => .idle htables fun rows => ⟨[], rfl, List.nil_sublist _, by simp, rfl⟩
  case step =>
    intro row rows n db db' step hreachable hstep hok hrest
    obtain ⟨texts, -, hstep⟩ := bind_eq_ok.1 hstep
    cases hstep
    refine (Database.updateRow_rewrites hreachable.consistent hok).comp hrest ?_
    rintro before _ after ⟨hlt, cells, rfl⟩ ⟨changes, rfl, hpositions, hplaces, rfl⟩
    refine ⟨(row.1, cells) :: changes, rfl, hpositions.cons_cons row.1, ?_, rfl⟩
    simpa [hlt] using hplaces

/-- Rows are left out. -/
theorem deletion_rewrites (h : db.Reachable) (now : Timestamp) (s : Schema) (count : Nat) (positions : List Nat) :
    Rewrites db (makeSteps count (positions.map (deletion now s)) db).2 s.name fun rows rows' =>
      rows'.Sublist rows ∧ rows.length = rows'.length + taken (positions.map (deletion now s)) db := by
  refine makeSteps_effect (R := fun _ n db db' => Rewrites db db' s.name fun rows rows' =>
    rows'.Sublist rows ∧ rows.length = rows'.length + n) ?onRow ?idle ?step positions count h
  case onRow =>
    rintro position db step ⟨⟩
    trivial
  case idle => exact fun _ db db' htables => .idle htables fun rows => ⟨.refl rows, rfl⟩
  case step =>
    rintro position positions n db db' step hreachable ⟨⟩ hok hrest
    refine (Database.deleteRow_rewrites hreachable.consistent hok).comp hrest ?_
    rintro rows _ rows'' ⟨hlt, rfl⟩ ⟨hsublist, hlength⟩
    rw [List.length_eraseIdx_of_lt hlt] at hlength
    exact ⟨hsublist.trans (List.eraseIdx_sublist _ _), by omega⟩

/-! ## Statements -/

/-- The rows that UPDATE is to replace, with their positions. -/
def rowsToUpdate (db : Database) (now : Timestamp) (statement : Sql.Update) :
    Except Failure (Schema × List (Nat × List Cell)) := do
  let s ← tableNamed db statement.table
  if let some missing := (statement.assignments.map Prod.fst).find? fun name => !s.hasColumn name then
    refuse (.noColumn missing (some s.name))
  let (rows, positions) ← matchingRows db now s statement.condition
  pure (s, positions.map fun i => (i, rows.getD i []))

/-- The positions of the rows that DELETE is to remove. -/
def rowsToDelete (db : Database) (now : Timestamp) (statement : Sql.Delete) : Except Failure (Schema × List Nat) := do
  let s ← tableNamed db statement.table
  let (_, positions) ← matchingRows db now s statement.condition
  pure (s, positions)

theorem update_eq (db : Database) (now : Timestamp) (statement : Sql.Update) : update db now statement
    = match rowsToUpdate db now statement with
      | .error failure => (.error failure, db)
      | .ok (s, rows) => updateRows now s statement.assignments 0 rows db := rfl

theorem delete_eq (db : Database) (now : Timestamp) (statement : Sql.Delete) : delete db now statement
    = match rowsToDelete db now statement with
      | .error failure => (.error failure, db)
      | .ok (s, positions) => deleteRows now s 0 positions.reverse db := rfl

/-- The steps that a statement is to make on rows, once its table and its rows were found. -/
def rowSteps (db : Database) (now : Timestamp) :
    Sql.Statement → Except Failure (List (Database → Except Failure Step))
  | .insert statement => do
    let s ← tableNamed db statement.table
    pure (statement.values.map (insertion now s (statement.columns.getD s.columnNames)))
  | .update statement => do
    let (s, rows) ← rowsToUpdate db now statement
    pure (rows.map (replacement now s statement.assignments))
  | .delete statement => do
    let (s, positions) ← rowsToDelete db now statement
    pure (positions.reverse.map (deletion now s))
  | _ => .ok []

/-- The number of rows that a statement changes. -/
def changedRows (db : Database) (now : Timestamp) (statement : Sql.Statement) : Nat :=
  match rowSteps db now statement with
  | .ok attempts => taken attempts db
  | .error _ => 0

/-- The table whose rows a statement changes. -/
def changedTable? : Sql.Statement → Option String
  | .insert statement => some statement.table
  | .update statement => some statement.table
  | .delete statement => some statement.table
  | _ => none

/-- INSERT puts `n` rows after the others, UPDATE puts rows in `n` places, DELETE leaves `n` rows out. -/
def Changes (n : Nat) (rows rows' : List (List Cell)) : Sql.Statement → Prop
  | .insert _ => ∃ new, new.length = n ∧ rows' = rows ++ new
  | .update _ => ∃ changes : List (Nat × List Cell), changes.length = n ∧ (changes.map Prod.fst).Nodup ∧
      (∀ change ∈ changes, change.1 < rows.length) ∧
        rows' = changes.foldl (fun rows change => rows.set change.1 change.2) rows
  | .delete _ => rows'.Sublist rows ∧ rows.length = rows'.length + n
  | _ => rows' = rows

theorem Changes.none (rows : List (List Cell)) (statement : Sql.Statement) : Changes 0 rows rows statement := by
  cases statement with
  | insert => exact ⟨[], rfl, by simp⟩
  | update => exact ⟨[], rfl, List.nodup_nil, by simp, rfl⟩
  | delete => exact ⟨.refl rows, rfl⟩
  | _ => rfl

theorem tableNamed_eq_ok {name : String} (h : tableNamed db name = .ok s) :
    ∃ t, db.table? name = some t ∧ t.schema = s := by
  unfold tableNamed at h
  split at h
  · rename_i t ht
    cases h
    exact ⟨t, ht, rfl⟩
  · cases h

theorem keyOf_tableNamed (h : db.Reachable) {name : String} (hs : tableNamed db name = .ok s) :
    keyOf s.name = keyOf name := by
  obtain ⟨t, ht, rfl⟩ := tableNamed_eq_ok hs
  exact h.consistent.keyOf_name (Database.mem_of_table? ht)

theorem table?_name (h : db.Reachable) {name : String} {t : Table} (ht : db.table? name = some t) :
    db.table? t.schema.name = some t := by
  rw [Database.table?, h.consistent.keyOf_name (Database.mem_of_table? ht)]
  exact ht

/-- A clause selects the rows in which its condition is true, in order. -/
theorem matchingRows_eq_ok (h : db.Reachable) {name : String} {t : Table} (ht : db.table? name = some t)
    {clause : Option String} {rows : List (List Cell)} {positions : List Nat}
    (hmatching : matchingRows db now t.schema clause = .ok (rows, positions)) : rows = t.rows ∧
      ∃ condition, clauseCondition clause = .ok condition ∧ positions.Pairwise (· < ·) ∧
        ∀ i, i ∈ positions ↔ i < t.rows.length ∧
          ∀ c ∈ condition, Plan.truth now t.schema t.rows c i = .ok (some true) := by
  have hname := table?_name h ht
  obtain ⟨condition, hcondition, hmatching⟩ := bind_eq_ok.1 hmatching
  obtain ⟨found, hfound, hmatching⟩ := bind_eq_ok.1 hmatching
  cases hmatching
  rw [Database.rows_of_table? hname] at hfound
  exact ⟨Database.rows_of_table? hname, condition, hcondition,
    Plan.matching_eq_ok (h.consistent.fit _ (Database.mem_of_table? ht)) hname hfound⟩

theorem rowsToUpdate_eq_ok {statement : Sql.Update} {rows : List (Nat × List Cell)}
    (hfound : rowsToUpdate db now statement = .ok (s, rows)) : tableNamed db statement.table = .ok s ∧
      ∃ cells positions, matchingRows db now s statement.condition = .ok (cells, positions) ∧
        rows = positions.map fun i => (i, cells.getD i []) := by
  unfold rowsToUpdate at hfound
  obtain ⟨named, hs, hfound⟩ := bind_eq_ok.1 hfound
  split at hfound
  · cases hfound
  · obtain ⟨⟨cells, positions⟩, hmatched, hfound⟩ := bind_eq_ok.1 hfound
    cases hfound
    exact ⟨hs, cells, positions, hmatched, rfl⟩

/-- No row is updated twice. -/
theorem nodup_rowsToUpdate (h : db.Reachable) {statement : Sql.Update} {rows : List (Nat × List Cell)}
    (hfound : rowsToUpdate db now statement = .ok (s, rows)) : (rows.map Prod.fst).Nodup := by
  obtain ⟨hs, cells, positions, hmatched, rfl⟩ := rowsToUpdate_eq_ok hfound
  obtain ⟨t, ht, rfl⟩ := tableNamed_eq_ok hs
  obtain ⟨-, condition, -, hascending, -⟩ := matchingRows_eq_ok h ht hmatched
  rw [List.map_map]
  exact (List.map_id positions).symm ▸ hascending.imp fun hlt => Nat.ne_of_lt hlt

theorem rowsToDelete_eq_ok {statement : Sql.Delete} {positions : List Nat}
    (hfound : rowsToDelete db now statement = .ok (s, positions)) : tableNamed db statement.table = .ok s := by
  unfold rowsToDelete at hfound
  obtain ⟨named, hs, hfound⟩ := bind_eq_ok.1 hfound
  obtain ⟨matched, -, hfound⟩ := bind_eq_ok.1 hfound
  cases hfound
  exact hs

/-- The steps that a statement makes change as many rows as are taken. -/
theorem makeSteps_rewrites (h : db.Reachable) {statement : Sql.Statement} {name : String}
    (hname : changedTable? statement = some name) (hsteps : rowSteps db now statement = .ok attempts) :
    Rewrites db (makeSteps 0 attempts db).2 name fun rows rows' =>
      Changes (taken attempts db) rows rows' statement := by
  cases statement with
  | insert statement =>
    cases hname
    obtain ⟨s, hs, hsteps⟩ := bind_eq_ok.1 hsteps
    cases hsteps
    exact (insertion_rewrites h now s _ 0 statement.values).respelled (keyOf_tableNamed h hs)
  | update statement =>
    cases hname
    obtain ⟨⟨s, rows⟩, hfound, hsteps⟩ := bind_eq_ok.1 hsteps
    cases hsteps
    have hs := (rowsToUpdate_eq_ok hfound).1
    have hnodup := nodup_rowsToUpdate h hfound
    refine Rewrites.weaken ((replacement_rewrites h now s statement.assignments 0 rows).respelled
      (keyOf_tableNamed h hs)) ?_
    rintro before after ⟨changes, hlength, hpositions, hplaces, hafter⟩
    exact ⟨changes, hlength, hpositions.nodup hnodup, hplaces, hafter⟩
  | delete statement =>
    cases hname
    obtain ⟨⟨s, positions⟩, hfound, hsteps⟩ := bind_eq_ok.1 hsteps
    cases hsteps
    exact (deletion_rewrites h now s 0 positions.reverse).respelled
      (keyOf_tableNamed h (rowsToDelete_eq_ok hfound))
  | _ => cases hname

end Execution

namespace Session

open Execution

variable {session : Session} {now : Timestamp} {statement : Sql.Statement} {name : String}

theorem execute_eq (hname : changedTable? statement = some name) (session : Session) (now : Timestamp) :
    session.execute now statement = session.after (match rowSteps session.database now statement with
      | .error failure => (.error failure, session.database)
      | .ok attempts => makeSteps 0 attempts session.database) := by
  cases statement with
  | insert statement =>
    have hinsert : session.execute now (.insert statement)
        = session.after (Execution.insert session.database now statement) := rfl
    rw [hinsert, Execution.insert, rowSteps]
    cases tableNamed session.database statement.table with
    | error failure => rfl
    | ok s => simp only [insertTuples_eq, ok_bind, pure_eq_ok]
  | update statement =>
    have hupdate : session.execute now (.update statement)
        = session.after (Execution.update session.database now statement) := rfl
    rw [hupdate, update_eq, rowSteps]
    cases rowsToUpdate session.database now statement with
    | error failure => rfl
    | ok found => simp only [updateRows_eq, ok_bind, pure_eq_ok]
  | delete statement =>
    have hdelete : session.execute now (.delete statement)
        = session.after (Execution.delete session.database now statement) := rfl
    rw [hdelete, delete_eq, rowSteps]
    cases rowsToDelete session.database now statement with
    | error failure => rfl
    | ok found => simp only [deleteRows_eq, ok_bind, pure_eq_ok]
  | _ => cases hname

theorem affectedRows_reported_error (failure : Failure) : (reported (.error failure)).affectedRows = 0 := by
  cases failure <;> rfl

/-- INSERT, UPDATE and DELETE report the number of rows that they have changed, unless they end with a failure other
than a rejection after they have changed some. -/
theorem affectedRows_eq_iff (h : session.database.Reachable) (now : Timestamp)
    (hname : changedTable? statement = some name) :
    Database.Rewrites session.database (session.execute now statement).2.database name
        (fun rows rows' => Changes (changedRows session.database now statement) rows rows' statement) ∧
      ((reported (session.execute now statement).1).affectedRows = changedRows session.database now statement ↔
        ∀ failure, (session.execute now statement).1 = .error failure →
          changedRows session.database now statement = 0) := by
  rw [execute_eq hname]
  unfold changedRows
  cases hsteps : rowSteps session.database now statement with
  | error failure =>
    refine ⟨.idle rfl fun rows => .none rows statement, ?_⟩
    simp [after, affectedRows_reported_error]
  | ok attempts =>
    refine ⟨makeSteps_rewrites h hname hsteps, ?_⟩
    simp only [after]
    cases hmade : (makeSteps 0 attempts session.database).1 with
    | ok result => simp [reported, affectedRows_makeSteps hmade]
    | error failure =>
      simp only [affectedRows_reported_error, Except.error.injEq, forall_eq']
      omega

/-! ## Labels that are inserted -/

namespace Label

/-- A session on the database with one label. -/
def one : Session :=
  ofDatabase Database.Label.database

/-- Two labels are inserted, of which the second has no number. -/
def numberless : Sql.Statement :=
  .insert ⟨"label", none, [[.literal (.number "8"), .literal (.string "y")], [.literal .null, .literal (.string "z")]]⟩

/-- Two labels are inserted, of which the second has no kind. -/
def uneven : Sql.Statement :=
  .insert ⟨"label", none, [[.literal (.number "8"), .literal (.string "y")], [.literal (.number "9")]]⟩

end Label

/-- The second label is rejected, and the first one is counted. -/
theorem label_insert_counted :
    (reported (Label.one.execute Database.Label.moment Label.numberless).1).affectedRows = 1 := by
  have hreachable : Label.one.database.Reachable := Database.Label.reachable
  have htable : changedTable? Label.numberless = some "label" := rfl
  have hok : (Label.one.execute Database.Label.moment Label.numberless).1.isOk := by decide +kernel
  have hchanged : changedRows Label.one.database Database.Label.moment Label.numberless = 1 := by decide +kernel
  have hcount := (affectedRows_eq_iff hreachable Database.Label.moment htable).2.2 fun failure hfailure => by
    rw [hfailure] at hok
    cases hok
  exact hcount.trans (congrArg Nat.cast hchanged)

/-- The second label has too few values, and the first one, which was inserted, is not counted. -/
theorem label_insert_uncounted : Label.one.database.Reachable ∧
    (reported (Label.one.execute Database.Label.moment Label.uneven).1).affectedRows = 0 ∧
    (Label.one.execute Database.Label.moment Label.uneven).2.database.rows "label"
      = Label.one.database.rows "label" ++ [[.text "8", .text "y"]] :=
  ⟨Database.Label.reachable, by decide +kernel, by decide +kernel⟩

end Session

end Relational
