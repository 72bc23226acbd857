import Relational.Proofs.Query
import Relational.Proofs.SmallNames
import Relational.Proofs.Update

/-!
# Statements that differ in case

A statement on rows does the same if it is written in another case. The case of a keyword is left aside when the text is
cut into tokens, that of a name wherever a table or a column is looked up; string literals are kept as they are. So two
statements that differ in case find the same rows and make the same changes one after the other. What they say may
differ: a query names its columns as it was asked for them, and a refusal speaks of the name that was written.
-/

namespace Relational

open Text
open Database (Step Outcome)

/-- Results that agree but for their texts. -/
structure Result.Alike (result result' : Result) : Prop where
  success : result.success = result'.success
  affectedRows : result.affectedRows = result'.affectedRows
  rows : result.rows = result'.rows

theorem Result.Alike.refl (result : Result) : result.Alike result :=
  ⟨rfl, rfl, rfl⟩

/-! ## Steps -/

namespace Database

variable {db : Database} {now : Timestamp} {name : String} {s : Schema} {entries entries' : List (String × String)}

/-- Entries for one column with the same text. -/
structure EntriesAlike (entry entry' : String × String) : Prop where
  column : entry.1.toLower = entry'.1.toLower
  text : entry.2 = entry'.2

theorem assignCells_agree (h : List.Forall₂ EntriesAlike entries entries') (row : List Cell) :
    ResultsAgree Failure.SameKind (· = ·) (assignCells s entries row) (assignCells s entries' row) := by
  induction h generalizing row with
  | nil => exact .done rfl
  | @cons entry entry' _ _ hentry _ ih =>
    obtain ⟨column, text⟩ := entry
    obtain ⟨column', text'⟩ := entry'
    obtain ⟨hcolumn, rfl⟩ := hentry
    rw [assignCells, assignCells, ← s.position?_toLower column, hcolumn, s.position?_toLower column']
    split
    · exact ih _
    · exact .failed .rejection

/-- Steps that every database answers alike. -/
def Step.Alike (step step' : Step) : Prop :=
  ∀ db : Database, ResultsAgree Failure.SameKind (· = ·) (db.answer step).1 (db.answer step').1 ∧
    (db.answer step).2 = (db.answer step').2

theorem Step.Alike.refl (step : Step) : step.Alike step :=
  fun _ => ⟨.same _, rfl⟩

theorem Step.Alike.updateRow (h : List.Forall₂ EntriesAlike entries entries') (now : Timestamp) (name : String)
    (position : Int) :
    (Step.updateRow now name position (.named entries)).Alike (.updateRow now name position (.named entries')) := by
  intro db
  have hraw : ∀ s row, ResultsAgree Failure.SameKind (· = ·) (RowInput.onRow s row (.named entries))
      (RowInput.onRow s row (.named entries')) := by
    intro s row
    apply (assignCells_agree h row).bind
    rintro cells _ rfl
    exact .same _
  have hchecked : ResultsAgree Failure.SameKind (· = ·) (db.replacement now name position (.named entries))
      (db.replacement now name position (.named entries')) := by
    apply (ResultsAgree.same (db.table name)).bind
    rintro t _ rfl
    apply (ResultsAgree.same (rowAt t position)).bind
    rintro ⟨content, i, old⟩ _ rfl
    apply (hraw t.schema old).bind
    rintro raw _ rfl
    exact .same _
  have hself : db.answer = (db.upon db.directory).answer := rfl
  rw [hself]
  generalize hfound : db.replacement now name position (.named entries) = found at hchecked
  generalize hfound' : db.replacement now name position (.named entries') = found' at hchecked
  cases hchecked with
  | failed hkind =>
    rw [updateRow_refused hfound, updateRow_refused hfound']
    exact ⟨.failed hkind, rfl⟩
  | @done found _ heq =>
    rw [← heq] at hfound'
    rw [answer, answer, updateRow_upon, updateRow_upon, hfound, hfound']
    exact ⟨.same _, rfl⟩

end Database

/-! ## Steps of statements -/

namespace Execution

open Sql (ClausesAlike smallAssignment)

variable {db : Database} {now : Timestamp} {s : Schema} {scope : Scope}

/-- Two ways to work out a step come to steps that are alike, or to none, on each database. -/
def AttemptsAlike (attempt attempt' : Database → Except Failure Step) : Prop :=
  ∀ db, ResultsAgree (fun _ _ => True) Step.Alike (attempt db) (attempt' db)

/-- Steps that are alike are taken alike: as many of them, with the same database in the end. -/
theorem makeSteps_agree {attempts attempts' : List (Database → Except Failure Step)}
    (h : List.Forall₂ AttemptsAlike attempts attempts') (count : Nat) (db : Database) :
    ResultsAgree (fun _ _ => True) Result.Alike (makeSteps count attempts db).1 (makeSteps count attempts' db).1 ∧
      (makeSteps count attempts db).2 = (makeSteps count attempts' db).2 := by
  induction h generalizing count db with
  | nil => exact ⟨.done (.refl _), rfl⟩
  | @cons attempt attempt' _ _ hattempt _ ih =>
    rw [makeSteps, makeSteps]
    have hsteps := hattempt db
    generalize attempt db = found at hsteps
    generalize attempt' db = found' at hsteps
    cases hsteps with
    | failed _ => exact ⟨.failed trivial, rfl⟩
    | @done step step' hstep =>
      obtain ⟨hresult, hdatabase⟩ := hstep db
      dsimp only
      generalize db.answer step = outcome at hresult hdatabase
      generalize db.answer step' = outcome' at hresult hdatabase
      obtain ⟨result, db₁⟩ := outcome
      obtain ⟨result', db₂⟩ := outcome'
      obtain rfl : db₁ = db₂ := hdatabase
      cases hresult with
      | done _ => exact ih (count + 1) db₁
      | failed hkind =>
        cases hkind with
        | rejection => exact ⟨.done ⟨rfl, rfl, rfl⟩, rfl⟩
        | refusal => exact ⟨.failed trivial, rfl⟩
        | fault => exact ⟨.failed trivial, rfl⟩

/-! ### Rows of a clause -/

theorem clauseCondition_agree {clause clause' : Option String} (h : Option.Rel ClausesAlike clause clause') :
    ResultsAgree (fun _ _ => True) (fun c? c'? => c?.map Condition.small = c'?.map Condition.small)
      (clauseCondition clause) (clauseCondition clause') := by
  cases h with
  | none => exact .done rfl
  | @some text text' h =>
    rw [clauseCondition, clauseCondition, h.isEmpty]
    split
    · exact .done rfl
    · exact h.compile.map fun c c' hc => congrArg some hc

theorem matchingRows_agree {clause clause' : Option String} (h : Option.Rel ClausesAlike clause clause') :
    SameResult (matchingRows db now s clause) (matchingRows db now s clause') := by
  apply (clauseCondition_agree h).bind
  intro c? c'? hc
  exact (SameResult.of_normalForm Plan.matching_small hc).bind fun positions => .refl _

/-! ### What is worked out -/

theorem insertion_agree {names names' : List String} {values values' : List Expr}
    (hnames : names.map String.toLower = names'.map String.toLower)
    (hvalues : values.map Expr.small = values'.map Expr.small) :
    AttemptsAlike (insertion now s names values) (insertion now s names' values') := by
  intro db
  have hrow : SameResult (newRow db now s names values) (newRow db now s names' values') := by
    have hsmall : SameResult (newRow db now s (names.map String.toLower) (values.map Expr.small))
      (newRow db now s names values) := newRow_small names values
    rw [hnames, hvalues] at hsmall
    exact hsmall.symm.trans (newRow_small names' values')
  exact hrow.andThen fun row => .done (.refl _)

theorem assignedText_agree (hscope : scope.Caseless) {assignment assignment' : String × Expr}
    (h : smallAssignment assignment = smallAssignment assignment') :
    ResultsAgree (fun _ _ => True) Database.EntriesAlike (assignedText s scope assignment)
      (assignedText s scope assignment') := by
  obtain ⟨hcolumn, hvalue⟩ := Prod.mk.inj h
  rw [assignedText, assignedText, ← s.column?_toLower assignment.1, hcolumn, s.column?_toLower]
  split
  · rename_i column _
    exact (SameResult.of_normalForm (expressionText_small hscope column) hvalue).andThen fun text => .done ⟨hcolumn, rfl⟩
  · exact .failed trivial

theorem Distinct.recased {assignments assignments' : List (String × Expr)} (hdistinct : Distinct assignments)
    (h : assignments.map smallAssignment = assignments'.map smallAssignment) : Distinct assignments' := by
  have hlower : ∀ assignments : List (String × Expr), (assignments.map fun assignment => lower assignment.1) =
      (assignments.map smallAssignment).map fun assignment => lower assignment.1 := by
    intro assignments
    rw [List.map_map]
    exact List.map_congr_left fun assignment _ => (lower_toLower assignment.1).symm
  rw [Distinct, hlower, ← h, ← hlower]
  exact hdistinct

theorem assigned_agree {assignments assignments' : List (String × Expr)} (hdistinct : Distinct assignments)
    (h : assignments.map smallAssignment = assignments'.map smallAssignment) (cells : List Cell) :
    ResultsAgree (fun _ _ => True) (List.Forall₂ Database.EntriesAlike) (assigned now s assignments cells)
      (assigned now s assignments' cells) := by
  apply (SameResult.refl (Cell.texts cells)).andThen
  intro texts
  rw [assignedTexts_eq hdistinct, assignedTexts_eq (hdistinct.recased h)]
  apply ResultsAgree.mapM
  exact (Sql.map_eq_iff_forall₂.1 h).imp fun _ _ => assignedText_agree (Scope.caseless_ofValues _ _)

theorem replacement_agree {assignments assignments' : List (String × Expr)} (hdistinct : Distinct assignments)
    (h : assignments.map smallAssignment = assignments'.map smallAssignment) (row : Nat × List Cell) :
    AttemptsAlike (replacement now s assignments row) (replacement now s assignments' row) := by
  intro db
  apply (assigned_agree hdistinct h row.2).bind
  intro entries entries' hentries
  exact .done (.updateRow hentries now s.name row.1)

/-! ### Whole statements -/

theorem tableNamed_agree {name name' : String} (h : name.toLower = name'.toLower) :
    SameResult (tableNamed db name) (tableNamed db name') :=
  .of_normalForm tableNamed_toLower h

theorem rowsToUpdate_agree {statement statement' : Sql.Update} (h : statement.Alike statement') :
    SameResult (rowsToUpdate db now statement) (rowsToUpdate db now statement') := by
  apply (tableNamed_agree h.table).bind
  intro s
  have hnames : (statement.assignments.map Prod.fst).map String.toLower =
      (statement'.assignments.map Prod.fst).map String.toLower := by
    have hfst := congrArg (List.map Prod.fst) h.assignments
    rw [List.map_map, List.map_map] at hfst ⊢
    exact hfst
  -- a column that is not there is missed on both sides
  have hmissing := s.find?_missing_toLower (statement.assignments.map Prod.fst)
  rw [hnames, s.find?_missing_toLower] at hmissing
  generalize (statement.assignments.map Prod.fst).find? _ = missing? at hmissing ⊢
  generalize (statement'.assignments.map Prod.fst).find? _ = missing?' at hmissing ⊢
  cases missing? with
  | some missing =>
    cases missing?' with
    | some missing' => exact .failed _ _
    | none => cases hmissing
  | none =>
    cases missing?' with
    | some missing' => cases hmissing
    | none => exact (matchingRows_agree h.condition).bind fun _ => .refl _

theorem rowsToDelete_agree {statement statement' : Sql.Delete} (h : statement.Alike statement') :
    SameResult (rowsToDelete db now statement) (rowsToDelete db now statement') :=
  (tableNamed_agree h.table).bind fun _ => (matchingRows_agree h.condition).bind fun _ => .refl _

theorem rowSteps_agree {statement statement' : Sql.Statement} (h : statement.Alike statement')
    (hdistinct : ∀ update, statement = .update update → Distinct update.assignments) (db : Database) (now : Timestamp) :
    ResultsAgree (fun _ _ => True) (List.Forall₂ AttemptsAlike) (rowSteps db now statement)
      (rowSteps db now statement') := by
  cases h with
  | select _ => exact .done .nil
  | @insert statement statement' h =>
    apply (tableNamed_agree h.table).andThen
    intro s
    have hnames : (statement.columns.getD s.columnNames).map String.toLower =
        (statement'.columns.getD s.columnNames).map String.toLower := by
      rw [← Option.getD_map (List.map String.toLower), h.columns, Option.getD_map]
    apply ResultsAgree.done
    rw [List.forall₂_map_left_iff, List.forall₂_map_right_iff]
    exact (Sql.map_eq_iff_forall₂.1 h.values).imp fun _ _ => insertion_agree hnames
  | @update statement statement' h =>
    apply (rowsToUpdate_agree h).andThen
    rintro ⟨s, rows⟩
    apply ResultsAgree.done
    rw [List.forall₂_map_left_iff, List.forall₂_map_right_iff, List.forall₂_same]
    exact fun row _ => replacement_agree (hdistinct statement rfl) h.assignments row
  | @delete statement statement' h =>
    apply (rowsToDelete_agree h).andThen
    rintro ⟨s, positions⟩
    apply ResultsAgree.done
    rw [List.forall₂_map_left_iff, List.forall₂_map_right_iff, List.forall₂_same]
    exact fun position _ db => .done (.refl _)

theorem sortRows_agree {keys keys' : List Sql.OrderKey} (h : keys.map Sql.OrderKey.small = keys'.map Sql.OrderKey.small)
    (rows : List (List Cell)) : SameResult (sortRows s keys rows) (sortRows s keys' rows) := by
  have hsmall := sortRows_small (s := s) keys rows
  rw [h] at hsmall
  exact hsmall.symm.trans (sortRows_small keys' rows)

theorem project_agree {selection selection' : Sql.Selection} (h : selection.small = selection'.small) (row : List Cell) :
    project (.text "") s.columnNames row (shownColumns s selection) =
      project (.text "") s.columnNames row (shownColumns s selection') := by
  cases selection with
  | all =>
    cases selection' with
    | all => rfl
    | columns names' => cases h
  | columns names =>
    cases selection' with
    | all => cases h
    | columns names' =>
      have hnames : names.map String.toLower = names'.map String.toLower := Sql.Selection.columns.inj h
      rw [shownColumns, shownColumns, ← project_map_toLower, hnames, project_map_toLower]

theorem select_agree {statement statement' : Sql.Select} (h : statement.Alike statement') :
    ResultsAgree (fun _ _ => True) Result.Alike (select db now statement) (select db now statement') := by
  have hjoin : ∀ statement : Sql.Select, (statement.join.any fun text => !text.isEmpty) =
      (statement.join.map String.isEmpty).any not := by
    intro statement
    rw [Option.any_map]
  rw [select, select, hjoin, hjoin, h.join]
  split
  · exact .failed trivial
  · apply (tableNamed_agree h.table).andThen
    intro s
    apply (matchingRows_agree h.condition).andThen
    rintro ⟨rows, positions⟩
    have horder : (statement.order.getD "").toLower = (statement'.order.getD "").toLower := by
      rw [← Option.getD_map String.toLower, h.order, Option.getD_map]
    have hkeys : (Sql.orderKeys (statement.order.getD "")).map Sql.OrderKey.small =
        (Sql.orderKeys (statement'.order.getD "")).map Sql.OrderKey.small := by
      rw [← Sql.orderKeys_toLower, horder, Sql.orderKeys_toLower]
    apply (sortRows_agree hkeys _).andThen
    intro sorted
    rw [h.limit]
    refine .done ⟨rfl, ?_, List.map_congr_left fun row _ => project_agree h.selection row⟩
    simp [Result.found]

end Execution

/-! ## Sessions -/

namespace Session

open Execution

variable {statement statement' : Sql.Statement}

theorem reported_agree {outcome outcome' : Except Failure Result}
    (h : ResultsAgree (fun _ _ => True) Result.Alike outcome outcome') :
    (reported outcome).Alike (reported outcome') := by
  have hfailed : ∀ failure, ∃ text, reported (.error failure) = .failed text := by
    intro failure
    cases failure with
    | refusal cause => exact ⟨_, rfl⟩
    | rejection cause => exact ⟨_, rfl⟩
    | fault cause => exact ⟨_, rfl⟩
  cases h with
  | done h => exact h
  | @failed failure failure' _ =>
    obtain ⟨text, htext⟩ := hfailed failure
    obtain ⟨text', htext'⟩ := hfailed failure'
    rw [htext, htext']
    exact ⟨rfl, rfl, rfl⟩

/-- Statements that change rows make their steps alike. -/
theorem execute_changing_agree (h : statement.Alike statement')
    (hdistinct : ∀ update, statement = .update update → Distinct update.assignments) {name name' : String}
    (hname : changedTable? statement = some name) (hname' : changedTable? statement' = some name') (session : Session)
    (now : Timestamp) :
    ResultsAgree (fun _ _ => True) Result.Alike (session.execute now statement).1 (session.execute now statement').1 ∧
      (session.execute now statement).2 = (session.execute now statement').2 := by
  have hsteps := rowSteps_agree h hdistinct session.database now
  rw [execute_eq hname, execute_eq hname']
  generalize rowSteps session.database now statement = found at hsteps
  generalize rowSteps session.database now statement' = found' at hsteps
  cases hsteps with
  | failed _ => exact ⟨.failed trivial, rfl⟩
  | done hattempts =>
    obtain ⟨hresult, hdatabase⟩ := makeSteps_agree hattempts 0 session.database
    refine ⟨hresult, ?_⟩
    simp only [after, hdatabase]

theorem execute_agree (h : statement.Alike statement')
    (hdistinct : ∀ update, statement = .update update → Distinct update.assignments) (session : Session)
    (now : Timestamp) :
    ResultsAgree (fun _ _ => True) Result.Alike (session.execute now statement).1 (session.execute now statement').1 ∧
      (session.execute now statement).2 = (session.execute now statement').2 := by
  cases h with
  | select h => exact ⟨select_agree h, rfl⟩
  | insert h => exact execute_changing_agree (.insert h) hdistinct rfl rfl session now
  | update h => exact execute_changing_agree (.update h) hdistinct rfl rfl session now
  | delete h => exact execute_changing_agree (.delete h) hdistinct rfl rfl session now

/-- A statement on rows does the same if the case of its keywords and names is another: it fails or succeeds in both
spellings, reports as many rows, finds the same ones, and leaves the same database. Only an UPDATE that assigns to one
column twice may depend on how the column is spelled. -/
theorem run_recased (session : Session) (now : Timestamp) {sql sql' : String} (h : Sql.SameButCase sql sql')
    (hrows : Sql.OnRows sql)
    (hdistinct : ∀ update, Sql.parse sql = .ok (.update update) → Distinct update.assignments) :
    ResultsAgree Failure.SameKind Result.Alike (session.run now sql).1 (session.run now sql').1 ∧
      (session.run now sql).2 = (session.run now sql').2 := by
  have hparsed := h.parse hrows
  unfold run
  generalize Sql.parse sql = parsed at hparsed hdistinct
  generalize Sql.parse sql' = parsed' at hparsed
  cases hparsed with
  | @done statement statement' halike =>
    obtain ⟨hresult, hsession⟩ := execute_agree halike
      (fun update heq => hdistinct update (congrArg _ heq)) session now
    exact ⟨.done (reported_agree hresult), hsession⟩
  | failed hkind =>
    cases hkind with
    | refusal => exact ⟨.done ⟨rfl, rfl, rfl⟩, rfl⟩
    | rejection => exact ⟨.done ⟨rfl, rfl, rfl⟩, rfl⟩
    | fault => exact ⟨.failed .fault, rfl⟩

/-! ## Labels that are renumbered -/

namespace Label

/-- The labels of one kind get other numbers and another kind. -/
def renumbering : String :=
  "update label set number = number + 10, kind = 'Box' where upper(kind) = 'X'"

/-- The same in other letters. -/
def shouting : String :=
  "UPDATE Label SET NUMBER = Number + 10, KIND = 'Box' WHERE Upper(KIND) = 'X'"

/-- The columns that an UPDATE assigns to. -/
def assignedColumns : Sql.Statement → List String
  | .update statement => statement.assignments.map Prod.fst
  | _ => []

theorem sameButCase : Sql.SameButCase renumbering shouting where
  letters := toLower_eq_iff_map.2 (by decide +kernel)
  literals := by decide +kernel

end Label

/-- Both spellings change the same two labels. -/
theorem label_renumbered : ∃ result, (Label.series.run Database.Label.moment Label.shouting).1 = .ok result ∧
    result.affectedRows = 2 ∧ (Label.series.run Database.Label.moment Label.renumbering).2 =
      (Label.series.run Database.Label.moment Label.shouting).2 := by
  have hrows : Sql.OnRows Label.renumbering := ⟨.UPDATE, by decide, by decide +kernel⟩
  have hcolumns : (Sql.parse Label.renumbering).map Label.assignedColumns = .ok ["number", "kind"] := by decide +kernel
  have hdistinct : ∀ update, Sql.parse Label.renumbering = .ok (.update update) → Distinct update.assignments := by
    intro update hparse
    rw [hparse] at hcolumns
    have hnames : update.assignments.map Prod.fst = ["number", "kind"] := Except.ok.inj hcolumns
    have hlower : (update.assignments.map fun assignment => lower assignment.1) =
        (update.assignments.map Prod.fst).map lower := by
      rw [List.map_map]
      rfl
    rw [Distinct, hlower, hnames]
    decide
  have hchanged : (Label.series.run Database.Label.moment Label.renumbering).1 = .ok (.changed 2) := by decide +kernel
  obtain ⟨hresult, hsession⟩ := run_recased Label.series Database.Label.moment Label.sameButCase hrows
    hdistinct
  rw [hchanged] at hresult
  generalize (Label.series.run Database.Label.moment Label.shouting).1 = outcome at hresult ⊢
  cases hresult with
  | @done _ result halike => exact ⟨result, rfl, halike.affectedRows.symm, hsession⟩

end Session

end Relational
