import Relational.Proofs.Agreement
import Relational.Proofs.Numbering
import Relational.Proofs.Schema.Nulls

/-!
# Spellings of NULL in INSERT

A text that means NULL is inserted like NULL. Only a column that counts on by itself tells them apart: it is numbered
for the word NULL in any case, but not for a text with blanks or without the word.
-/

namespace Relational

open Text
open Database (Step)
open Schema (plainNull plainNull_plainNull)

/-- An expression stands for another: it is the same, or a text that means NULL in the place of NULL. -/
inductive Respelled : Expr → Expr → Prop where
  | same (e : Expr) : Respelled e e
  | null {text : String} (h : isNullText text = true) : Respelled (.literal .null) (.literal (.string text))

/-- Cells that are given for columns, each with a spelling. -/
abbrev CellsRespelled : List (String × Expr) → List (String × Expr) → Prop :=
  List.Forall₂ fun cell cell' => cell.1 = cell'.1 ∧ Respelled cell.2 cell'.2

/-- Rows that differ in the spelling of NULL. -/
def SamePlain (row row' : List String) : Prop :=
  row.map plainNull = row'.map plainNull

theorem samePlain_iff {row row' : List String} :
    SamePlain row row' ↔ List.Forall₂ (fun text text' => plainNull text = plainNull text') row row' := by
  rw [SamePlain, ← List.forall₂_eq_eq_eq, List.forall₂_map_left_iff, List.forall₂_map_right_iff]

theorem SamePlain.length_eq {row row' : List String} (h : SamePlain row row') : row.length = row'.length := by
  simpa using congrArg List.length h

theorem SamePlain.set {row row' : List String} {text text' : String} (h : SamePlain row row') (i : Nat)
    (htext : plainNull text = plainNull text') : SamePlain (row.set i text) (row'.set i text') := by
  rw [SamePlain, List.map_set, List.map_set, h, htext]

theorem cellsRespelled_zip (names : List String) {values values' : List Expr}
    (h : List.Forall₂ Respelled values values') : CellsRespelled (names.zip values) (names.zip values') := by
  induction h generalizing names with
  | nil => simp
  | cons hhead _ ih =>
    cases names with
    | nil => exact .nil
    | cons name names => exact .cons ⟨rfl, hhead⟩ (ih names)

namespace Execution

variable {db : Database} {now : Timestamp} {s : Schema} {scope : Scope} {column : Column} {names : List String}
  {values values' : List Expr} {cells cells' : List (String × Expr)} {row row' filled filled' : List String} {i : Nat}

/-! ## The texts of a tuple -/

theorem expressionText_respelled {e e' : Expr} (h : Respelled e e') (scope : Scope) (column : Column) :
    ResultsAgree (· = ·) (fun text text' => plainNull text = plainNull text') (expressionText scope column e)
      (expressionText scope column e') := by
  cases h with
  | same => exact (ResultsAgree.of_eq (fun _ => rfl) rfl).mono fun _ _ => congrArg plainNull
  | null hnull => exact .done ((Schema.plainNull_of_null isNullText_nullText).trans (Schema.plainNull_of_null hnull).symm)

theorem fillCells_respelled (hcells : CellsRespelled cells cells') (hrow : SamePlain row row') :
    ResultsAgree (· = ·) SamePlain (fillCells s scope cells row) (fillCells s scope cells' row') := by
  induction hcells generalizing row row' with
  | nil => exact .done hrow
  | @cons cell cell' _ _ hcell _ ih =>
    obtain ⟨name, e⟩ := cell
    obtain ⟨name', e'⟩ := cell'
    obtain ⟨rfl, he⟩ := hcell
    rw [fillCells, fillCells]
    cases s.position? name with
    | none => exact .failed rfl
    | some i =>
      cases s.column? name with
      | none => exact .failed rfl
      | some column =>
        exact (expressionText_respelled he scope column).bind fun text text' htext => ih (hrow.set i htext)

/-! ## The row of a tuple -/

/-- Every column that counts on by itself is numbered as before: where NULL is respelled for it, the text is the word
NULL in some case. -/
def CountsKept (s : Schema) (names : List String) (values values' : List Expr) : Prop :=
  ∀ column ∈ s.columns, column.autoIncrement = true → ∀ text,
    givenFor column.name (names.zip values) = some (.literal .null) →
    givenFor column.name (names.zip values') = some (.literal (.string text)) → upper text = nullText

theorem givenFor_respelled (name : String) (h : CellsRespelled cells cells') :
    (givenFor name cells = none ∧ givenFor name cells' = none) ∨
      ∃ e e', givenFor name cells = some e ∧ givenFor name cells' = some e' ∧ Respelled e e' := by
  induction h with
  | nil => exact .inl ⟨rfl, rfl⟩
  | cons hcell _ ih =>
    obtain ⟨hname, hexpr⟩ := hcell
    rw [givenFor_cons, givenFor_cons, ← hname]
    rcases ih with ⟨hnone, hnone'⟩ | ⟨e, e', he, he', hrest⟩
    · rw [hnone, hnone', Option.none_or, Option.none_or]
      split
      · exact .inr ⟨_, _, rfl, rfl, hexpr⟩
      · exact .inl ⟨rfl, rfl⟩
    · exact .inr ⟨e, e', by rw [he, Option.some_or], by rw [he', Option.some_or], hrest⟩

theorem numberCell_respelled {text text' : String} (hplain : plainNull text = plainNull text')
    (hcounted : column.autoIncrement = true → (upper text = nullText ↔ upper text' = nullText)) :
    ResultsAgree (· = ·) (fun a b => plainNull a = plainNull b) (numberCell db s column text)
      (numberCell db s column text') := by
  unfold numberCell
  cases hcounts : column.autoIncrement with
  | false => exact .done hplain
  | true =>
    rw [Bool.true_and, Bool.true_and]
    by_cases hnull : upper text = nullText
    · have hnull' := (hcounted hcounts).1 hnull
      rw [if_pos (by simp [hnull]), if_pos (by simp [hnull'])]
      exact (ResultsAgree.of_eq (fun _ => rfl) rfl).mono fun _ _ => congrArg plainNull
    · have hnull' : upper text' ≠ nullText := fun h => hnull ((hcounted hcounts).2 h)
      rw [if_neg (by simp [hnull]), if_neg (by simp [hnull'])]
      exact .done hplain

/-- A cell of a column that counts is numbered in both tuples or in neither. -/
theorem counted_fillCells (hs : s.ColumnsDiffer) (hcells : CellsRespelled (names.zip values) (names.zip values'))
    (hkept : CountsKept s names values values') (hcolumn : s.columns[i]? = some column) (hi : i < row.length)
    (hcounts : column.autoIncrement = true) (h : fillCells s scope (names.zip values) row = .ok filled)
    (h' : fillCells s scope (names.zip values') row = .ok filled') {text text' : String}
    (htext : filled[i]? = some text) (htext' : filled'[i]? = some text') :
    upper text = nullText ↔ upper text' = nullText := by
  have hcell := getElem?_fillCells hs hcolumn hi h
  have hcell' := getElem?_fillCells hs hcolumn hi h'
  rcases givenFor_respelled column.name hcells with ⟨hnone, hnone'⟩ | ⟨e, e', he, he', hrespelled⟩
  · simp only [hnone, hnone', true_and, reduceCtorEq, false_and, exists_false, or_false] at hcell hcell'
    rw [hcell, ← hcell', htext', Option.some.injEq] at htext
    rw [htext]
  · simp only [he, he', reduceCtorEq, false_and, false_or, Option.some.injEq] at hcell hcell'
    obtain ⟨_, given, rfl, hgiven, hfilled⟩ := hcell
    obtain ⟨_, given', rfl, hgiven', hfilled'⟩ := hcell'
    obtain rfl : given = text := Option.some.inj (hfilled.symm.trans htext)
    obtain rfl : given' = text' := Option.some.inj (hfilled'.symm.trans htext')
    cases hrespelled with
    | same =>
      rw [hgiven, Except.ok.injEq] at hgiven'
      rw [hgiven']
    | null hnull =>
      cases hgiven
      cases hgiven'
      have hword := hkept column (List.mem_of_getElem? hcolumn) hcounts _ he he'
      exact iff_of_true (by decide +kernel) hword

theorem newRow_respelled (db : Database) (now : Timestamp) (hs : s.ColumnsDiffer)
    (hvalues : List.Forall₂ Respelled values values') (hkept : CountsKept s names values values') :
    ResultsAgree (· = ·) SamePlain (newRow db now s names values) (newRow db now s names values') := by
  have hcells := cellsRespelled_zip names hvalues
  have hagree : ResultsAgree (· = ·) SamePlain
      (fillCells s (.empty now) (names.zip values) (s.columns.map (Column.defaultText now)))
      (fillCells s (.empty now) (names.zip values') (s.columns.map (Column.defaultText now))) :=
    fillCells_respelled hcells rfl
  unfold newRow
  rw [← hvalues.length_eq]
  split
  · exact .failed rfl
  · refine hagree.with_eq.bind fun filled filled' hboth => ?_
    obtain ⟨hfilled, hfilled', hplain⟩ := hboth
    have hwidth : (s.columns.map (Column.defaultText now)).length = s.columns.length := List.length_map _
    refine (ResultsAgree.mapM ?_).mono fun row row' => samePlain_iff.2
    refine List.forall₂_iff_get.2 ⟨by rw [List.length_zip, List.length_zip, hplain.length_eq], fun i hi hi' => ?_⟩
    rw [List.get_eq_getElem, List.get_eq_getElem, List.getElem_zip, List.getElem_zip]
    have hcolumn : i < s.columns.length := (List.lt_length_left_of_zip hi)
    have hcell : i < filled.length := (List.lt_length_right_of_zip hi)
    have hcell' : i < filled'.length := (List.lt_length_right_of_zip hi')
    refine numberCell_respelled ((samePlain_iff.1 hplain).get hcell hcell') fun hcounts => ?_
    exact counted_fillCells hs hcells hkept (List.getElem?_eq_getElem hcolumn) (hwidth ▸ hcolumn) hcounts hfilled
      hfilled' (List.getElem?_eq_getElem hcell) (List.getElem?_eq_getElem hcell')

/-! ## Tuple by tuple -/

/-- Rows that differ in the spelling of NULL are inserted with the same answer. -/
theorem answer_samePlain (h : db.Reachable) (now : Timestamp) (name : String) (hrow : SamePlain row row') :
    db.answer (.insertRow now name (.cells row)) = db.answer (.insertRow now name (.cells row')) := by
  have hs : ∀ t, db.table? name = some t → t.schema.WellFormed :=
    fun t ht => (h.consistent.fit _ (Database.mem_of_table? ht)).wellFormed
  show Database.Outcome.done _ = Database.Outcome.done _
  rw [← Database.insertRow_plainNull hs now row, hrow, Database.insertRow_plainNull hs now row']

/-- Tuples in which NULL is respelled are inserted with the same result. -/
theorem makeSteps_respelled (h : db.Reachable) (now : Timestamp) (hs : s.ColumnsDiffer)
    {tuples tuples' : List (List Expr)} (htuples : List.Forall₂ (List.Forall₂ Respelled) tuples tuples')
    (hkept : List.Forall₂ (CountsKept s names) tuples tuples') (count : Nat) :
    makeSteps count (tuples.map (insertion now s names)) db
      = makeSteps count (tuples'.map (insertion now s names)) db := by
  induction htuples generalizing db count with
  | nil => rfl
  | @cons values values' _ _ hvalues _ ih =>
    obtain ⟨hcounts, hrest⟩ := List.forall₂_cons.1 hkept
    rw [List.map_cons, List.map_cons, makeSteps, makeSteps, insertion, insertion]
    have hagree := newRow_respelled db now hs hvalues hcounts
    generalize newRow db now s names values = made, newRow db now s names values' = made' at hagree
    cases hagree with
    | failed hsame =>
      subst hsame
      rfl
    | @done row row' hplain =>
      have hstep : (Step.insertRow now s.name (.cells row)).OnRow := trivial
      have hreachable := hstep.reachable h
      simp only [ok_bind, pure_eq_ok, ← answer_samePlain h now s.name hplain]
      generalize db.answer (.insertRow now s.name (.cells row)) = answered at hreachable ⊢
      obtain ⟨answer, db₁⟩ := answered
      cases answer with
      | ok => exact ih hreachable hrest (count + 1)
      | error failure => cases failure <;> rfl

/-- A stored cell is NULL if the text that was given for it is. -/
theorem isNullText_storedRow {raw stored : List String} {text : String}
    (hstored : Database.storedRow s now raw = .ok stored) (hcolumn : s.columns[i]? = some column)
    (htext : raw[i]? = some text) : stored[i]?.map isNullText = some (isNullText text) := by
  obtain ⟨cell, hcell, hencode⟩ := Schema.getElem?_encodeRow (Schema.storedRow_ok hstored).2 hcolumn htext
  rw [hcell, Option.map_some, isNullText_encode hencode]

/-- A cell for which something is given has its text, or a number in the place of NULL. -/
theorem getElem?_newRow {raw : List String} {e : Expr} (hs : s.ColumnsDiffer) (hcolumn : s.columns[i]? = some column)
    (hgiven : givenFor column.name (names.zip values) = some e) (h : newRow db now s names values = .ok raw) :
    ∃ text cell, expressionText (.empty now) column e = .ok text ∧ numberCell db s column text = .ok cell ∧
      raw[i]? = some cell := by
  obtain ⟨-, filled, hfilled, hrow⟩ := newRow_eq_ok.1 h
  have hi : i < (s.columns.map (Column.defaultText now)).length := by
    rw [List.length_map]
    exact (List.getElem?_eq_some_iff.1 hcolumn).1
  have hcell := getElem?_fillCells hs hcolumn hi hfilled
  simp only [hgiven, reduceCtorEq, false_and, false_or, Option.some.injEq] at hcell
  obtain ⟨_, text, rfl, htext, htext'⟩ := hcell
  have hzip : (s.columns.zip filled)[i]? = some (column, text) := List.getElem?_zip_eq_some.2 ⟨hcolumn, htext'⟩
  obtain ⟨cell, hcell, hnumber⟩ := exists_getElem?_of_forall₂ hrow hzip
  exact ⟨text, cell, htext, hnumber, hcell⟩

/-- Two tuples are not stored alike if a column is numbered in one of them and NULL in the other. -/
theorem countsKept_of_storedRow {s' : Schema} {raw raw' stored : List String} (hs : s.ColumnsDiffer)
    (hcolumns : s'.columns = s.columns) (hvalues : List.Forall₂ Respelled values values')
    (hnew : newRow db now s names values = .ok raw) (hnew' : newRow db now s names values' = .ok raw')
    (hstored : Database.storedRow s' now raw = .ok stored) (hstored' : Database.storedRow s' now raw' = .ok stored) :
    CountsKept s names values values' := by
  intro column hmem hcounts text hgiven hgiven'
  by_contra hword
  obtain ⟨i, hcolumn⟩ := List.getElem?_of_mem hmem
  have hcolumn' : s'.columns[i]? = some column := by rw [hcolumns, hcolumn]
  have hnull : isNullText text = true := by
    rcases givenFor_respelled column.name (cellsRespelled_zip names hvalues) with ⟨hnone, -⟩ | ⟨e, e', he, he', hpair⟩
    · rw [hnone] at hgiven
      cases hgiven
    · obtain rfl := Option.some.inj (hgiven.symm.trans he)
      obtain rfl := Option.some.inj (hgiven'.symm.trans he')
      cases hpair with
      | null hnull => exact hnull
  have hnumbered : ∃ n, raw[i]? = some (Decimal.intText n) := by
    obtain ⟨given, cell, hexpr, hnumber, hcell⟩ := getElem?_newRow hs hcolumn hgiven hnew
    obtain rfl : given = nullText := (Except.ok.inj hexpr).symm
    have hword : (upper nullText == nullText) = true := by decide +kernel
    rw [numberCell, hcounts, hword, Bool.and_self, if_pos rfl] at hnumber
    cases hnext : db.nextNumber s.name column.name with
    | error failure =>
      rw [hnext] at hnumber
      cases hnumber
    | ok n =>
      rw [hnext] at hnumber
      cases hnumber
      exact ⟨n, hcell⟩
  have hkept : raw'[i]? = some text := by
    obtain ⟨given, cell, hexpr, hnumber, hcell⟩ := getElem?_newRow hs hcolumn hgiven' hnew'
    obtain rfl : given = text := (Except.ok.inj hexpr).symm
    rw [numberCell, if_neg (by simp [hword]), Except.ok.injEq] at hnumber
    rw [hcell, hnumber]
  obtain ⟨n, hnumber⟩ := hnumbered
  have hpresent := isNullText_storedRow hstored hcolumn' hnumber
  rw [isNullText_storedRow hstored' hcolumn' hkept, hnull, isNullText_intText] at hpresent
  cases hpresent

/-- If all steps are taken, the first one is, and then the others are. -/
theorem makeSteps_cons_changed {attempt : Database → Except Failure Step}
    {attempts : List (Database → Except Failure Step)} {count n : Nat} {after : Database}
    (h : makeSteps count (attempt :: attempts) db = (.ok (.changed n), after)) :
    ∃ step, attempt db = .ok step ∧ (db.answer step).1 = .ok () ∧
      makeSteps (count + 1) attempts (db.answer step).2 = (.ok (.changed n), after) := by
  rw [makeSteps] at h
  cases hattempt : attempt db with
  | error failure =>
    rw [hattempt] at h
    cases h
  | ok step =>
    simp only [hattempt] at h
    refine ⟨step, rfl, ?_⟩
    generalize db.answer step = answered at h ⊢
    obtain ⟨answer, db₁⟩ := answered
    cases answer with
    | ok => exact ⟨rfl, h⟩
    | error failure => cases failure <;> cases h

/-- A tuple that is inserted before others stands in its stored form before their rows. -/
theorem rows_insertion (h : db.Reachable) {tuples : List (List Expr)} {count n : Nat} {after : Database}
    (hmade : makeSteps count ((values :: tuples).map (insertion now s names)) db = (.ok (.changed n), after)) :
    ∃ raw t stored new, newRow db now s names values = .ok raw ∧ db.table? s.name = some t ∧
      Database.storedRow t.schema now raw = .ok stored ∧
      after.rows s.name = db.rows s.name ++ [Cell.ofTexts stored] ++ new ∧
      (∀ t', (db.answer (.insertRow now s.name (.cells raw))).2.table? s.name = some t' →
        t'.schema.columns = t.schema.columns) ∧
      makeSteps (count + 1) (tuples.map (insertion now s names)) (db.answer (.insertRow now s.name (.cells raw))).2
        = (.ok (.changed n), after) := by
  obtain ⟨step, hattempt, hok, hrest⟩ := makeSteps_cons_changed hmade
  obtain ⟨raw, hnew, hstep⟩ := bind_eq_ok.1 hattempt
  cases hstep
  obtain ⟨t, rows, stored, ht, hrows, hstored, htables⟩ := insertRow_stores h hok
  have hon : (Step.insertRow now s.name (.cells raw)).OnRow := trivial
  have hrewrites := (insertion_rewrites (hon.reachable h) now s names (count + 1) tuples).here
  have htable := (htables s.name).trans (if_pos rfl)
  rw [hrest, Database.rows_of_table? htable] at hrewrites
  obtain ⟨new, -, hafter⟩ := hrewrites
  refine ⟨raw, t, stored, new, hnew, ht, hstored, ?_, fun t' ht' => ?_, hrest⟩
  · rw [hafter, Database.rows_of_table? ht, hrows.rows_eq]
    congr 1
    exact List.map_append
  · rw [htable, Option.some.injEq] at ht'
    rw [← ht']
    rfl

/-- If tuples in which NULL is respelled are all inserted, with the same rows, every column is numbered as before. -/
theorem countsKept_of_rows_eq (h : db.Reachable) (hs : s.ColumnsDiffer)
    (hcolumns : ∀ t, db.table? s.name = some t → t.schema.columns = s.columns) {tuples tuples' : List (List Expr)}
    (htuples : List.Forall₂ (List.Forall₂ Respelled) tuples tuples') {count count' n n' : Nat}
    {after after' : Database}
    (hmade : makeSteps count (tuples.map (insertion now s names)) db = (.ok (.changed n), after))
    (hmade' : makeSteps count' (tuples'.map (insertion now s names)) db = (.ok (.changed n'), after'))
    (hrows : after.rows s.name = after'.rows s.name) : List.Forall₂ (CountsKept s names) tuples tuples' := by
  induction htuples generalizing db count count' with
  | nil => exact .nil
  | @cons values values' tuples tuples' hvalues _ ih =>
    obtain ⟨raw, t, stored, new, hnew, ht, hstored, hafter, hnext, hrest⟩ := rows_insertion h hmade
    obtain ⟨raw', t', stored', new', hnew', ht', hstored', hafter', -, hrest'⟩ := rows_insertion h hmade'
    obtain rfl : t = t' := Option.some.inj (ht.symm.trans ht')
    -- the two first rows stand at the same place
    obtain rfl : stored = stored' := by
      rw [hafter, hafter', List.append_assoc, List.append_assoc, List.append_cancel_left_eq] at hrows
      exact Cell.ofTexts_injective (List.cons.inj hrows).1
    have hcounts := countsKept_of_storedRow hs (hcolumns t ht) hvalues hnew hnew' hstored hstored'
    refine .cons hcounts ?_
    have hagree := newRow_respelled db now hs hvalues hcounts
    rw [hnew, hnew'] at hagree
    cases hagree with
    | done hplain =>
      have hon : (Step.insertRow now s.name (.cells raw)).OnRow := trivial
      rw [← answer_samePlain h now s.name hplain] at hrest'
      exact ih (hon.reachable h) (fun t' ht' => (hnext t' ht').trans (hcolumns t ht)) hrest hrest'

end Execution

/-! ## The whole statement -/

/-- Statements that differ in the spelling of NULL in their tuples. -/
structure Sql.Insert.Respelled (statement statement' : Sql.Insert) : Prop where
  table : statement.table = statement'.table
  columns : statement.columns = statement'.columns
  values : List.Forall₂ (List.Forall₂ Relational.Respelled) statement.values statement'.values

/-- Every tuple keeps the numbers of the columns that count. -/
def Sql.Insert.CountsKept (s : Schema) (statement statement' : Sql.Insert) : Prop :=
  List.Forall₂ (Execution.CountsKept s (statement.columns.getD s.columnNames)) statement.values statement'.values

namespace Session

open Execution

/-- An INSERT in which NULL is spelled otherwise has the same result and leaves the same session, if each column that
counts on by itself gets the word NULL in some case where it got NULL. It has to get it: if both statements insert all
their tuples, and leave the same rows, then each such column did. -/
theorem insert_respelled {session after after' : Session} {now : Timestamp} {statement statement' : Sql.Insert}
    {outcome outcome' : Except Failure Result} (h : session.database.Reachable)
    (hrespelled : statement.Respelled statement')
    (hexecute : session.execute now (.insert statement) = (outcome, after))
    (hexecute' : session.execute now (.insert statement') = (outcome', after')) :
    ((∀ t, session.database.table? statement.table = some t → statement.CountsKept t.schema statement') →
      outcome = outcome' ∧ after = after') ∧
    ∀ n n', outcome = .ok (.changed n) → outcome' = .ok (.changed n') →
      after.database.rows statement.table = after'.database.rows statement.table →
      ∀ t, session.database.table? statement.table = some t → statement.CountsKept t.schema statement' := by
  have hdiffer : ∀ t, session.database.table? statement.table = some t → t.schema.ColumnsDiffer :=
    fun t ht => (h.consistent.fit _ (Database.mem_of_table? ht)).wellFormed.columnsDiffer
  constructor
  · intro hkept
    have hsame : session.execute now (.insert statement) = session.execute now (.insert statement') := by
      rw [execute_eq rfl, execute_eq rfl, rowSteps, rowSteps, tableNamed, tableNamed, ← hrespelled.table,
        ← hrespelled.columns]
      cases ht : session.database.table? statement.table with
      | none => rfl
      | some t =>
        simp only [ok_bind, pure_eq_ok]
        rw [makeSteps_respelled h now (hdiffer t ht) hrespelled.values (hkept t ht) 0]
    exact Prod.mk.inj (hexecute.symm.trans (hsame.trans hexecute'))
  · intro n n' hall hall' hrows t ht
    subst hall hall'
    have hkey : Database.keyOf statement.table = Database.keyOf t.schema.name :=
      (h.consistent.keyOf_name (Database.mem_of_table? ht)).symm
    have hmade := makeSteps_of_execute ht hexecute
    have hmade' := makeSteps_of_execute (hrespelled.table ▸ ht) hexecute'
    rw [← hrespelled.columns] at hmade'
    rw [Database.rows_of_keyOf_eq hkey, Database.rows_of_keyOf_eq hkey] at hrows
    refine countsKept_of_rows_eq h (hdiffer t ht) (fun t' ht' => ?_) hrespelled.values hmade hmade' hrows
    rw [table?_name h ht, Option.some.injEq] at ht'
    rw [ht']

namespace Ticket

open Database.Label (moment)

/-- One ticket with some expression for its number. -/
def oneTicket (e : Expr) : Sql.Insert :=
  ⟨"ticket", none, [[e]]⟩

theorem oneTicket_respelled {text : String} (h : isNullText text = true) :
    (oneTicket (.literal .null)).Respelled (oneTicket (.literal (.string text))) :=
  ⟨rfl, rfl, .cons (.cons (.null h) .nil) .nil⟩

end Ticket

/-- A ticket with the word NULL as a text is numbered like one with NULL. -/
theorem ticket_word_numbered :
    Ticket.session.execute Database.Label.moment (.insert (Ticket.oneTicket (.literal .null)))
      = Ticket.session.execute Database.Label.moment (.insert (Ticket.oneTicket (.literal (.string "Null")))) := by
  have hrespelled : (Ticket.oneTicket (.literal .null)).Respelled (Ticket.oneTicket (.literal (.string "Null"))) :=
    Ticket.oneTicket_respelled (by decide +kernel)
  have htable : Ticket.session.database.table? (Ticket.oneTicket (.literal .null)).table
      = some (Database.storedTable Ticket.schema [["7"]] Database.Label.moment) := by decide +kernel
  have hword : upper "Null" = nullText := by decide +kernel
  obtain ⟨hresult, hafter⟩ := (insert_respelled Ticket.reachable hrespelled rfl rfl).1 fun t ht => by
    obtain rfl := Option.some.inj (htable.symm.trans ht)
    refine .cons (fun column hcolumn _ text _ htext => ?_) .nil
    obtain rfl := List.mem_singleton.1 hcolumn
    cases htext
    exact hword
  exact Prod.ext hresult hafter

/-- A ticket with blanks around the word is not numbered, and then its number is missing. -/
theorem ticket_blanks_rejected : Ticket.session.database.Reachable ∧
    (Ticket.oneTicket (.literal .null)).Respelled (Ticket.oneTicket (.literal (.string " null "))) ∧
    (Ticket.session.execute Database.Label.moment (.insert (Ticket.oneTicket (.literal .null)))).1
      = .ok (.changed 1) ∧
    ∃ message, (Ticket.session.execute Database.Label.moment
      (.insert (Ticket.oneTicket (.literal (.string " null "))))).1 = .ok (.stopped 0 message) := by
  refine ⟨Ticket.reachable, Ticket.oneTicket_respelled (by decide +kernel), by decide +kernel,
    "Column 'number': PRIMARY KEY column 'number' cannot be NULL", by decide +kernel⟩

end Session

end Relational
