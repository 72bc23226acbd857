import Relational.Proofs.Database.Numbering

/-!
# Numbers for new rows

INSERT numbers each row on the rows that are there then, those that it has inserted before included. So the numbers
rise from tuple to tuple, each is larger than all that the column held, and no tuple is rejected by a key on the column
alone.
-/

namespace Relational

open Text Decimal
open Database (Step keyOf storedTable storedRow Carries)

/-- The only literal that is NULL. -/
theorem Literal.eq_null {value : Literal} {v : Value} (h : value.evaluate = .ok v) (hnull : v.isNull = true) :
    value = .null := by
  cases value with
  | null => rfl
  | string text | bool b =>
    cases h
    cases hnull
  | number text =>
    simp only [Literal.evaluate, numberValue] at h
    split at h
    · split at h <;> cases h <;> cases hnull
    · split at h
      · obtain rfl := Except.ok.inj h
        unfold Value.ofInteger at hnull
        split at hnull <;> cases hnull
      · cases h

namespace Execution

variable {db db' : Database} {now : Timestamp} {s : Schema} {t t₀ : Table} {column : Column} {name : String}
  {names : List String} {values : List Expr} {rows : List (List String)} {row raw : List String} {i : Nat} {n : Int}

/-! ## Cells of a new row -/

/-- A tuple leaves a column out, or gives it a value that is NULL. -/
def LeavesNull (now : Timestamp) (name : String) (names : List String) (values : List Expr) : Prop :=
  ∀ cell ∈ names.zip values, sameName cell.1 name = true →
    ∃ v, cell.2.evaluate (.empty now) = .ok v ∧ v.isNull = true

/-- What is NULL has the text of NULL. -/
theorem expressionText_of_isNull {scope : Scope} {e : Expr} {v : Value} (h : e.evaluate scope = .ok v)
    (hnull : v.isNull = true) (column : Column) : expressionText scope column e = .ok nullText := by
  have hnone : v.payload = none := by rwa [Value.isNull, Option.isNone_iff_eq_none] at hnull
  have htext : cellText column v = .ok nullText := by
    rw [cellText, hnone, Value.toText, hnone]
    rfl
  cases e with
  | literal value =>
    rw [Expr.evaluate] at h
    rw [Literal.eq_null h hnull]
    rfl
  | column | call | binary =>
    show (Expr.evaluate scope _ >>= fun v => cellText column v) = .ok nullText
    rw [h, ok_bind, htext]

/-- What is given for a column: of several values for it the last. -/
def givenFor (name : String) (cells : List (String × Expr)) : Option Expr :=
  (cells.reverse.find? fun cell => sameName cell.1 name).map Prod.snd

theorem givenFor_cons (name : String) (cell : String × Expr) (cells : List (String × Expr)) :
    givenFor name (cell :: cells)
      = (givenFor name cells).or (if sameName cell.1 name then some cell.2 else none) := by
  rw [givenFor, List.reverse_cons, List.find?_append, Option.map_or, List.find?_singleton]
  congr 1
  split <;> rfl

theorem mem_of_givenFor {cells : List (String × Expr)} {e : Expr} (h : givenFor name cells = some e) :
    ∃ cell ∈ cells, sameName cell.1 name = true ∧ cell.2 = e := by
  obtain ⟨cell, hfound, rfl⟩ := Option.map_eq_some_iff.1 h
  have hname : sameName cell.1 name = true := by simpa using List.find?_some hfound
  exact ⟨cell, List.mem_reverse.1 (List.mem_of_find?_eq_some hfound), hname, rfl⟩

/-- A cell has the text that is given for its column, or the one that it had. -/
theorem getElem?_fillCells {scope : Scope} {cells : List (String × Expr)} {filled : List String}
    (hs : s.ColumnsDiffer) (hcolumn : s.columns[i]? = some column) (hi : i < row.length)
    (h : fillCells s scope cells row = .ok filled) :
    (givenFor column.name cells = none ∧ filled[i]? = row[i]?) ∨
      ∃ e text, givenFor column.name cells = some e ∧ expressionText scope column e = .ok text ∧
        filled[i]? = some text := by
  obtain ⟨hlt, rfl⟩ := List.getElem?_eq_some_iff.1 hcolumn
  induction cells generalizing row with
  | nil =>
    cases h
    exact .inl ⟨rfl, rfl⟩
  | cons cell cells ih =>
    obtain ⟨name, e⟩ := cell
    rw [fillCells] at h
    split at h
    · rename_i j given hposition hgiven
      obtain ⟨text, htext, h⟩ := bind_eq_ok.1 h
      have hrest := ih (by rwa [List.length_set]) h
      rw [givenFor_cons]
      by_cases hname : sameName name s.columns[i].name = true
      · have hlower := sameName_iff.1 hname
        rw [Schema.position?_congr hlower, hs.position?_eq hlt, Option.some.injEq] at hposition
        rw [hs.column?_eq (List.getElem_mem hlt) hlower.symm, Option.some.injEq] at hgiven
        subst hposition hgiven
        rw [List.getElem?_set_self hi] at hrest
        rcases hrest with ⟨hnone, hcell⟩ | hlater
        · exact .inr ⟨e, text, by rw [hnone, if_pos hname, Option.none_or], htext, hcell⟩
        · obtain ⟨e', text', he', hlater⟩ := hlater
          exact .inr ⟨e', text', by rw [he', Option.some_or], hlater⟩
      · have hne : j ≠ i := by
          rintro rfl
          obtain ⟨_, hat, -⟩ := Schema.position?_eq_some_iff.1 hposition
          exact hname (sameName_iff.2 hat.symm)
        rw [List.getElem?_set_ne hne] at hrest
        rwa [if_neg hname, Option.or_none]
    · cases h

/-- A cell that is NULL stays so, if nothing else is given for its column. -/
theorem fillCells_null {scope : Scope} {cells : List (String × Expr)} {filled : List String}
    (hs : s.ColumnsDiffer) (hcolumn : s.columns[i]? = some column) (hcell : row[i]? = some nullText)
    (hnull : ∀ cell ∈ cells, sameName cell.1 column.name = true →
      ∃ v, cell.2.evaluate scope = .ok v ∧ v.isNull = true)
    (h : fillCells s scope cells row = .ok filled) : filled[i]? = some nullText := by
  have hi : i < row.length := (List.getElem?_eq_some_iff.1 hcell).1
  rcases getElem?_fillCells hs hcolumn hi h with ⟨-, hkept⟩ | ⟨e, text, hgiven, htext, hfilled⟩
  · rw [hkept, hcell]
  · obtain ⟨cell, hmem, hname, rfl⟩ := mem_of_givenFor hgiven
    obtain ⟨v, hv, hvnull⟩ := hnull cell hmem hname
    rw [expressionText_of_isNull hv hvnull, Except.ok.injEq] at htext
    rw [hfilled, htext]
/-- A new row has as many texts as the tuple names, filled in after the defaults and then numbered. -/
theorem newRow_eq_ok : newRow db now s names values = .ok row ↔ values.length = names.length ∧
    ∃ filled, fillCells s (.empty now) (names.zip values) (s.columns.map (Column.defaultText now)) = .ok filled ∧
      List.Forall₂ (fun cell text => numberCell db s cell.1 cell.2 = .ok text) (s.columns.zip filled) row := by
  unfold newRow
  by_cases hlength : values.length = names.length
  · simp only [hlength, bne_self_eq_false, Bool.false_eq_true, if_false, true_and]
    rw [bind_eq_ok]
    simp only [mapM_eq_ok]
  · simp [hlength]

/-- The row has the next number in a column that counts, if it is left out or NULL. -/
theorem newRow_numbered (hs : s.WellFormed) (hcolumn : s.columns[i]? = some column) (hcounts : column.Counts)
    (hnull : LeavesNull now column.name names values) (h : newRow db now s names values = .ok row) :
    ∃ n, db.nextNumber s.name column.name = .ok n ∧ s.Numbered column i n row := by
  obtain ⟨-, filled, hfilled, hrow⟩ := newRow_eq_ok.1 h
  have hdefault : (s.columns.map (Column.defaultText now))[i]? = some nullText := by
    rw [List.getElem?_map, hcolumn, Option.map_some, Column.defaultText, hcounts.plain]
  have hcell : filled[i]? = some nullText := fillCells_null hs.columnsDiffer hcolumn hdefault hnull hfilled
  have hzip : (s.columns.zip filled)[i]? = some (column, nullText) := List.getElem?_zip_eq_some.2 ⟨hcolumn, hcell⟩
  obtain ⟨text, htext, hnumber⟩ := exists_getElem?_of_forall₂ hrow hzip
  have hbare : (upper nullText == nullText) = true := by decide +kernel
  rw [numberCell, hcounts.counts, hbare, Bool.and_self, if_pos rfl] at hnumber
  cases hnext : db.nextNumber s.name column.name with
  | error failure =>
    rw [hnext] at hnumber
    cases hnumber
  | ok n =>
    rw [hnext] at hnumber
    cases hnumber
    exact ⟨n, rfl, hs, DataType.isInteger_iff.1 hcounts.integer, hcolumn, htext⟩

theorem expressionText_raised (scope : Scope) (column : Column) (e : Expr) :
    FailsOnly Failure.Raised (expressionText scope column e) := by
  have hevaluated : FailsOnly Failure.Raised (do cellText column (← e.evaluate scope)) := by
    refine e.evaluate_raised.bind fun v _ => ?_
    unfold cellText
    repeat' split
    all_goals first | exact .ok _ | exact fail_raised _
  unfold expressionText
  split
  · exact .ok _
  · exact hevaluated

theorem fillCells_raised (s : Schema) (scope : Scope) (cells : List (String × Expr)) (row : List String) :
    FailsOnly Failure.Raised (fillCells s scope cells row) := by
  induction cells generalizing row with
  | nil => exact .ok row
  | cons cell cells ih =>
    obtain ⟨name, e⟩ := cell
    rw [fillCells]
    split
    · exact (expressionText_raised _ _ _).bind fun text _ => ih _
    · exact refuse_raised _

theorem cellInteger?_raised (cell : Cell) : FailsOnly Failure.Raised (Database.cellInteger? cell) := by
  unfold Database.cellInteger?
  split
  · exact .ok _
  · exact .ok _
  · exact .ok _
  · split
    · exact .ok _
    · exact (Value.integerOfReal_raised _).map _
  · exact fail_raised _

theorem numberCell_raised (db : Database) (s : Schema) (column : Column) (text : String) :
    FailsOnly Failure.Raised (numberCell db s column text) := by
  unfold numberCell
  split
  · refine FailsOnly.map ?_ _
    unfold Database.nextNumber
    split
    · exact .ok _
    · split
      · exact .ok _
      · refine (Table.loaded_raised _).bind fun content _ => ?_
        exact FailsOnly.bind (.mapM fun cell _ => cellInteger?_raised cell) fun numbers _ => .ok _
  · exact .ok _

/-- A tuple is refused, or meets a fault, before there is a row to be rejected. -/
theorem newRow_raised (db : Database) (now : Timestamp) (s : Schema) (names : List String) (values : List Expr) :
    FailsOnly Failure.Raised (newRow db now s names values) := by
  unfold newRow
  split
  · exact refuse_raised _
  · refine (fillCells_raised _ _ _ _).bind fun filled _ => .mapM fun cell _ => ?_
    exact numberCell_raised _ _ _ _

/-! ## One tuple -/

/-- A row that is inserted stands after the others, in its stored form. -/
theorem insertRow_stores (h : db.Reachable) (hok : (db.answer (.insertRow now name (.cells raw))).1 = .ok ()) :
    ∃ t rows stored, db.table? name = some t ∧ t.Holds rows ∧ storedRow t.schema now raw = .ok stored ∧
      ∀ other, (db.answer (.insertRow now name (.cells raw))).2.table? other
        = if keyOf other = keyOf name then some (storedTable t.schema (rows ++ [stored]) now) else db.table? other := by
  have hstep : (Step.insertRow now name (.cells raw)).OnRow := trivial
  obtain ⟨key, t', hplanned, htables⟩ := hstep.put_of_ok h.consistent hok
  cases hplanned with
  | @inserted _ _ _ t rows stored ht hrows hstored =>
    refine ⟨t, rows, stored, ht, hrows, hstored, fun other => ?_⟩
    rw [Database.table?_of_tables_eq htables, Database.table?_setTable]

/-- The rows of a table that is carried along are carried on. -/
theorem insertRow_appends (h : db.Reachable) (ht : db.table? t₀.schema.name = some t) (hcarries : Carries now t₀ t rows)
    (raw : List String) (hok : (db.answer (.insertRow now t₀.schema.name (.cells raw))).1 = .ok ()) :
    ∃ stored t', storedRow t.schema now raw = .ok stored ∧ Carries now t₀ t' (rows ++ [stored]) ∧
      ∀ name, (db.answer (.insertRow now t₀.schema.name (.cells raw))).2.table? name
        = if keyOf name = keyOf t₀.schema.name then some t' else db.table? name := by
  obtain ⟨old, rows', stored, hold, hrows, hstored, htables⟩ := insertRow_stores h hok
  obtain rfl : t = old := Option.some.inj (ht.symm.trans hold)
  obtain rfl : rows = rows' := hcarries.holds.unique hrows
  refine ⟨stored, _, hstored, hcarries.rewrite ?_, htables⟩
  rw [List.forall_mem_append, List.forall_mem_singleton]
  exact ⟨hrows.wide, Schema.length_storedRow hstored⟩

/-- How an INSERT ends that has numbered some rows: all of them are inserted, or it stops at one, but not because of a
key on the column alone. -/
inductive EndsFresh (db : Database) (now : Timestamp) (s : Schema) (name : String) (n : Nat) :
    Except Failure Result → Prop where
  | all : EndsFresh db now s name n (.ok (.changed n))
  | rejected {row : List String} {cause : Rejection} (hcause : ¬ cause.ForKeyOf name)
      (hrejected : (db.insertRow now s.name (.cells row)).1 = .error (.rejection cause)) :
      EndsFresh db now s name n (.ok (.stopped n cause.message))
  | failed {failure : Failure} (h : ¬ failure.ForKeyOf name) : EndsFresh db now s name n (.error failure)

/-- Rows with rising numbers that are larger than those of the rows before them. -/
structure Fresh (rows : List (List String)) (i : Nat) (numbers : List Int) (new : List (List String)) : Prop where
  numbered : List.Forall₂ (fun n row => row[i]? = some (intText n)) numbers new
  rising : numbers.Pairwise (· < ·)
  above : ∀ n ∈ numbers, Below rows i n

theorem Fresh.nil (rows : List (List String)) (i : Nat) : Fresh rows i [] [] :=
  ⟨.nil, .nil, by simp⟩

/-- One row before those that are numbered after it. -/
theorem Fresh.cons {numbers : List Int} {new : List (List String)} (hcell : row[i]? = some (intText n))
    (habove : Below rows i n) (h : Fresh (rows ++ [row]) i numbers new) : Fresh rows i (n :: numbers) (row :: new) := by
  refine ⟨.cons hcell h.numbered, List.pairwise_cons.2 ⟨fun m hm => ?_, h.rising⟩, ?_⟩
  · have hbelow := (h.above m hm).of_append.2
    exact hbelow row List.mem_cons_self _ hcell n (readInteger?_intText n)
  · rw [List.forall_mem_cons]
    exact ⟨habove, fun m hm => (h.above m hm).of_append.1⟩

/-- The cells of a table whose rows are below a number. -/
theorem cells_of_below (hbelow : Below rows i n) (hrows : t.Holds rows) {cells : List Cell} (hcells : cells ∈ t.rows) :
    cells[i]? ≠ some (.text (intText n)) ∧
      ∀ text m, cells[i]? = some (.text text) → readInteger? text = some m → m < n := by
  rw [hrows.rows_eq] at hcells
  obtain ⟨row, hrow, rfl⟩ := List.mem_map.1 hcells
  simp only [ne_eq, Cell.getElem?_ofTexts]
  exact ⟨hbelow.ne_intText hrow, fun text m htext hm => hbelow row hrow text htext m hm⟩

/-! ## Tuple by tuple -/

/-- A tuple that leaves the column out, or gives it NULL, has a number larger than those of the rows before. Its row is
appended with this number, or it fails with the table as it was, but not because of a key on the column alone. -/
theorem insertRow_fresh (h : db.Reachable) (ht : db.table? t₀.schema.name = some t) (hcarries : Carries now t₀ t rows)
    (hs : t₀.schema.WellFormed) (hcolumn : t₀.schema.columns[i]? = some column) (hcounts : column.Counts)
    {values : List Expr} (hnull : LeavesNull now column.name names values)
    (hnew : newRow db now t₀.schema names values = .ok raw) :
    ∃ n, Below rows i n ∧
      ((db.answer (.insertRow now t₀.schema.name (.cells raw))).1 = .ok () → ∃ stored t₁,
        (db.answer (.insertRow now t₀.schema.name (.cells raw))).2.table? t₀.schema.name = some t₁ ∧
          Carries now t₀ t₁ (rows ++ [stored]) ∧ stored[i]? = some (intText n)) ∧
      ∀ failure, (db.answer (.insertRow now t₀.schema.name (.cells raw))).1 = .error failure →
        ¬ failure.ForKeyOf column.name ∧
          (db.answer (.insertRow now t₀.schema.name (.cells raw))).2.table? t₀.schema.name = some t := by
  obtain ⟨n, hnext, hnumbered⟩ := newRow_numbered hs hcolumn hcounts hnull hnew
  -- the number is above those of the rows that are there now
  have hposition : t.schema.position? column.name = some i :=
    (Schema.position?_of_columns_eq hcarries.columns _).trans hnumbered.position?
  obtain ⟨m, hm, -, hbelow⟩ := Database.below_nextNumber ht hcarries.holds hposition
  obtain rfl : n = m := Except.ok.inj (hnext.symm.trans hm)
  have hnumbered' : t.schema.Numbered column i n raw :=
    ⟨(h.consistent.fit _ (Database.mem_of_table? ht)).wellFormed, hnumbered.integer,
      by rw [hcarries.columns, hcolumn], hnumbered.cell⟩
  have hstep : (Step.insertRow now t₀.schema.name (.cells raw)).OnRow := trivial
  refine ⟨n, hbelow, fun hok => ?_, fun failure hfailed => ⟨?_, ?_⟩⟩
  · obtain ⟨stored, t₁, hstored, hcarries₁, hlookup⟩ := insertRow_appends h ht hcarries raw hok
    exact ⟨stored, t₁, (hlookup _).trans (if_pos rfl), hcarries₁, (hnumbered'.storedRow_numbered hstored).cell⟩
  · exact Database.insertRow_keepsKeyOf h.consistent now ht hcarries.holds hnumbered' hbelow failure hfailed
  · rw [Database.table?_of_tables_eq (hstep.tables_of_error h.consistent hfailed), ht]

/-- Tuples that leave the column out, or give it NULL, are numbered one after the other. -/
theorem makeSteps_fresh (h : db.Reachable) (ht : db.table? t₀.schema.name = some t)
    (hcarries : Carries now t₀ t rows) (hs : t₀.schema.WellFormed) (hcolumn : t₀.schema.columns[i]? = some column)
    (hcounts : column.Counts) {tuples : List (List Expr)}
    (hnull : ∀ values ∈ tuples, LeavesNull now column.name names values) {count : Nat}
    {outcome : Except Failure Result}
    (hmade : makeSteps count (tuples.map (insertion now t₀.schema names)) db = (outcome, db')) :
    ∃ numbers new t', db'.table? t₀.schema.name = some t' ∧ Carries now t₀ t' (rows ++ new) ∧
      Fresh rows i numbers new ∧ EndsFresh db' now t₀.schema column.name (count + numbers.length) outcome := by
  induction tuples generalizing db t rows count with
  | nil =>
    cases hmade
    exact ⟨[], [], t, ht, by simpa using hcarries, .nil rows i, .all⟩
  | cons values tuples ih =>
    rw [List.forall_mem_cons] at hnull
    rw [List.map_cons, makeSteps, insertion] at hmade
    cases hnew : newRow db now t₀.schema names values with
    | error failure =>
      rw [hnew] at hmade
      cases hmade
      refine ⟨[], [], t, ht, by simpa using hcarries, .nil rows i, .failed ?_⟩
      exact (newRow_raised _ _ _ _ _ failure hnew).not_forKeyOf _
    | ok raw =>
      obtain ⟨n, hbelow, hdone, hfailed⟩ := insertRow_fresh h ht hcarries hs hcolumn hcounts hnull.1 hnew
      have hstep : (Step.insertRow now t₀.schema.name (.cells raw)).OnRow := trivial
      have hreachable := hstep.reachable h
      have hsame : ∀ cause, (db.answer (.insertRow now t₀.schema.name (.cells raw))).1 = .error (.rejection cause) →
          (db.answer (.insertRow now t₀.schema.name (.cells raw))).2 = db :=
        fun _ => hstep.eq_of_rejected h.consistent
      rw [hnew] at hmade
      simp only [ok_bind, pure_eq_ok] at hmade
      generalize hanswer : db.answer (.insertRow now t₀.schema.name (.cells raw)) = answered
        at hmade hreachable hdone hfailed hsame
      obtain ⟨answer, db₁⟩ := answered
      cases answer with
      | ok =>
        obtain ⟨stored, t₁, ht₁, hcarries₁, hcell⟩ := hdone rfl
        obtain ⟨numbers, new, t', ht', hcarries', hfresh, hends⟩ := ih hreachable ht₁ hcarries₁ hnull.2 hmade
        refine ⟨n :: numbers, stored :: new, t', ht', by simpa using hcarries', hfresh.cons hcell hbelow, ?_⟩
        rw [List.length_cons]
        rwa [Nat.add_assoc, Nat.add_comm 1] at hends
      | error failure =>
        obtain ⟨hkey, hkept⟩ := hfailed failure rfl
        cases failure with
        | rejection cause =>
          have hrejected : (db.insertRow now t₀.schema.name (.cells raw)).1 = .error (.rejection cause) :=
            Database.Outcome.error_of_done (congrArg Prod.fst hanswer)
          obtain rfl : db₁ = db := hsame cause rfl
          cases hmade
          exact ⟨[], [], t, ht, by simpa using hcarries, .nil rows i, .rejected hkey hrejected⟩
        | refusal | fault =>
          cases hmade
          exact ⟨[], [], t, hkept, by simpa using hcarries, .nil rows i, .failed hkey⟩

/-- Nothing is inserted in a table that was not loaded, for its rows have no next number. -/
theorem makeSteps_unloaded (ht : db.table? s.name = some t) (hcontent : t.content = none)
    (hcolumns : t.schema.columns = s.columns) (hs : s.WellFormed) (hcolumn : s.columns[i]? = some column)
    (hcounts : column.Counts) {tuples : List (List Expr)}
    (hnull : ∀ values ∈ tuples, LeavesNull now column.name names values) {outcome : Except Failure Result}
    (hmade : makeSteps 0 (tuples.map (insertion now s names)) db = (outcome, db')) :
    db' = db ∧ EndsFresh db now s column.name 0 outcome := by
  cases tuples with
  | nil =>
    cases hmade
    exact ⟨rfl, .all⟩
  | cons values tuples =>
    rw [List.forall_mem_cons] at hnull
    rw [List.map_cons, makeSteps, insertion] at hmade
    cases hnew : newRow db now s names values with
    | error failure =>
      rw [hnew] at hmade
      cases hmade
      exact ⟨rfl, .failed ((newRow_raised _ _ _ _ _ failure hnew).not_forKeyOf _)⟩
    | ok raw =>
      obtain ⟨n, hnext, hnumbered⟩ := newRow_numbered hs hcolumn hcounts hnull.1 hnew
      have hposition : t.schema.position? column.name = some i :=
        (Schema.position?_of_columns_eq hcolumns _).trans hnumbered.position?
      rw [Database.nextNumber_of_content_eq_none ht hcontent hposition] at hnext
      cases hnext

end Execution

/-! ## The whole statement -/

namespace Session

open Execution

/-- An INSERT into a table that is there makes a step for each of its tuples. -/
theorem makeSteps_of_execute {session after : Session} {now : Timestamp} {statement : Sql.Insert} {t : Table}
    {outcome : Except Failure Result} (ht : session.database.table? statement.table = some t)
    (h : session.execute now (.insert statement) = (outcome, after)) :
    makeSteps 0 (statement.values.map (insertion now t.schema (statement.columns.getD t.schema.columnNames)))
      session.database = (outcome, after.database) := by
  have hnamed : tableNamed session.database statement.table = .ok t.schema := by
    rw [tableNamed, ht]
  rw [execute_eq rfl, rowSteps, hnamed] at h
  obtain ⟨houtcome, rfl⟩ := Prod.mk.inj h
  exact Prod.ext houtcome rfl

/-- A column of integers that counts on by itself, without a default, has a next number exactly if the rows of its table
were loaded. It is at least one, and larger than every integer that the column holds. An INSERT that leaves the column
out, or gives it NULL, appends rows with numbers that rise from tuple to tuple, larger than every integer of the rows
before and so in none of them, and it stops at no tuple because of a key on the column alone. -/
theorem nextNumber_fresh {session : Session} {name : String} {t : Table} {column : Column} {i : Nat}
    (h : session.database.Reachable) (ht : session.database.table? name = some t)
    (hcolumn : t.schema.columns[i]? = some column) (hcounts : column.Counts) :
    ((∃ n, session.database.nextNumber name column.name = .ok n) ↔ t.content ≠ none) ∧
    (∀ n, session.database.nextNumber name column.name = .ok n → 1 ≤ n ∧
      ∀ row ∈ t.rows, ∀ text m, row[i]? = some (.text text) → readInteger? text = some m → m < n) ∧
    ∀ {now : Timestamp} {statement : Sql.Insert} {outcome : Except Failure Result} {after : Session},
      keyOf statement.table = keyOf name →
      (∀ values ∈ statement.values,
        LeavesNull now column.name (statement.columns.getD t.schema.columnNames) values) →
      session.execute now (.insert statement) = (outcome, after) →
      ∃ numbers : List Int, ∃ new : List (List Cell), after.database.rows name = t.rows ++ new ∧
        List.Forall₂ (fun n row => row[i]? = some (.text (intText n))) numbers new ∧ numbers.Pairwise (· < ·) ∧
        (∀ n ∈ numbers, ∀ row ∈ t.rows, row[i]? ≠ some (.text (intText n)) ∧
          ∀ text m, row[i]? = some (.text text) → readInteger? text = some m → m < n) ∧
        EndsFresh after.database now t.schema column.name numbers.length outcome := by
  have hmem := Database.mem_of_table? ht
  have hfit := h.consistent.fit _ hmem
  have hposition : t.schema.position? column.name = some i := by
    obtain ⟨hi, rfl⟩ := List.getElem?_eq_some_iff.1 hcolumn
    exact hfit.wellFormed.columnsDiffer.position?_eq hi
  have hkey : keyOf t.schema.name = keyOf name := h.consistent.keyOf_name hmem
  have hself : session.database.table? t.schema.name = some t := table?_name h ht
  have hnamed : ∀ {statement : Sql.Insert}, keyOf statement.table = keyOf name →
      session.database.table? statement.table = some t := by
    intro statement htable
    rw [Database.table?, htable]
    exact ht
  cases hcontent : t.content with
  | none =>
    have hnone := Database.nextNumber_of_content_eq_none ht hcontent hposition
    have hrows : t.rows = [] := by
      rw [Table.rows, hcontent]
      rfl
    refine ⟨by simp [hnone], fun n hn => ?_, ?_⟩
    · rw [hnone] at hn
      cases hn
    · intro now statement outcome after htable hnull hexecute
      have hmade := makeSteps_of_execute (hnamed htable) hexecute
      obtain ⟨hdb, hends⟩ := makeSteps_unloaded hself hcontent rfl hfit.wellFormed hcolumn hcounts hnull hmade
      rw [hdb]
      exact ⟨[], [], by simp [Database.rows_of_table? ht], .nil, .nil, by simp, hends⟩
  | some content =>
    obtain ⟨rows, hrows, -⟩ := hfit.rows content hcontent
    obtain ⟨n, hn, hpos, hbelow⟩ := Database.below_nextNumber ht hrows hposition
    refine ⟨by simp [hn], fun m hm => ?_, ?_⟩
    · obtain rfl : n = m := Except.ok.inj (hn.symm.trans hm)
      exact ⟨hpos, fun row hrow => (cells_of_below hbelow hrows hrow).2⟩
    · intro now statement outcome after htable hnull hexecute
      have hmade := makeSteps_of_execute (hnamed htable) hexecute
      obtain ⟨numbers, new, t', ht', hcarries', hfresh, hends⟩ :=
        makeSteps_fresh h hself ⟨hrows, .inl rfl⟩ hfit.wellFormed hcolumn hcounts hnull hmade
      refine ⟨numbers, new.map Cell.ofTexts, ?_, ?_, hfresh.rising, ?_, ?_⟩
      · rw [Database.rows_of_keyOf_eq hkey.symm, Database.rows_of_table? ht', hcarries'.holds.rows_eq, hrows.rows_eq,
          List.map_append]
      · rw [List.forall₂_map_right_iff]
        exact hfresh.numbered.imp fun n row hcell => Cell.getElem?_ofTexts.2 hcell
      · exact fun n hn row hrow => cells_of_below (hfresh.above n hn) hrows hrow
      · simpa using hends

/-! ## Tickets -/

namespace Ticket

open Database.Label (moment)

/-- The number of a ticket. -/
def numberColumn : Column :=
  { name := "number", type := .int, nullable := false, primaryKey := true, autoIncrement := true }

/-- A table of tickets. -/
def schema : Schema :=
  { Database.Label.schema with name := "ticket", columns := [numberColumn], primaryKey := ["number"] }

theorem declared : schema.Declared := by
  have hname : Schema.create "ticket" "" false moment = .ok { schema with columns := [], primaryKey := [] } := by
    decide +kernel
  have hnumber : numberColumn.declare = .ok numberColumn := by decide +kernel
  have hcolumn : ({ schema with columns := [], primaryKey := [] } : Schema).addColumn numberColumn = .ok schema := by
    decide +kernel
  exact (Schema.Declared.create hname).addColumn hnumber hcolumn

theorem counts : numberColumn.Counts :=
  ⟨rfl, rfl, rfl⟩

/-- A session on a database with one ticket, which has a number of its own. -/
def session : Session :=
  ofDatabase (((Database.empty none).addTable moment schema).2.insertRow moment "ticket" (.cells ["7"])).2

theorem reachable : session.database.Reachable :=
  ((Database.Reachable.empty none).move (.addTable moment declared ⟨rfl, by decide⟩)).move
    (.insertRow moment "ticket" (.cells ["7"]))

/-- Two tickets, one with NULL and one in which the number is left out. -/
def twoTickets : Sql.Insert :=
  ⟨"ticket", none, [[.literal .null], [.literal .null]]⟩

/-- The definition of the table as it is stored without rows. -/
def definition : Schema :=
  Database.stamped schema [] moment

theorem definition_usual : definition.Usual := by
  refine ⟨rfl, by decide, ?_, ?_⟩
  · exact ⟨by decide, by decide, by decide, by decide, by decide, by decide⟩
  · exact ⟨by decide, by decide, by decide, by decide, by decide, by decide⟩

theorem tables_unread : (Database.unread schema moment).tables = [("ticket", ⟨definition, none⟩)] :=
  Database.tables_unread declared.wellFormed definition_usual (by decide +kernel)

end Ticket

/-- Two tickets get numbers after the one that is there. -/
theorem ticket_numbers_fresh : Ticket.session.database.nextNumber "ticket" "number" = .ok 8 ∧
    ∃ numbers : List Int, ∃ new : List (List Cell), numbers.length = 2 ∧ numbers.Pairwise (· < ·) ∧
      (∀ n ∈ numbers, 7 < n) ∧
      (Ticket.session.execute Database.Label.moment (.insert Ticket.twoTickets)).2.database.rows "ticket"
        = [[.text "7"]] ++ new ∧
      List.Forall₂ (fun n row => row[0]? = some (Cell.text (intText n))) numbers new := by
  have htable : Ticket.session.database.table? "ticket"
      = some (storedTable Ticket.schema [["7"]] Database.Label.moment) := by decide +kernel
  have hexecute : Ticket.session.execute Database.Label.moment (.insert Ticket.twoTickets)
      = (_, (Ticket.session.execute Database.Label.moment (.insert Ticket.twoTickets)).2) := rfl
  have hnull : ∀ values ∈ Ticket.twoTickets.values, LeavesNull Database.Label.moment "number" ["number"] values := by
    intro values hvalues cell hcell _
    obtain rfl := List.eq_of_mem_replicate (n := 2) hvalues
    obtain rfl := List.mem_singleton.1 hcell
    exact ⟨_, rfl, rfl⟩
  obtain ⟨-, -, hinsert⟩ := nextNumber_fresh (i := 0) Ticket.reachable htable rfl Ticket.counts
  obtain ⟨numbers, new, hrows, hnumbers, hrising, habove, -⟩ := hinsert rfl hnull hexecute
  have htwo : new.length = 2 := by
    have hthree : ((Ticket.session.execute Database.Label.moment (.insert Ticket.twoTickets)).2.database.rows
        "ticket").length = 3 := by decide +kernel
    have hsum := congrArg List.length hrows
    rw [hthree, List.length_append] at hsum
    exact Nat.add_left_cancel hsum.symm
  have hseven : readInteger? "7" = some 7 := by decide +kernel
  exact ⟨by decide +kernel, numbers, new, hnumbers.length_eq.trans htwo, hrising,
    fun n hn => (habove n hn [.text "7"] (.head _)).2 "7" 7 rfl hseven, hrows, hnumbers⟩

/-- After a load that failed at the rows of the table, the next number is not one, but a failure. -/
theorem ticket_unread : (Database.unread Ticket.schema Database.Label.moment).Reachable ∧
    (∃ t, (Database.unread Ticket.schema Database.Label.moment).table? "ticket" = some t ∧
      t.schema.columns = [Ticket.numberColumn] ∧ t.rows = []) ∧
    (Database.unread Ticket.schema Database.Label.moment).nextNumber "ticket" "number"
      = fail (.missingKey "ticket") := by
  have htable : (Database.unread Ticket.schema Database.Label.moment).table? "ticket"
      = some ⟨Ticket.definition, none⟩ := by
    rw [Database.table?, Ticket.tables_unread]
    decide +kernel
  refine ⟨Database.unread_reachable Ticket.declared ⟨rfl, by decide⟩, ⟨_, htable, rfl, rfl⟩, ?_⟩
  exact Database.nextNumber_of_content_eq_none htable rfl (i := 0) (by decide +kernel)

end Session

end Relational
