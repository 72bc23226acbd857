import Relational.Proofs.Database.TypeRules
import Relational.Proofs.Delete
import Relational.Proofs.Value.Spelling

/-!
# A column set to itself

`UPDATE t SET c = c` reads each cell of the column as a value and writes the value as a text again. Where the text is
the one that was stored, the row that is put in its place is the same row: nothing changes, and no type has anything
against it. So this is so unless the column holds a date or time that is spelled otherwise than values are written.
-/

namespace Relational

open Text
open Database (Step keyOf storedTable storedRow Carries)

/-! ## Cells -/

/-- A stored cell that is spelled plainly is written as it is. -/
theorem Value.toText_stored {type : DataType} {choices : List String} {cell : String} (hreal : type.kind ≠ .real)
    (h : encode type choices cell = .ok cell) (hplain : SpelledPlainly type cell) :
    (Value.ofText type cell).toText = cell := by
  cases hnull : isNullText cell with
  | false => exact (Value.toText_stored_iff hreal h hnull).2 hplain
  | true =>
    rcases encode_eq_ok.1 h with ⟨-, rfl⟩ | ⟨hpresent, -⟩
    · have hnone := Value.isNull_ofText_nullText type
      rw [Value.isNull, Option.isNone_iff_eq_none] at hnone
      rw [Value.toText, hnone, Option.elim_none]
    · rw [hnull] at hpresent
      cases hpresent

namespace Execution

/-- Only real numbers are rounded. -/
theorem cellText_eq_ok {v : Value} (hreal : v.type.kind ≠ .real) (column : Column) :
    cellText column v = .ok v.toText := by
  unfold cellText
  split
  · rename_i x scale hpayload hscale
    exact absurd (v.fits _ hpayload).symm hreal
  · rfl

variable {db : Database} {now : Timestamp} {s : Schema} {t t₀ : Table} {rows : List (List String)} {row : List String}
  {name name' name₀ cell : String} {qualifier : Option String} {column : Column} {i k : Nat}

/-! ## One row -/

/-- An assignment to the column at a position, with the name of the same column on its right side. -/
structure SetsItself (s : Schema) (name name' : String) (column : Column) (i : Nat) : Prop where
  wellFormed : s.WellFormed
  sameName : lower name' = lower name
  position : s.position? name = some i
  named : s.column? name = some column
  notReal : column.type.kind ≠ .real

theorem SetsItself.columnAt (h : SetsItself s name name' column i) : s.columns[i]? = some column :=
  h.wellFormed.columnsDiffer.getElem?_of_position? h.position h.named

/-- The expression has the text of the cell. -/
theorem SetsItself.expressionText_eq_ok (h : SetsItself s name name' column i) (now : Timestamp)
    (qualifier : Option String) (hwide : row.length = s.columns.length) (hcell : row[i]? = some cell)
    (hencode : encode column.type column.choices cell = .ok cell) (hplain : SpelledPlainly column.type cell) :
    expressionText (s.rowScope now row) column (.column qualifier name') = .ok cell := by
  have hlower : lower name' = lower column.name := by
    rw [h.sameName, (Schema.column?_eq_some h.named).2]
  have hvalue := Schema.rowScope_column h.wellFormed hwide h.columnAt hcell hlower now qualifier
  have hreal : (Value.ofText column.type cell).type.kind ≠ .real := by
    rw [Value.type_ofText]
    exact h.notReal
  show (do cellText column (← (Expr.column qualifier name').evaluate (s.rowScope now row))) = Except.ok cell
  rw [Expr.evaluate, hvalue, ok_bind, cellText_eq_ok hreal, Value.toText_stored h.notReal hencode hplain]

theorem SetsItself.assigned_eq_ok (h : SetsItself s name name' column i) (now : Timestamp)
    (qualifier : Option String) (hwide : row.length = s.columns.length) (hcell : row[i]? = some cell)
    (hencode : encode column.type column.choices cell = .ok cell) (hplain : SpelledPlainly column.type cell) :
    assigned now s [(name, .column qualifier name')] (Cell.ofTexts row) = .ok [(name, cell)] := by
  rw [assigned, Cell.texts_ofTexts, ok_bind, assignedTexts]
  simp only [List.mapM_cons, List.mapM_nil, h.named, h.expressionText_eq_ok now qualifier hwide hcell hencode hplain,
    ok_bind, pure_eq_ok]
  rfl

/-- The row that the assignment puts in the place of another is the same row. -/
theorem SetsItself.eq_of_assigns (h : SetsItself s name name' column i) (hwide : row.length = s.columns.length)
    (hcell : row[i]? = some cell) (hencode : encode column.type column.choices cell = .ok cell)
    (hplain : SpelledPlainly column.type cell) {row' : List String}
    (hassigns : Assigns now s [(name, .column qualifier name')] row row') : row' = row := by
  obtain ⟨-, hassigned, hothers⟩ := hassigns
  obtain ⟨j, column', text, cell', hj, hcolumn', htext, hstored, hcell'⟩ := hassigned _ List.mem_cons_self
  obtain rfl : i = j := Option.some.inj (h.position.symm.trans hj)
  obtain rfl : column = column' := Option.some.inj (h.named.symm.trans hcolumn')
  rw [h.expressionText_eq_ok now qualifier hwide hcell hencode hplain, Except.ok.injEq] at htext
  subst htext
  rw [hencode, Except.ok.injEq] at hstored
  subst hstored
  refine List.ext_getElem? fun k => ?_
  by_cases hk : k = i
  · rw [hk, hcell', hcell]
  · refine hothers k fun assignment hassignment => ?_
    rw [List.mem_singleton.1 hassignment, h.position]
    exact fun heq => hk (Option.some.inj heq).symm

/-- A row with one of its own cells is the same row. -/
theorem onRow_self (hposition : s.position? name = some i) (hcell : row[i]? = some cell) :
    (Database.RowInput.named [(name, cell)]).onRow s (Cell.ofTexts row) = .ok row := by
  obtain ⟨hi, rfl⟩ := List.getElem?_eq_some_iff.1 hcell
  have hset : (Cell.ofTexts row).set i (.text row[i]) = Cell.ofTexts row := by
    rw [Cell.ofTexts, ← List.map_set, List.set_getElem_self]
  simp only [Database.RowInput.onRow, Database.assignCells, hposition, hset, ok_bind, Cell.texts_ofTexts]

/-- Putting a row in its own place fails for no type. -/
theorem updateRow_self_takesTypes (h : db.Reachable) (now : Timestamp) (ht : db.table? name₀ = some t)
    (hrows : t.Holds rows) (hrow : rows[k]? = some row) (hposition : t.schema.position? name = some i)
    (hcell : row[i]? = some cell) :
    TakesTypes (db.answer (.updateRow now name₀ k (.named [(name, cell)]))).1 := by
  have hstanding : t.schema.Standing row := by
    obtain ⟨rows', hrows', hstanding⟩ := (h.consistent.fit _ (Database.mem_of_table? ht)).rows _ hrows.content
    obtain rfl := hrows.unique hrows'
    exact hstanding row (List.mem_of_getElem? hrow)
  have htakes : TakesTypes (db.replacement now name₀ k (.named [(name, cell)])) := by
    refine Database.replacement_takesTypes fun t' content j old htable hat => ⟨row, ?_, ?_⟩
    all_goals obtain rfl : t = t' := Option.some.inj (ht.symm.trans (Database.table_eq_ok.1 htable))
    · -- the row at the position is the one that was given
      obtain rfl : k = j := Int.ofNat.inj (Database.rowAt_position hat)
      obtain ⟨hcontent, hat⟩ := Database.rowAt_eq_ok hat
      rw [hrows.content, Option.some.injEq] at hcontent
      subst hcontent
      obtain ⟨old, hold, rfl⟩ := Table.getElem?_map_ofTexts.1 hat
      obtain rfl : row = old := Option.some.inj (hrow.symm.trans hold)
      exact onRow_self hposition hcell
    · exact hstanding.encoded
  have hself : db.answer (.updateRow now name₀ k (.named [(name, cell)]))
      = (db.upon db.directory).answer (.updateRow now name₀ k (.named [(name, cell)])) := rfl
  rw [hself]
  cases hreplacement : db.replacement now name₀ k (.named [(name, cell)]) with
  | error failure =>
    rw [Database.updateRow_refused hreplacement]
    exact .error (htakes failure hreplacement)
  | ok checked =>
    obtain ⟨t', content, j, row'⟩ := checked
    obtain ⟨hk, -, rows', -, -, -, -, rfl, -⟩ := Database.replacement_eq_ok h.consistent hreplacement
    obtain rfl : k = j := Int.ofNat.inj hk
    rw [Database.updateRow_made hreplacement]
    exact fun failure hfailed => (Database.make_put_failsOnly _ _ _ failure hfailed).not_forType

/-- A step that leaves the rows as they are, whether it is made or not. -/
theorem updateRow_self (h : db.Reachable) (hsets : SetsItself t₀.schema name name' column i)
    (qualifier : Option String) (ht : db.table? t₀.schema.name = some t) (hcarries : Carries now t₀ t rows)
    (hrow : rows[k]? = some row) (hcell : row[i]? = some cell) (hplain : SpelledPlainly column.type cell) :
    assigned now t₀.schema [(name, .column qualifier name')] (Cell.ofTexts row) = .ok [(name, cell)] ∧
      ∃ t', Carries now t₀ t' rows ∧
        ∀ other, (db.answer (.updateRow now t₀.schema.name k (.named [(name, cell)]))).2.table? other
          = if keyOf other = keyOf t₀.schema.name then some t' else db.table? other := by
  have hwide : row.length = t₀.schema.columns.length := by
    rw [← hcarries.columns]
    exact hcarries.holds.wide row (List.mem_of_getElem? hrow)
  have hencode : encode column.type column.choices cell = .ok cell := by
    obtain ⟨rows', hrows', hstanding⟩ := (h.consistent.fit _ (Database.mem_of_table? ht)).rows _ hcarries.holds.content
    obtain rfl := hcarries.holds.unique hrows'
    have hat : t.schema.columns[i]? = some column := by rw [hcarries.columns, hsets.columnAt]
    obtain ⟨stored, hstored, hencode⟩ := Schema.getElem?_encodeRow (hstanding row (List.mem_of_getElem? hrow)).encoded
      hat hcell
    obtain rfl : cell = stored := Option.some.inj (hcell.symm.trans hstored)
    exact hencode
  have hassigned := hsets.assigned_eq_ok now qualifier hwide hcell hencode hplain
  refine ⟨hassigned, ?_⟩
  cases hanswer : (db.answer (.updateRow now t₀.schema.name k (.named [(name, cell)]))).1 with
  | error failure =>
    have hstep : (Step.updateRow now t₀.schema.name k (.named [(name, cell)])).OnRow := trivial
    have htables := hstep.tables_of_error h.consistent hanswer
    refine ⟨t, hcarries, fun other => ?_⟩
    rw [Database.table?_of_tables_eq htables]
    split
    · rename_i hkey
      rw [Database.table?, hkey]
      exact ht
    · rfl
  | ok =>
    have hdistinct : Distinct [(name, Expr.column qualifier name')] := List.nodup_singleton _
    obtain ⟨row', t', hassigns, hcarries', hlookup⟩ :=
      updateRow_assigns h hdistinct ht hcarries hrow hassigned hanswer
    obtain rfl := hsets.eq_of_assigns hwide hcell hencode hplain hassigns
    have hsame : rows.set k row' = rows := by
      obtain ⟨hlt, rfl⟩ := List.getElem?_eq_some_iff.1 hrow
      exact List.set_getElem_self hlt
    rw [hsame] at hcarries'
    exact ⟨t', hcarries', hlookup⟩

/-! ## Row by row -/

/-- How an update ends that has put some rows in their own places: all of them, or up to one that is rejected for
another reason than its type. -/
inductive EndsWhole (db : Database) (now : Timestamp) (s : Schema) (name : String) (i : Nat)
    (rows : List (List String)) : Except Failure Result → Prop where
  | all (n : Nat) : EndsWhole db now s name i rows (.ok (.changed n))
  | rejected {k n : Nat} {row : List String} {cell : String} {cause : Rejection} (hrow : rows[k]? = some row)
      (hcell : row[i]? = some cell) (hcause : cause.kind ≠ .typeMismatch)
      (hrejected : (db.updateRow now s.name k (.named [(name, cell)])).1 = .error (.rejection cause)) :
      EndsWhole db now s name i rows (.ok (.stopped n cause.message))
  | failed {failure : Failure} (h : ¬ failure.ForType) : EndsWhole db now s name i rows (.error failure)

/-- An update of rows to themselves leaves all of them as they are, however it ends. -/
theorem makeSteps_self (h : db.Reachable) (hsets : SetsItself t₀.schema name name' column i)
    (ht : db.table? t₀.schema.name = some t) (hcarries : Carries now t₀ t rows) {positions : List Nat}
    {old : Nat → List Cell}
    (hold : ∀ k ∈ positions, ∃ row cell, rows[k]? = some row ∧ old k = Cell.ofTexts row ∧ row[i]? = some cell ∧
      SpelledPlainly column.type cell) {count : Nat} {outcome : Except Failure Result} {db' : Database}
    (hmade : makeSteps count
      (positions.map fun k => replacement now t₀.schema [(name, .column qualifier name')] (k, old k)) db
        = (outcome, db')) :
    ∃ t', db'.table? t₀.schema.name = some t' ∧ Carries now t₀ t' rows ∧
      (∀ other, keyOf other ≠ keyOf t₀.schema.name → db'.table? other = db.table? other) ∧
        EndsWhole db' now t₀.schema name i rows outcome := by
  induction positions generalizing db t count with
  | nil =>
    cases hmade
    exact ⟨t, ht, hcarries, fun _ _ => rfl, .all count⟩
  | cons k positions ih =>
    rw [List.forall_mem_cons] at hold
    obtain ⟨⟨row, cell, hrow, hcells, hcell, hplain⟩, hold⟩ := hold
    obtain ⟨hassigned, t₁, hcarries₁, hlookup⟩ :=
      updateRow_self h hsets qualifier ht hcarries hrow hcell hplain
    have hposition : t.schema.position? name = some i :=
      (Schema.position?_of_columns_eq hcarries.columns name).trans hsets.position
    have htakes := updateRow_self_takesTypes h now ht hcarries.holds hrow hposition hcell
    have hstep : (Step.updateRow now t₀.schema.name k (.named [(name, cell)])).OnRow := trivial
    have hreachable := hstep.reachable h
    have hunchanged : ∀ cause, (db.answer (.updateRow now t₀.schema.name k (.named [(name, cell)]))).1
        = .error (.rejection cause) → (db.answer (.updateRow now t₀.schema.name k (.named [(name, cell)]))).2 = db :=
      fun _ => hstep.eq_of_rejected h.consistent
    rw [List.map_cons, makeSteps] at hmade
    simp only [replacement, hcells, hassigned, ok_bind, pure_eq_ok] at hmade
    generalize hanswer : db.answer (.updateRow now t₀.schema.name k (.named [(name, cell)])) = answered
      at hmade hreachable htakes hlookup hunchanged
    obtain ⟨answer, db₁⟩ := answered
    have ht₁ : db₁.table? t₀.schema.name = some t₁ := (hlookup _).trans (if_pos rfl)
    have hothers : ∀ other, keyOf other ≠ keyOf t₀.schema.name → db₁.table? other = db.table? other :=
      fun other hother => (hlookup other).trans (if_neg hother)
    cases answer with
    | ok =>
      obtain ⟨t', ht', hcarries', hothers', hends⟩ := ih hreachable ht₁ hcarries₁ hold hmade
      exact ⟨t', ht', hcarries', fun other hother => (hothers' other hother).trans (hothers other hother), hends⟩
    | error failure =>
      cases failure with
      | rejection cause =>
        obtain rfl : db₁ = db := hunchanged cause rfl
        cases hmade
        refine ⟨t₁, ht₁, hcarries₁, hothers, .rejected hrow hcell (htakes _ rfl) ?_⟩
        exact Database.Outcome.error_of_done (congrArg Prod.fst hanswer)
      | refusal | fault =>
        cases hmade
        exact ⟨t₁, ht₁, hcarries₁, hothers, .failed (htakes _ rfl)⟩

/-- The cell of a column in a row that a condition selects. -/
theorem exists_cell_of_selected (hrows : t.Holds rows) (hposition : t.schema.position? name = some i)
    {condition : Option Condition} (hplain : ∀ row ∈ rows, selects now t.schema condition row = true →
      ∀ cell ∈ row[i]?, SpelledPlainly column.type cell) (hk : k < t.rows.length)
    (htrue : ∀ c ∈ condition, Plan.truth now t.schema t.rows c k = .ok (some true)) :
    ∃ row cell, rows[k]? = some row ∧ t.rows.getD k [] = Cell.ofTexts row ∧ row[i]? = some cell ∧
      SpelledPlainly column.type cell := by
  rw [hrows.rows_eq, List.length_map] at hk
  have hrow := List.getElem?_eq_getElem hk
  have hselects := (any_selects_iff hrows hk).2 htrue
  rw [hrow, Option.any_some] at hselects
  have hmem := List.getElem_mem hk
  have hwide : i < rows[k].length := by
    rw [hrows.wide _ hmem]
    exact Schema.position?_lt hposition
  have hcell := List.getElem?_eq_getElem hwide
  exact ⟨rows[k], _, hrow, hrows.getD_rows hrow, hcell, hplain _ hmem hselects _ hcell⟩

end Execution

/-! ## The whole statement -/

namespace Session

open Execution

/-- A text that a column of no real numbers has stored is written as it is exactly if it is spelled plainly. So an
UPDATE that sets the column to itself leaves all rows as they are, and rejects none for its type, if the cells of the
column are spelled plainly in the rows that it selects. -/
theorem execute_self {column : Column} (hreal : column.type.kind ≠ .real) :
    (∀ {text stored : String}, encode column.type column.choices text = .ok stored → isNullText text = false →
      ((Value.ofText column.type stored).toText = stored ↔ SpelledPlainly column.type stored)) ∧
    ∀ {session after : Session} {now : Timestamp} {statement : Sql.Update} {name name' : String}
      {qualifier : Option String} {t : Table} {rows : List (List String)} {i : Nat} {outcome : Except Failure Result},
      session.database.Reachable → statement.assignments = [(name, .column qualifier name')] →
      lower name' = lower name → session.database.table? statement.table = some t → t.rows = rows.map Cell.ofTexts →
      t.schema.position? name = some i → t.schema.column? name = some column →
      (∀ condition, clauseCondition statement.condition = .ok condition → ∀ row ∈ rows,
        selects now t.schema condition row = true → ∀ cell ∈ row[i]?, SpelledPlainly column.type cell) →
      session.execute now (.update statement) = (outcome, after) →
        (∃ t', after.database.table? statement.table = some t' ∧ t'.rows = t.rows) ∧
        (∀ other, keyOf other ≠ keyOf statement.table →
          after.database.table? other = session.database.table? other) ∧
        ((∃ failure, rowsToUpdate session.database now statement = .error failure ∧ outcome = .error failure) ∨
          EndsWhole after.database now t.schema name i rows outcome) := by
  refine ⟨fun h hpresent => Value.toText_stored_iff hreal h hpresent, ?_⟩
  intro session after now statement name name' qualifier t rows i outcome h hassignments hname ht hrows hposition
    hcolumn hplain hexecute
  rw [execute_eq rfl] at hexecute
  cases hfound : rowsToUpdate session.database now statement with
  | error failure =>
    have hsteps : rowSteps session.database now (.update statement) = .error failure := by
      rw [rowSteps, hfound]
      rfl
    rw [hsteps] at hexecute
    cases hexecute
    exact ⟨⟨t, ht, rfl⟩, fun _ _ => rfl, .inl ⟨failure, rfl, rfl⟩⟩
  | ok found =>
    have hsteps : rowSteps session.database now (.update statement)
        = .ok (found.2.map (replacement now found.1 statement.assignments)) := by
      rw [rowSteps, hfound]
      rfl
    obtain ⟨t', condition, ids, ht', hcondition, -, hids, hattempts⟩ := rowSteps_update_eq_ok h hsteps
    obtain rfl : t = t' := Option.some.inj (ht.symm.trans ht')
    rw [hsteps, hattempts, hassignments] at hexecute
    obtain ⟨hmade, hafter⟩ := Prod.mk.inj hexecute
    have hfit := h.consistent.fit _ (Database.mem_of_table? ht)
    have hkey : keyOf t.schema.name = keyOf statement.table := h.consistent.keyOf_name (Database.mem_of_table? ht)
    have hsets : SetsItself t.schema name name' column i := ⟨hfit.wellFormed, hname, hposition, hcolumn, hreal⟩
    obtain ⟨rows', hrows', hholds⟩ := exists_rows h ht
    obtain rfl : rows = rows' :=
      List.map_injective_iff.2 (fun _ _ => Cell.ofTexts_injective) (hrows.symm.trans hrows')
    rcases hholds with hholds | rfl
    · have hold : ∀ k ∈ ids, ∃ row cell, rows[k]? = some row ∧ t.rows.getD k [] = Cell.ofTexts row ∧
          row[i]? = some cell ∧ SpelledPlainly column.type cell := fun k hk =>
        exists_cell_of_selected hholds hposition (hplain condition hcondition) ((hids k).1 hk).1 ((hids k).1 hk).2
      obtain ⟨t', ht', hcarries, hothers, hends⟩ :=
        makeSteps_self h hsets (table?_name h ht) ⟨hholds, .inl rfl⟩ hold (Prod.ext hmade rfl)
      rw [Database.table?, hkey] at ht'
      rw [hkey] at hothers
      rw [← hafter]
      exact ⟨⟨t', ht', hcarries.holds.rows_eq.trans hrows.symm⟩, hothers, .inr hends⟩
    · -- there is no row to be updated
      obtain rfl : ids = [] := List.eq_nil_iff_forall_not_mem.2 fun k hk =>
        absurd ((hids k).1 hk).1 (by simp [hrows])
      rw [← hafter, ← hmade]
      exact ⟨⟨t, ht, rfl⟩, fun _ _ => rfl, .inr (.all 0)⟩

/-! ## Days of events -/

namespace Event

open Database.Label (moment)

/-- The day of an event. -/
def dayColumn : Column :=
  { name := "day", type := .date }

/-- A table of events. -/
def schema : Schema :=
  { Database.Label.schema with name := "event", columns := [dayColumn] }

theorem declared : schema.Declared := by
  have hname : Schema.create "event" "" false moment = .ok { schema with columns := [] } := by decide +kernel
  have hday : dayColumn.declare = .ok dayColumn := by decide +kernel
  have hcolumn : ({ schema with columns := [] } : Schema).addColumn dayColumn = .ok schema := by decide +kernel
  exact (Schema.Declared.create hname).addColumn hday hcolumn

/-- A session on a database with one event. -/
def session (day : String) : Session :=
  ofDatabase (((Database.empty none).addTable moment schema).2.insertRow moment "event" (.cells [day])).2

theorem reachable (day : String) : (session day).database.Reachable :=
  ((Database.Reachable.empty none).move (.addTable moment declared ⟨rfl, by decide⟩)).move
    (.insertRow moment "event" (.cells [day]))

/-- The day of every event is set to itself. -/
def itself : Sql.Update :=
  ⟨"event", [("day", .column (some "event") "Day")], none⟩

end Event

/-- A day of this millennium is set to itself. -/
theorem event_day_kept :
    (Value.ofText Event.dayColumn.type "2024-02-29").toText = "2024-02-29" ∧
      ∃ t', ((Event.session "2024-02-29").execute Database.Label.moment (.update Event.itself)).2.database.table?
        "event" = some t' ∧ t'.rows = [[.text "2024-02-29"]] := by
  have hreal : Event.dayColumn.type.kind ≠ .real := by decide
  have hstored : encode Event.dayColumn.type Event.dayColumn.choices " 2024-02-29" = .ok "2024-02-29" := by
    decide +kernel
  constructor
  · exact ((execute_self hreal).1 hstored (by decide +kernel)).2 (by decide +kernel)
  have htable : (Event.session "2024-02-29").database.table? Event.itself.table
      = some (storedTable Event.schema [["2024-02-29"]] Database.Label.moment) := by decide +kernel
  have hassignments : Event.itself.assignments = [("day", .column (some "event") "Day")] := rfl
  have hposition : Event.schema.position? "day" = some 0 := by decide +kernel
  have hcolumn : Event.schema.column? "day" = some Event.dayColumn := by decide +kernel
  have hexecute : (Event.session "2024-02-29").execute Database.Label.moment (.update Event.itself)
      = (_, ((Event.session "2024-02-29").execute Database.Label.moment (.update Event.itself)).2) := rfl
  obtain ⟨⟨t', ht', hrows⟩, -, -⟩ := (execute_self hreal).2 (Event.reachable "2024-02-29") hassignments
    (by decide +kernel) htable rfl hposition hcolumn (fun condition hcondition row hrow hselects cell hcell => by
      obtain rfl := List.mem_singleton.1 hrow
      cases hcell
      decide +kernel) hexecute
  exact ⟨t', ht', hrows⟩

/-- A day of the first millennium is a value of its column, and written as a text that is none. -/
theorem early_day_rejected : encode .date [] "0999-01-01" = .ok "0999-01-01" ∧ isNullText "0999-01-01" = false ∧
    (Value.ofText .date "0999-01-01").toText = "999-01-01" ∧ (Event.session "0999-01-01").database.Reachable ∧
      ((Event.session "0999-01-01").execute Database.Label.moment (.update Event.itself)).1
        = .ok (.stopped 0 "Column 'day': Invalid value '999-01-01' for type DATE") := by
  refine ⟨?_, ?_, ?_, Event.reachable _, ?_⟩ <;> decide +kernel

end Session

end Relational
