import Relational.Proofs.Database.StoredRows
import Relational.Proofs.Schema.CheckLevels

/-!
# Rows that meet the conditions of their table

Every row of a table was accepted when it was put in. A condition of the table that does not read the clock was not
false then, and so never is. A condition of a column was not looked at if the column is NULL, and is false of such a row
if it is false of NULL.
-/

namespace Relational

open Text

/-! ## Rows that were accepted -/

/-- The checks of a row depend on the rules of the table only. -/
theorem Schema.SameRules.validateRow {s s' : Schema} (h : s.SameRules s') (now : Timestamp) (row : List String) :
    s.validateRow now row = s'.validateRow now row :=
  validateRow_of_demands h.demands now row

/-- A row that stands in a table, and was accepted as it is at some moment. -/
def Schema.Accepted (s : Schema) (row : List String) : Prop :=
  s.Standing row ∧ ∃ now, s.validateRow now row = .ok ()

theorem Schema.SameRules.accepted {s s' : Schema} (h : s.SameRules s') {row : List String} (hrow : s.Accepted row) :
    s'.Accepted row := by
  obtain ⟨hstanding, now, hvalid⟩ := hrow
  refine ⟨h.standing hstanding, now, ?_⟩
  rw [← h.validateRow, hvalid]

theorem Schema.storedRow_accepted {s : Schema} {now : Timestamp} {row stored : List String}
    (h : Database.storedRow s now row = .ok stored) : s.Accepted stored := by
  obtain ⟨hvalid, hencode⟩ := storedRow_ok h
  exact ⟨storedRow_standing h, now, validateRow_stored hvalid (encodeRow_eq_ok.1 hencode) (length_storedRow h)⟩

/-- Each row was accepted. -/
def RowInvariant.acceptedRows : RowInvariant where
  holds := fun s rows => ∀ row ∈ rows, s.Accepted row
  nil := fun _ _ h => (List.not_mem_nil h).elim
  standing := fun h row hrow => (h row hrow).1
  sameRules := fun hsame h row hrow => hsame.accepted (h row hrow)
  indexed := by
    intro s s' rows index columns unique hindex _ h row hrow
    obtain ⟨hstanding, now, hvalid⟩ := h row hrow
    refine ⟨Schema.standing_addIndex hindex hstanding, now, ?_⟩
    -- an index is not looked at when a row is checked
    obtain ⟨-, -, key, -, rfl⟩ := Schema.addIndex_eq_ok.1 hindex
    exact hvalid

namespace Database

theorem Exchanges.accepted {s : Schema} {now : Timestamp} {rows rows' : List (List String)}
    (h : Exchanges s now rows rows') (hrows : ∀ row ∈ rows, s.Accepted row) : ∀ row ∈ rows', s.Accepted row := by
  cases h with
  | inserted hstored =>
    rw [List.forall_mem_append, List.forall_mem_singleton]
    exact ⟨hrows, Schema.storedRow_accepted hstored⟩
  | updated hi hstored =>
    intro row hrow
    rcases List.mem_or_eq_of_mem_set hrow with hrow | rfl
    · exact hrows row hrow
    · exact Schema.storedRow_accepted hstored
  | deleted i => exact fun row hrow => hrows row (List.mem_of_mem_eraseIdx hrow)

/-- In every database that is reached, each row was accepted when it was put in. -/
theorem Reachable.acceptedRows {db : Database} (h : db.Reachable) : db.Consistent .acceptedRows := by
  induction h with
  | empty path => exact .empty path
  | move _ hmove ih =>
    refine hmove.consistent ih ?_
    intro entry _ now rows rows' _ hkeeps hexchanges s hsame _
    exact RowInvariant.acceptedRows.sameRules hsame (hexchanges.accepted hkeeps)

end Database

/-! ## Their conditions -/

namespace Schema

/-- No condition without the clock is ever false of the row, but for those of columns that are NULL. -/
structure ChecksHold (s : Schema) (row : List String) : Prop where
  table : ∀ check ∈ s.checks, ∀ c, Condition.compile check.2 = .ok c →
    c.readsClock (s.columns.map fun column => lower column.name) = false →
    ∀ now, c.evaluate (s.rowScope now row) ≠ .ok (some false)
  column : ∀ cell ∈ s.columns.zip row, ∀ text ∈ cell.1.check, ∀ c, Condition.compile text = .ok c →
    c.readsClock (s.columns.map fun column => lower column.name) = false → cell.2 ≠ nullText →
    ∀ now, c.evaluate (cell.1.scope now (s.rowValues row) cell.2) ≠ .ok (some false)

theorem evaluate_ne_false {text : String} {c : Condition} {scope : Scope} (hc : Condition.compile text = .ok c)
    (h : checkCondition text scope = .ok ()) : c.evaluate scope ≠ .ok (some false) := by
  intro hfalse
  simp [checkCondition, hc, hfalse] at h

/-- NULL is stored as its own text. -/
theorem Standing.map_plainNull {s : Schema} {row : List String} (h : s.Standing row) : row.map plainNull = row := by
  have hcells : ∀ text ∈ row, plainNull text = text := by
    intro text htext
    obtain ⟨i, hi, rfl⟩ := List.getElem_of_mem htext
    have hcolumn : i < s.columns.length := h.wide ▸ hi
    have hcell : (s.columns[i], row[i]) ∈ s.columns.zip row := by
      rw [List.mem_iff_getElem]
      exact ⟨i, List.length_zip ▸ Nat.lt_min.2 ⟨hcolumn, hi⟩, List.getElem_zip⟩
    have hencode := encode_of_encodeRow h.encoded _ hcell
    unfold plainNull
    split
    · rename_i hnull
      rcases encode_eq_ok.1 hencode with ⟨-, hstored⟩ | ⟨hpresent, -⟩
      · exact hstored.symm
      · rw [hnull] at hpresent
        cases hpresent
    · rfl
  rw [List.map_congr_left hcells, List.map_id']

theorem Accepted.checksHold {s : Schema} {row : List String} (h : s.Accepted row) : s.ChecksHold row := by
  obtain ⟨hstanding, now₀, hvalid⟩ := h
  obtain ⟨hwidth, hcells, -, hchecks⟩ := validateRow_eq_ok.1 hvalid
  rw [hstanding.map_plainNull] at hcells hchecks
  have hfinds : ∀ name ∈ s.columns.map (fun column => lower column.name),
      ((s.rowValues row).lookup name).isSome = true := fun name hname => isSome_lookup_rowValues hwidth hname
  constructor
  case table =>
    intro check hcheck c hc hfree now
    have hthen : c.evaluate (s.rowScope now₀ row) ≠ .ok (some false) := evaluate_ne_false hc (hchecks check hcheck)
    have hsame : c.evaluate (s.rowScope now row) = c.evaluate (s.rowScope now₀ row) :=
      Condition.evaluate_clockFree (fun name hname => hfinds _ hname) now now₀ hfree
    rw [hsame]
    exact hthen
  case column =>
    intro cell hcell text htext c hc hfree hpresent now
    have hnull : isNullText cell.2 = false := by
      rw [← Bool.not_eq_true]
      intro hnull
      rcases encode_eq_ok.1 (encode_of_encodeRow hstanding.encoded cell hcell) with ⟨-, hstored⟩ | ⟨hnot, -⟩
      · exact hpresent hstored
      · rw [hnull] at hnot
        cases hnot
    have hvalue := ((Column.validate_eq_ok_of_present hnull).1 (hcells cell hcell)).2
    rw [Column.checkValue_eq htext hc] at hvalue
    have hsame : c.evaluate (cell.1.scope now (s.rowValues row) cell.2)
        = c.evaluate (cell.1.scope now₀ (s.rowValues row) cell.2) := by
      refine Condition.evaluate_clockFree (fun name hname => ?_) now now₀ hfree
      exact isSome_lookup_cons (isSome_lookup_cons (hfinds _ hname))
    rw [hsame]
    exact evaluate_ne_false hc hvalue

end Schema

/-! ## Conditions of both levels -/

namespace Database

theorem Reachable.checksHold {db : Database} (h : db.Reachable) {s : Schema} {cells : List (List Cell)}
    (hshows : db.Shows s cells) {row : List Cell} (hrow : row ∈ cells) :
    ∃ texts, row = Cell.ofTexts texts ∧ s.ChecksHold texts := by
  obtain ⟨rows, rfl, haccepted⟩ := h.acceptedRows.holds_shown hshows
  obtain ⟨texts, htexts, rfl⟩ := List.mem_map.1 hrow
  exact ⟨texts, rfl, (haccepted texts htexts).checksHold⟩

/-- A condition that names one column lets the same rows pass whether it is declared for the column or for the table,
but for those that pass without it, in which the column is NULL, and the condition is false of NULL or fails on it. So
of the rows of a table that is reached, no condition is ever false, but for those of columns that are NULL. -/
theorem check_levels (s : Schema) (i : Nat) (column : Column) (text : String) (c : Condition) :
    (s.WellFormed → s.columns[i]? = some column → column.check = none → Condition.compile text = .ok c →
      c.NamesOnly column.name → ∀ (k : Nat) (name : String) (now : Timestamp) (row : List String),
        ((s.withColumnCheck i text).validateRow now row = .ok () ↔
            (s.withTableCheck k name text).validateRow now row = .ok ()) ↔
          ¬ (s.validateRow now row = .ok () ∧ (∃ cell, row[i]? = some cell ∧ isNullText cell = true) ∧
            checkCondition text (column.nullScope now) ≠ .ok ())) ∧
    ∀ db : Database, db.Reachable → ∀ t cells, db.Shows t cells → ∀ row ∈ cells,
      ∃ texts, row = Cell.ofTexts texts ∧ t.ChecksHold texts := by
  constructor
  · intro hs hcolumn hnone hc honly k name now row
    exact Schema.validateRow_levels_iff hs hcolumn hnone hc honly k name
  · intro db h t cells hshows row hrow
    exact h.checksHold hshows hrow

/-! ## A label without a kind -/

namespace Label

/-- The kind of a label, which is to be given. -/
def kindRequired : Column :=
  kindColumn.withCheck "kind IS NOT NULL"

/-- A table of labels with a condition for a column and one for the table. -/
def checkedSchema : Schema :=
  { schema with columns := [numberColumn, kindRequired], checks := [("numbered", "number > 0")] }

theorem checked_declared : checkedSchema.Declared := by
  have hname : Schema.create "label" "" false moment = .ok { schema with columns := [] } := by decide +kernel
  have hnumber : numberColumn.declare = .ok numberColumn := by decide +kernel
  have hkind : kindRequired.declare = .ok kindRequired := by decide +kernel
  have hone : ({ schema with columns := [] } : Schema).addColumn numberColumn
      = .ok { schema with columns := [numberColumn] } := by decide +kernel
  have htwo : ({ schema with columns := [numberColumn] } : Schema).addColumn kindRequired
      = .ok { schema with columns := [numberColumn, kindRequired] } := by decide +kernel
  have hcheck : ({ schema with columns := [numberColumn, kindRequired] } : Schema).addCheck "numbered" "number > 0"
      = .ok checkedSchema := by decide +kernel
  exact (((Schema.Declared.create hname).addColumn hnumber hone).addColumn hkind htwo).addCheck hcheck

/-- A database with a label that has no kind. -/
def kindless : Database :=
  (((empty none).addTable moment checkedSchema).2.insertRow moment "label" (.cells ["7", "null"])).2

theorem kindless_reachable : kindless.Reachable :=
  ((Reachable.empty none).move (.addTable moment checked_declared ⟨rfl, by decide⟩)).move
    (.insertRow moment "label" (.cells ["7", "null"]))

theorem kindless_shows : kindless.Shows (stamped checkedSchema [[.text "7", .text "NULL"]] moment)
    [[.text "7", .text "NULL"]] := by
  left
  decide +kernel

theorem compile_kindRequired : Condition.compile "kind IS NOT NULL" = .ok (.isNull true (.column none "kind")) := by
  with_unfolding_all rfl

end Label

/-- The condition on the kind is looked at if there is a kind, and the condition of the table holds of the label. -/
theorem label_levels :
    ((Label.schema.withColumnCheck 1 "kind IS NOT NULL").validateRow Label.moment ["7", "x"] = .ok () ↔
      (Label.schema.withTableCheck 0 "kinds" "kind IS NOT NULL").validateRow Label.moment ["7", "x"] = .ok ()) ∧
    ∃ texts, [Cell.text "7", Cell.text "NULL"] = Cell.ofTexts texts ∧
      (stamped Label.checkedSchema [[.text "7", .text "NULL"]] Label.moment).ChecksHold texts := by
  have hlevels := check_levels Label.schema 1 Label.kindColumn "kind IS NOT NULL" (.isNull true (.column none "kind"))
  constructor
  · rw [hlevels.1 Label.declared.wellFormed rfl rfl Label.compile_kindRequired
      (by simp [Condition.NamesOnly, Condition.readings, Expr.readings, Label.kindColumn])]
    have hkind : ¬ ∃ cell, ["7", "x"][1]? = some cell ∧ isNullText cell = true := by decide +kernel
    exact fun h => hkind h.2.1
  · exact hlevels.2 Label.kindless Label.kindless_reachable _ _ Label.kindless_shows _ (by simp)

/-- A column does not look at its condition if it is NULL: it takes a label without a kind, of which the table would say
that the condition is false, and so there is a stored row of which a condition is false. -/
theorem label_kind_missing :
    (Label.schema.withColumnCheck 1 "kind IS NOT NULL").validateRow Label.moment ["7", "NULL"] = .ok () ∧
    (Label.schema.withTableCheck 0 "kinds" "kind IS NOT NULL").validateRow Label.moment ["7", "NULL"]
      = .error (.rejection (.check "kind IS NOT NULL" none)) ∧
    Label.kindless.Reachable ∧
    Label.kindless.Shows (stamped Label.checkedSchema [[.text "7", .text "NULL"]] Label.moment)
      [[.text "7", .text "NULL"]] ∧
    (Condition.isNull true (.column none "kind")).evaluate (Label.kindRequired.scope Label.moment
      (Label.checkedSchema.rowValues ["7", "NULL"]) "NULL") = .ok (some false) :=
  ⟨by decide +kernel, by decide +kernel, Label.kindless_reachable, Label.kindless_shows, by decide +kernel⟩

end Database

end Relational
