import Relational.Proofs.Database.CheckedRows
import Relational.Proofs.Database.Demands
import Relational.Proofs.Declares
import Relational.Proofs.Reload

/-!
# Tables that keep what a text declares

A CREATE TABLE that succeeds adds a table that asks what remains of the rules in its text, and as long as the table
stands it takes no row of which one of these conditions is false. But a column has one place for a condition and one
for a reference: where its definition holds several, the last one takes the place of the others, and nobody is told.
-/

namespace Relational

open Database (Retains)
open Relation (ReflTransGen)
open Sql (Rule)
open Text

/-! ## Rows of which a condition is false -/

namespace Schema

variable {s s' : Schema} {now : Timestamp} {row : List String} {rule : Rule}

/-- The rule is a condition that is false of the row. The one of a column also sees the value of the column as
`value`. -/
def Breaks (s : Schema) (now : Timestamp) (row : List String) : Rule → Prop
  | .check none condition =>
    ∃ c, Condition.compile condition = .ok c ∧ c.evaluate (s.rowScope now row) = .ok (some false)
  | .check (some name) condition => ∃ c, Condition.compile condition = .ok c ∧ ∃ cell ∈ s.columns.zip row,
    lower cell.1.name = lower name ∧ c.evaluate (cell.1.scope now (s.rowValues row) cell.2) = .ok (some false)
  | _ => False

theorem breaks_of_demands (h : s.demands = s'.demands) (hbreaks : s.Breaks now row rule) : s'.Breaks now row rule := by
  obtain ⟨⟩ := s
  obtain ⟨⟩ := s'
  simp only [demands, Demands.mk.injEq] at h
  obtain ⟨rfl, rfl, rfl, rfl⟩ := h
  exact hbreaks

/-- The conditions of a table, and of its columns, are all that it asks of this kind. -/
theorem in_rules_check {column : Option String} {condition : String} (h : (Rule.check column condition).In s.rules) :
    (column = none ∧ ∃ name, (name, condition) ∈ s.checks) ∨
      ∃ name c, column = some name ∧ c ∈ s.columns ∧ lower c.name = lower name ∧ c.check = some condition := by
  obtain ⟨other, hother, hsame⟩ := h
  simp only [rules, Column.rules, List.mem_append, List.mem_map, List.mem_flatMap, Option.mem_toList] at hother
  rcases hother with (((⟨name, -, rfl⟩ | ⟨key, -, rfl⟩) | ⟨c, hc, hrule | ⟨text, htext, rfl⟩⟩) | ⟨key, -, rfl⟩)
    | ⟨check, hcheck, rfl⟩
  · cases hsame
  · cases hsame
  · split at hrule
    · rw [List.mem_singleton.1 hrule] at hsame
      cases hsame
    · cases hrule
  · simp only [Rule.folded, Rule.check.injEq, Option.map_some] at hsame
    obtain ⟨hname, rfl⟩ := hsame
    obtain ⟨name, rfl, hlower⟩ := Option.map_eq_some_iff.1 hname.symm
    exact .inr ⟨name, c, rfl, hc, hlower.symm, htext⟩
  · cases hsame
  · simp only [Rule.folded, Rule.check.injEq, Option.map_none] at hsame
    obtain ⟨hnone, rfl⟩ := hsame
    exact .inl ⟨Option.map_eq_none_iff.1 hnone.symm, check.1, hcheck⟩

/-- A row without NULL of which a condition is false does not pass. -/
theorem validateRow_ne_ok_of_breaks (hs : s.WellFormed) (hrule : rule.In s.rules)
    (hrow : ∀ text ∈ row, isNullText text = false) (hbreaks : s.Breaks now row rule) :
    s.validateRow now row ≠ .ok () := by
  intro hvalid
  obtain ⟨-, hcells, -, hchecks⟩ := validateRow_eq_ok.1 hvalid
  have hplain : row.map plainNull = row := by
    have hsame : ∀ text ∈ row, plainNull text = text := fun text htext => by simp [plainNull, hrow text htext]
    rw [List.map_congr_left hsame, List.map_id']
  rw [hplain] at hcells hchecks
  cases rule with
  | check column condition =>
    cases column with
    | none =>
      obtain ⟨c, hc, hfalse⟩ := hbreaks
      rcases in_rules_check hrule with ⟨-, name, hcheck⟩ | ⟨name, d, hcolumn, -⟩
      · have hpassed : checkCondition condition (s.rowScope now row) = .ok () := hchecks (name, condition) hcheck
        exact evaluate_ne_false hc hpassed hfalse
      · cases hcolumn
    | some column =>
      obtain ⟨c, hc, cell, hcell, hname, hfalse⟩ := hbreaks
      rcases in_rules_check hrule with ⟨hcolumn, -⟩ | ⟨name, d, hcolumn, hd, hname', hcheck⟩
      · cases hcolumn
      · -- the names of columns differ, so it is the condition of this cell
        cases hcolumn
        obtain ⟨hmem, htext⟩ := List.of_mem_zip hcell
        obtain rfl : d = cell.1 := List.inj_on_of_nodup_map hs.columnsDiffer hd hmem (hname'.trans hname.symm)
        have hvalue := ((Column.validate_eq_ok_of_present (hrow _ htext)).1 (hcells cell hcell)).2
        rw [Column.checkValue_eq hcheck hc] at hvalue
        exact evaluate_ne_false hc hvalue hfalse
  | primaryKey column => exact hbreaks
  | unique columns => exact hbreaks
  | notNull column => exact hbreaks
  | reference columns table refColumns => exact hbreaks

end Schema

namespace Database

variable {db : Database} {now : Timestamp} {name : String} {t : Table} {input : RowInput}

/-- A row that does not pass the check of its table is not put in, for the cause that the check has. -/
theorem insertRow_of_error {failure : Failure} (ht : db.table? name = some t)
    (hinvalid : t.schema.validateRow now (input.toRow t.schema) = .error failure) :
    db.insertRow now name input = (.error failure, db) := by
  have hstored : storedRow t.schema now (input.toRow t.schema) = .error failure := by
    rw [storedRow, hinvalid]
    rfl
  simp only [insertRow, table_eq_ok.2 ht, ok_bind, hstored]
  rfl

theorem insertRow_of_invalid (ht : db.table? name = some t)
    (hinvalid : t.schema.validateRow now (input.toRow t.schema) ≠ .ok ()) :
    ∃ failure, db.insertRow now name input = (.error failure, db) := by
  cases hvalid : t.schema.validateRow now (input.toRow t.schema) with
  | ok => exact absurd hvalid hinvalid
  | error failure => exact ⟨failure, insertRow_of_error ht hvalid⟩

/-- As long as a table stands that asks for a rule, no row without NULL is put in of which the rule is a false
condition. -/
theorem insertRow_of_breaks {later : Database} {t' : Table} {rule : Rule} (h : db.Reachable) (ht : db.Stands name t)
    (hrule : rule.In t.schema.rules) (hlater : ReflTransGen (Retains name) db later) (ht' : later.Stands name t')
    (hrow : ∀ text ∈ input.toRow t'.schema, isNullText text = false)
    (hbreaks : t'.schema.Breaks now (input.toRow t'.schema) rule) :
    ∃ failure, later.insertRow now name input = (.error failure, later) := by
  have hsame : t'.schema.demands = t.schema.demands := demands_of_retains h ht hlater ht'
  have hs : t.schema.WellFormed := (h.consistent.fit _ (mem_of_table? ht.1)).wellFormed
  refine insertRow_of_invalid ht'.1 ?_
  rw [Schema.validateRow_of_demands hsame]
  exact Schema.validateRow_ne_ok_of_breaks hs hrule hrow (Schema.breaks_of_demands hsame hbreaks)

end Database

/-! ## Statements -/

namespace Execution

variable {db : Database} {now : Timestamp}

/-- A table that is not there yet stands after it was declared with success. -/
theorem createTable_stands {statement : Sql.CreateTable} {result : Result}
    (hnew : db.hasTable statement.table = false) (hdone : (createTable db now statement).1 = .ok result) :
    ∃ s, schema db now statement = .ok s ∧ (createTable db now statement).2 = (db.addTable now s).2 ∧
      (db.addTable now s).2.Stands statement.table (Database.storedTable s [] now) := by
  cases hs : schema db now statement with
  | error failure => simp [createTable, hnew, hs] at hdone
  | ok s =>
    have hname : s.name = statement.table := schema_name hs
    simp only [createTable, hnew, hs, saying, Bool.false_eq_true, if_false] at hdone ⊢
    refine ⟨s, rfl, rfl, ?_⟩
    rw [← hname] at hnew ⊢
    simp only [Database.addTable, hnew, Bool.false_eq_true, if_false, Schema.noContent_eq] at hdone ⊢
    generalize hsaved : db.persist _ [] = outcome at hdone ⊢
    obtain ⟨written, saved⟩ := outcome
    cases written with
    | error failure => cases hdone
    | ok => exact ⟨lookup_setEntry_self _ _ _, rfl⟩

end Execution

namespace Session

variable {session : Session} {now : Timestamp} {sql : String} {statement : Sql.CreateTable} {result : Result}

/-- A text that is a CREATE TABLE succeeds only if the table is declared. -/
theorem run_createTable (hsql : Sql.parse sql = .ok (.createTable statement))
    (hrun : (session.run now sql).1 = .ok result) (hsuccess : result.success = true) :
    (session.run now sql).2.database = (Execution.createTable session.database now statement).2 ∧
      ∃ answer, (Execution.createTable session.database now statement).1 = .ok answer := by
  have hanswer : session.run now sql = (.ok (reported (Execution.createTable session.database now statement).1),
      { session with database := (Execution.createTable session.database now statement).2 }) := by
    simp only [run, hsql]
    rfl
  rw [hanswer] at hrun ⊢
  cases hdone : (Execution.createTable session.database now statement).1 with
  | ok answer => exact ⟨rfl, answer, rfl⟩
  | error failure =>
    rw [hdone] at hrun
    obtain rfl := Except.ok.inj hrun
    cases failure <;> cases hsuccess

/-- When a CREATE TABLE has declared a new table, the table asks what remains of the rules in the text. As long as it
stands, whatever is asked of the database and happens to its files, no row without NULL is put in of which one of these
is a false condition. -/
theorem createTable_keeps_rules (hsession : session.database.Reachable) (moment : Moment)
    (hsql : Sql.parse sql = .ok (.createTable statement)) (hnew : session.database.hasTable statement.table = false)
    (hrun : (session.run moment.time sql).1 = .ok result) (hsuccess : result.success = true) :
    ∃ t, (session.run moment.time sql).2.database.Stands statement.table t ∧
      (∀ rule : Rule, rule.In t.schema.rules ↔ rule.In (Sql.remainingRules sql)) ∧
      ∀ later t', ReflTransGen (Retains statement.table) (session.run moment.time sql).2.database later →
        later.Stands statement.table t' → ∀ rule : Rule, rule.In (Sql.remainingRules sql) →
          ∀ (now : Timestamp) (input : Database.RowInput),
            (∀ text ∈ input.toRow t'.schema, isNullText text = false) →
            t'.schema.Breaks now (input.toRow t'.schema) rule →
            ∃ failure, later.insertRow now statement.table input = (.error failure, later) := by
  obtain ⟨hafter, answer, hdone⟩ := run_createTable hsql hrun hsuccess
  obtain ⟨s, hs, hadded, hstands⟩ := Execution.createTable_stands hnew hdone
  rw [hafter, hadded]
  obtain ⟨hremaining, hkeyed⟩ := Sql.parse_createTable_rules hsql
  have hrules : ∀ rule : Rule, rule.In (Database.storedTable s [] moment.time).schema.rules ↔
      rule.In (Sql.remainingRules sql) := by
    intro rule
    show rule.In s.rules ↔ rule.In (Sql.remainingRules sql)
    rw [Execution.schema_rules hsession.consistent.keyed hkeyed hs, hremaining]
  have hreachable : (session.database.addTable moment.time s).2.Reachable :=
    hsession.move (.addTable moment.time (Execution.schema_declared hs) (Execution.schema_usual moment.valid hs).regular)
  refine ⟨_, hstands, hrules, ?_⟩
  intro later t' hlater ht' rule hrule now input hrow hbreaks
  exact Database.insertRow_of_breaks hreachable hstands ((hrules rule).2 hrule) hlater ht' hrow hbreaks

/-! ## Spans and bounds -/

/-- Spans between two numbers. -/
def spansText : String :=
  "CREATE TABLE spans (low INT, high INT, CHECK (low < high))"

/-- The table of spans. -/
def spansSchema : Schema where
  name := "spans"
  description := ""
  isTemp := false
  columns := [{ name := "low", type := .int }, { name := "high", type := .int }]
  primaryKey := []
  uniques := []
  foreignKeys := []
  checks := [("chk_spans_1", "low < high")]
  indexes := []
  rowCount := 0
  createdAt := leapDay.time
  modifiedAt := leapDay.time
  written := []

/-- The name of the table that a statement creates. -/
def created? : Sql.Statement → Option String
  | .createTable statement => some statement.table
  | _ => none

/-- The table of spans asks for all that its text says, and takes no span that runs backwards. -/
theorem spans_keep_rules : ∃ t, ((ofDatabase (.empty none)).run leapDay.time spansText).2.database.Stands "spans" t ∧
    (∀ rule : Rule, rule.In t.schema.rules ↔ rule.In (Sql.remainingRules spansText)) ∧
    ∃ failure, ((ofDatabase (.empty none)).run leapDay.time spansText).2.database.insertRow leapDay.time "spans"
        (.cells ["5", "3"])
      = (.error failure, ((ofDatabase (.empty none)).run leapDay.time spansText).2.database) := by
  obtain ⟨hread, hrun, hschema, hmem⟩ :
      (Sql.parse spansText).toOption.bind created? = some "spans" ∧
      ((ofDatabase (.empty none)).run leapDay.time spansText).1 = .ok (.done "Table 'spans' created") ∧
      (((ofDatabase (.empty none)).run leapDay.time spansText).2.database.table? "spans").map Table.schema
        = some spansSchema ∧ Rule.check none "low < high" ∈ Sql.remainingRules spansText := by decide +kernel
  obtain ⟨statement, hsql, htable⟩ : ∃ statement, Sql.parse spansText = .ok (.createTable statement) ∧
      statement.table = "spans" := by
    generalize Sql.parse spansText = outcome at hread ⊢
    cases outcome with
    | error failure => cases hread
    | ok statement =>
      cases statement with
      | createTable statement => exact ⟨statement, rfl, Option.some.inj hread⟩
      | _ => cases hread
  have hempty : (ofDatabase (.empty none)).database.Reachable := .empty none
  obtain ⟨t, ht, hrules, hrejects⟩ := createTable_keeps_rules hempty leapDay hsql rfl hrun rfl
  rw [htable] at ht hrejects
  rw [ht.1, Option.map_some] at hschema
  have hbreaks : t.schema.Breaks leapDay.time ["5", "3"] (.check none "low < high") := by
    rw [Option.some.inj hschema]
    exact ⟨.compare .lt (.column none "low") (.column none "high"), by with_unfolding_all rfl, by decide +kernel⟩
  have hpresent : ∀ text ∈ ["5", "3"], isNullText text = false := by decide +kernel
  exact ⟨t, ht, hrules, hrejects _ t .refl ht _ (Rule.in_of_mem hmem) leapDay.time (.cells ["5", "3"]) hpresent hbreaks⟩

/-- A column between two bounds. -/
def boundsText : String :=
  "CREATE TABLE t (a INT CHECK (a > 0) CHECK (a < 10))"

/-- The column has one place for a condition. -/
def boundedColumn : Column :=
  { name := "a", type := .int, check := some "a < 10" }

/-- The table with the column. -/
def boundsSchema : Schema :=
  { spansSchema with name := "t", columns := [boundedColumn], checks := [] }

/-- The text that says of a column that it is greater than zero and, after that, less than ten, succeeds. But the first
condition is none of the table, which takes a row of which it is false. -/
theorem first_condition_lost : Rule.check (some "a") "a > 0" ∈ Sql.writtenRules boundsText ∧
    ((ofDatabase (.empty none)).run leapDay.time boundsText).1 = .ok (.done "Table 't' created") ∧
    ∃ t, ((ofDatabase (.empty none)).run leapDay.time boundsText).2.database.Stands "t" t ∧
      ¬ (Rule.check (some "a") "a > 0").In t.schema.rules ∧
      t.schema.Breaks leapDay.time ["-5"] (.check (some "a") "a > 0") ∧
      (((ofDatabase (.empty none)).run leapDay.time boundsText).2.database.insertRow leapDay.time "t"
        (.cells ["-5"])).1 = .ok 0 := by
  obtain ⟨hwritten, hrun, hschema, hinsert⟩ : Rule.check (some "a") "a > 0" ∈ Sql.writtenRules boundsText ∧
      ((ofDatabase (.empty none)).run leapDay.time boundsText).1 = .ok (.done "Table 't' created") ∧
      (((ofDatabase (.empty none)).run leapDay.time boundsText).2.database.table? "t").map Table.schema
        = some boundsSchema ∧
      (((ofDatabase (.empty none)).run leapDay.time boundsText).2.database.insertRow leapDay.time "t"
        (.cells ["-5"])).1 = .ok 0 := by decide +kernel
  obtain ⟨t, ht, hsame⟩ := Option.map_eq_some_iff.1 hschema
  have hnot : ¬ (Rule.check (some "a") "a > 0").In boundsSchema.rules := by
    rw [Rule.in_iff]
    decide +kernel
  have hbreaks : boundsSchema.Breaks leapDay.time ["-5"] (.check (some "a") "a > 0") :=
    ⟨.compare .gt (.column none "a") (.literal (.number "0")), by with_unfolding_all rfl, (boundedColumn, "-5"),
      List.mem_singleton_self _, rfl, by decide +kernel⟩
  rw [← hsame] at hnot hbreaks
  have hname : t.schema.name = "t" := by
    rw [hsame]
    rfl
  exact ⟨hwritten, hrun, t, ⟨ht, hname⟩, hnot, hbreaks, hinsert⟩

end Session

end Relational
