import Relational.Proofs.DeclaredRules
import Relational.Proofs.Schema.Limits

/-!
# Tables that keep the bounds of their types

The parameters of a declared type are those of the column: a length, or a number of digits and one of places. As long as
the table stands, whatever is stored in the column is within them. But a length or a number of digits of zero bounds
nothing, whereas a number of places of zero does.
-/

namespace Relational

open Database (Retains)
open Relation (ReflTransGen)
open Decimal Text

/-! ## What a clause says -/

namespace Sql.ColumnClause

/-- The number at a place among the parameters of the type. -/
def parameter? (clause : ColumnClause) (i : Nat) : Option Nat :=
  clause.typeParams[i]?.bind fun text => (readInteger? text).map Int.toNat

/-- A text is within the parameters of the type, but for those of zero that bound nothing. -/
structure Bounds (clause : ColumnClause) (type : DataType) (text : String) : Prop where
  length : type.hasLength = true → ∀ n, clause.parameter? 0 = some n → (text.length ≤ n ↔ n ≠ 0)
  digits : type.isDecimal = true → ∀ n, clause.parameter? 0 = some n →
    (countedDigits text ≤ n ↔ n ≠ 0 ∨ countedDigits text = 0)
  places : type.isDecimal = true → ∀ n, clause.parameter? 1 = some n → (fractionDigits text).length ≤ n

end Sql.ColumnClause

namespace Execution

variable {db : Database} {now : Timestamp} {s s' : Schema} {clause : Sql.ColumnClause} {c : Column}

/-- A column has the name, the type, the default and the parameters of its clause. -/
structure Declares (clause : Sql.ColumnClause) (c : Column) : Prop where
  name : c.name = clause.name
  type : DataType.ofName? clause.typeName = some c.type
  default : c.default = clause.default
  length : c.type.hasLength = true → c.maxLength = (clause.parameter? 0).map Int.ofNat
  precision : c.type.isDecimal = true → c.precision = (clause.parameter? 0).map Int.ofNat
  scale : c.type.isDecimal = true → c.scale = (clause.parameter? 1).map Int.ofNat

theorem typeNumber?_eq_ok {name : String} {text? : Option String} {limit? : Option Int}
    (h : typeNumber? name text? = .ok limit?) :
    limit? = (text?.bind fun text => (readInteger? text).map Int.toNat).map Int.ofNat := by
  cases text? with
  | none =>
    cases h
    rfl
  | some text =>
    obtain ⟨n, hn, h⟩ := bind_eq_ok.1 h
    cases h
    unfold typeNumber at hn
    split at hn
    · split at hn
      · rename_i hread
        cases hn
        rw [Option.bind_some, hread]
        rfl
      · cases hn
    · cases hn

theorem column_declares (h : column clause = .ok c) : Declares clause c := by
  obtain ⟨type, htype, h⟩ := bind_eq_ok.1 h
  obtain ⟨raw, hraw, h⟩ := bind_eq_ok.1 h
  obtain ⟨-, rfl⟩ := Column.declare_eq_ok.1 (check_bind_eq_ok.1 h).2
  have hname : DataType.ofName? clause.typeName = some type := by
    unfold Column.readType at htype
    split at htype
    · rename_i hfound
      cases htype
      exact hfound
    · cases htype
  have hdecimal : type.isDecimal = true → type.hasLength = false := by
    cases type <;> decide
  unfold withParameters at hraw
  split at hraw
  · rename_i hlength
    obtain ⟨limit, hlimit, hraw⟩ := bind_eq_ok.1 hraw
    cases hraw
    have hnone : ¬ type.isDecimal = true := fun h => absurd ((hdecimal h).symm.trans hlength) Bool.false_ne_true
    exact ⟨rfl, hname, rfl, fun _ => typeNumber?_eq_ok hlimit, fun h => absurd h hnone, fun h => absurd h hnone⟩
  · rename_i hlength
    split at hraw
    · obtain ⟨precision, hprecision, hraw⟩ := bind_eq_ok.1 hraw
      obtain ⟨scale, hscale, hraw⟩ := bind_eq_ok.1 hraw
      cases hraw
      exact ⟨rfl, hname, rfl, fun h => absurd h hlength, fun _ => typeNumber?_eq_ok hprecision,
        fun _ => typeNumber?_eq_ok hscale⟩
    · rename_i hnone
      split at hraw
      all_goals
        cases hraw
        exact ⟨rfl, hname, rfl, fun h => absurd h hlength, fun h => absurd h hnone, fun h => absurd h hnone⟩

theorem Declares.markedIn (h : Declares clause c) (key : List String) : Declares clause (Schema.markedIn key c) := by
  unfold Schema.markedIn
  split
  · exact ⟨h.name, h.type, h.default, h.length, h.precision, h.scale⟩
  · exact h

/-- Each clause has its column in the table. -/
def Covers (clauses : List Sql.ColumnClause) (s : Schema) : Prop :=
  ∀ clause ∈ clauses, ∃ c ∈ s.columns, Declares clause c

theorem addColumns_covers {clauses done : List Sql.ColumnClause} (hdone : Covers done s)
    (h : clauses.foldlM (fun s clause => do s.addColumn (← column clause)) s = .ok s') :
    Covers (done ++ clauses) s' := by
  induction clauses generalizing s done with
  | nil =>
    cases h
    rwa [List.append_nil]
  | cons clause clauses ih =>
    obtain ⟨between, hfirst, h⟩ := foldlM_cons_eq_ok.1 h
    obtain ⟨c, hc, hadd⟩ := bind_eq_ok.1 hfirst
    obtain ⟨-, rfl⟩ := Schema.addColumn_eq_ok.1 hadd
    rw [List.append_cons]
    refine ih (fun clause' hclause' => ?_) h
    rcases List.mem_append.1 hclause' with hold | hnew
    · obtain ⟨c', hc', hdeclares⟩ := hdone clause' hold
      exact ⟨c', List.mem_append_left [c] hc', hdeclares⟩
    · rw [List.mem_singleton.1 hnew]
      exact ⟨c, List.mem_append_right s.columns (List.mem_singleton_self c), column_declares hc⟩

/-- The table that a statement declares has a column for each clause. -/
theorem schema_covers {statement : Sql.CreateTable} (h : schema db now statement = .ok s) :
    Covers statement.columns s := by
  obtain ⟨s₀, s₁, s₂, s₃, s₄, -, h₁, h₂, h₃, h₄, h⟩ := schema_eq_ok h
  have hs₀ : Covers [] s₀ := fun _ hnone => by cases hnone
  have hs₁ : Covers statement.columns s₁ := addColumns_covers hs₀ h₁
  have hs₂ : Covers statement.columns s₂ := by
    unfold addPrimaryKey at h₂
    split at h₂
    · cases h₂
      exact hs₁
    · obtain ⟨key, -, rfl⟩ := Schema.addPrimaryKey_eq_ok.1 h₂
      intro clause hclause
      obtain ⟨c, hc, hdeclares⟩ := hs₁ clause hclause
      exact ⟨Schema.markedIn key c, List.mem_map_of_mem hc, hdeclares.markedIn key⟩
  have hs₃ : Covers statement.columns s₃ := by
    refine foldlM_preserves (fun s clause s' hs hadd => ?_) hs₂ h₃
    obtain ⟨-, key, -, rfl⟩ := Schema.addUnique_eq_ok.1 hadd
    exact hs
  have hs₄ : Covers statement.columns s₄ := by
    refine foldlM_preserves (fun s clause s' hs hadd => ?_) hs₃ h₄
    obtain ⟨target, name, declared, -, -, -, -, -, hadd⟩ := addReference_eq_ok hadd
    obtain ⟨-, key, -, -, rfl⟩ := Schema.addForeignKey_eq_ok.1 hadd
    exact hs
  refine foldlM_preserves (fun s clause s' hs hadd => ?_) hs₄ h
  obtain ⟨-, -, rfl⟩ := Schema.addCheck_eq_ok.1 hadd
  exact hs

end Execution

/-! ## What is stored -/

namespace Schema

variable {s : Schema} {row : List String}

/-- A text other than NULL in an accepted row fits its column, and a decimal number stands by itself. -/
theorem Accepted.fits (h : s.Accepted row) {cell : Column × String} (hcell : cell ∈ s.columns.zip row)
    (hpresent : cell.2 ≠ nullText) : isNullText cell.2 = false ∧ cell.1.Fits cell.2 ∧
      (cell.1.type.isDecimal = true → strip cell.2 = cell.2) := by
  obtain ⟨hstanding, now, hvalid⟩ := h
  obtain ⟨-, hcells, -⟩ := validateRow_eq_ok.1 hvalid
  rcases encode_eq_ok.1 (encode_of_encodeRow hstanding.encoded cell hcell) with ⟨-, hstored⟩ | ⟨hnull, -, hstored⟩
  · exact absurd hstored hpresent
  · refine ⟨hnull, ((Column.validate_eq_ok_of_present hnull).1 (hcells cell hcell)).1, fun hdecimal => ?_⟩
    rw [encodePresent_of_isDecimal hdecimal] at hstored
    exact hstored.symm

/-- A cell of an accepted row is within the bounds of the clause of its column. -/
theorem Accepted.bounds (h : s.Accepted row) {cell : Column × String} (hcell : cell ∈ s.columns.zip row)
    (hpresent : cell.2 ≠ nullText) {clause : Sql.ColumnClause} (hdeclares : Execution.Declares clause cell.1) :
    clause.Bounds cell.1.type cell.2 := by
  obtain ⟨hnull, hfits, hstrip⟩ := h.fits hcell hpresent
  have hstring : cell.1.type.hasLength = true → cell.1.type.isString = true := by
    cases cell.1.type <;> decide
  constructor
  case length =>
    intro hlength n hn
    refine hfits.length_le_iff hnull (hstring hlength) ?_
    rw [hdeclares.length hlength, hn, Option.map_some]
  case digits =>
    intro hdecimal n hn
    refine hfits.digits_le_iff hnull hdecimal (hstrip hdecimal) ?_
    rw [hdeclares.precision hdecimal, hn, Option.map_some]
  case places =>
    intro hdecimal n hn
    refine hfits.fraction_le hnull hdecimal (hstrip hdecimal) ?_
    rw [hdeclares.scale hdecimal, hn, Option.map_some]

end Schema

namespace Database

variable {db later : Database} {name : String} {t : Table} {s : Schema} {cells : List (List Cell)}

/-- Rows that are shown under the name of a table are rows of what the table demands. -/
theorem Shows.demands (hdb : db.Reachable) (ht : db.Stands name t) (hshows : db.Shows s cells) (hname : s.name = name) :
    s.demands = t.schema.demands := by
  have hconsistent := hdb.consistent
  rcases hshows with ⟨entry, hentry, rfl, -⟩ | ⟨d, hd, hread, -⟩
  · have hfound : db.table? name = some entry.2 := by
      rw [table?, ← hname, hconsistent.keyed entry hentry]
      exact lookup_eq_some_of_mem hconsistent.nodup hentry
    rw [Option.some.inj (hfound.symm.trans ht.1)]
  · have hagrees := (hconsistent.backed d hd).2 _ (mem_of_table? ht.1)
    rw [hname, ← ht.2] at hread
    exact (hagrees s hread).demands.symm

theorem stands_of_retains (h : db.Reachable) (ht : db.Stands name t) (hlater : ReflTransGen (Retains name) db later) :
    later.Reachable ∧ ∃ t', later.Stands name t' := by
  induction hlater with
  | refl => exact ⟨h, t, ht⟩
  | tail _ hretains ih => exact ⟨ih.1.move hretains.1, hretains.2⟩

/-- As long as a table stands, each cell in a column that a clause declares is within the bounds of the clause. -/
theorem bounds_of_retains {clauses : List Sql.ColumnClause} (h : db.Reachable) (ht : db.Stands name t)
    (hcovers : Execution.Covers clauses t.schema) (hlater : ReflTransGen (Retains name) db later)
    (hshows : later.Shows s cells) (hname : s.name = name) : ∀ clause ∈ clauses, ∃ c ∈ s.columns,
      c.name = clause.name ∧ DataType.ofName? clause.typeName = some c.type ∧
        ∀ row ∈ cells, ∀ cell ∈ s.columns.zip row, cell.1 = c →
          ∃ text, cell.2 = .text text ∧ (text ≠ nullText → clause.Bounds c.type text) := by
  intro clause hclause
  obtain ⟨hreachable, t', ht'⟩ := stands_of_retains h ht hlater
  have hdemands : s.demands = t.schema.demands :=
    (hshows.demands hreachable ht' hname).trans (demands_of_retains h ht hlater ht')
  have hcolumns : s.columns = t.schema.columns := congrArg Schema.Demands.columns hdemands
  obtain ⟨c, hc, hdeclares⟩ := hcovers clause hclause
  refine ⟨c, hcolumns ▸ hc, hdeclares.name, hdeclares.type, ?_⟩
  obtain ⟨rows, rfl, haccepted⟩ := hreachable.acceptedRows.holds_shown hshows
  rintro row hrow ⟨column, value⟩ hcell rfl
  obtain ⟨texts, htexts, rfl⟩ := List.mem_map.1 hrow
  rw [Cell.ofTexts, List.zip_map_right, List.mem_map] at hcell
  obtain ⟨⟨column', text⟩, hcell, heq⟩ := hcell
  cases heq
  exact ⟨text, rfl, fun hpresent => (haccepted texts htexts).bounds hcell hpresent hdeclares⟩

end Database

/-! ## Statements -/

namespace Session

variable {session : Session} {sql : String} {statement : Sql.CreateTable} {result : Result}

/-- When a CREATE TABLE has declared a new table, then as long as the table stands, whatever is asked of the database and
happens to its files, each cell of the table in memory and in the directory is NULL or within the parameters of the type
of its column, but for a length or a number of digits of zero. -/
theorem createTable_keeps_bounds (hsession : session.database.Reachable) (moment : Moment)
    (hsql : Sql.parse sql = .ok (.createTable statement)) (hnew : session.database.hasTable statement.table = false)
    (hrun : (session.run moment.time sql).1 = .ok result) (hsuccess : result.success = true) {later : Database}
    (hlater : ReflTransGen (Retains statement.table) (session.run moment.time sql).2.database later) {s : Schema}
    {cells : List (List Cell)} (hshows : later.Shows s cells) (hname : s.name = statement.table) :
    ∀ clause ∈ statement.columns, ∃ c ∈ s.columns, c.name = clause.name ∧
      DataType.ofName? clause.typeName = some c.type ∧
        ∀ row ∈ cells, ∀ cell ∈ s.columns.zip row, cell.1 = c →
          ∃ text, cell.2 = .text text ∧ (text ≠ nullText → clause.Bounds c.type text) := by
  obtain ⟨hafter, answer, hdone⟩ := run_createTable hsql hrun hsuccess
  obtain ⟨declared, hdeclared, hadded, hstands⟩ := Execution.createTable_stands hnew hdone
  rw [hafter, hadded] at hlater
  have hreachable : (session.database.addTable moment.time declared).2.Reachable :=
    hsession.move (.addTable moment.time (Execution.schema_declared hdeclared)
      (Execution.schema_usual moment.valid hdeclared).regular)
  have hcovers : Execution.Covers statement.columns declared := Execution.schema_covers hdeclared
  exact Database.bounds_of_retains hreachable hstands hcovers hlater hshows hname

/-! ## Prices and codes -/

/-- A column of a statement with a type and its parameters, and nothing else. -/
def plainClause (name typeName : String) (typeParams : List String) : Sql.ColumnClause :=
  ⟨name, typeName, typeParams, false, false, false, false, none, none, none⟩

/-- A new table with columns, and nothing else. -/
def plainTable (name : String) (clauses : List Sql.ColumnClause) : Sql.CreateTable :=
  ⟨name, false, clauses, [], [], [], []⟩

/-- The table that a statement declares. -/
def declared? : Sql.Statement → Option Sql.CreateTable
  | .createTable statement => some statement
  | _ => none

/-- A text that declares a table is read as its statement. -/
theorem parse_of_declared? {sql : String} {statement : Sql.CreateTable}
    (h : (Sql.parse sql).toOption.bind declared? = some statement) : Sql.parse sql = .ok (.createTable statement) := by
  generalize Sql.parse sql = outcome at h ⊢
  cases outcome with
  | error failure => cases h
  | ok read =>
    cases read with
    | createTable read => rw [Option.some.inj h]
    | _ => cases h

/-- Prices with a code of three characters, and four digits with two places. -/
def priceText : String :=
  "CREATE TABLE price (code CHAR(3), amount DECIMAL(4,2))"

/-- A database with the prices before one is put in. -/
def priceDatabase : Database :=
  ((ofDatabase (.empty none)).run leapDay.time priceText).2.database

/-- A price that is put in. -/
def priceInput : Database.RowInput :=
  .cells ["abc", " -012.50 "]

/-- A price is stored within what the text says of the columns. -/
theorem price_within : ∃ s cells,
    (priceDatabase.insertRow leapDay.time "price" priceInput).2.Shows s cells ∧ s.name = "price" ∧
      [.text "abc", .text "-012.50"] ∈ cells ∧ (plainClause "code" "CHAR" ["3"]).Bounds .char "abc" ∧
        (plainClause "amount" "DECIMAL" ["4", "2"]).Bounds .decimal "-012.50" := by
  obtain ⟨hread, hrun, hafter⟩ :
      (Sql.parse priceText).toOption.bind declared? = some
        (plainTable "price" [plainClause "code" "CHAR" ["3"], plainClause "amount" "DECIMAL" ["4", "2"]]) ∧
      ((ofDatabase (.empty none)).run leapDay.time priceText).1 = .ok (.done "Table 'price' created") ∧
      ((priceDatabase.insertRow leapDay.time "price" priceInput).2.table? "price").map
          (fun t => (t.schema.name, t.schema.columns, t.rows)) =
        some ("price",
          [{ name := "code", type := .char, maxLength := some 3 },
            { name := "amount", type := .decimal, precision := some 4, scale := some 2 }],
          [[.text "abc", .text "-012.50"]]) := by
    decide +kernel
  obtain ⟨t, ht, hfound⟩ := Option.map_eq_some_iff.1 hafter
  obtain ⟨hname, hcolumns, hrows⟩ : t.schema.name = "price" ∧ _ := by simpa using hfound
  have hempty : (ofDatabase (.empty none)).database.Reachable := .empty none
  have hlater : ReflTransGen (Retains "price") priceDatabase
      (priceDatabase.insertRow leapDay.time "price" priceInput).2 :=
    .single ⟨.insertRow leapDay.time "price" priceInput, t, ht, hname⟩
  have hshows : (priceDatabase.insertRow leapDay.time "price" priceInput).2.Shows t.schema t.rows :=
    .inl ⟨_, Database.mem_of_table? ht, rfl, rfl⟩
  have hbounds := createTable_keeps_bounds hempty leapDay (parse_of_declared? hread) rfl hrun rfl hlater hshows hname
  rw [hcolumns, hrows] at hbounds
  refine ⟨t.schema, t.rows, hshows, hname, hrows ▸ List.mem_singleton_self _, ?_, ?_⟩
  · obtain ⟨c, hc, hcname, -, hcells⟩ := hbounds (plainClause "code" "CHAR" ["3"]) (by simp [plainTable])
    obtain rfl | rfl : c = _ ∨ c = _ := by simpa using hc
    · obtain ⟨text, htext, hwithin⟩ := hcells _ (List.mem_singleton_self _) (_, .text "abc") (by simp) rfl
      cases htext
      exact hwithin (by decide)
    · exact absurd hcname (by decide)
  · obtain ⟨c, hc, hcname, -, hcells⟩ := hbounds (plainClause "amount" "DECIMAL" ["4", "2"]) (by simp [plainTable])
    obtain rfl | rfl : c = _ ∨ c = _ := by simpa using hc
    · exact absurd hcname (by decide)
    · obtain ⟨text, htext, hwithin⟩ := hcells _ (List.mem_singleton_self _) (_, .text "-012.50") (by simp) rfl
      cases htext
      exact hwithin (by decide)

/-- A text that gives a column no characters, and another one no digits. -/
def zeroText : String :=
  "CREATE TABLE price (code CHAR(0), amount DECIMAL(0))"

/-- A database with the prices of that text, and one that is put in. -/
def zeroDatabase : Database :=
  (((ofDatabase (.empty none)).run leapDay.time zeroText).2.database.insertRow leapDay.time "price" priceInput).2

/-- A length of zero and a number of digits of zero are taken for none: a code of three characters is stored, and an
amount of four digits. -/
theorem zero_unbounded :
    (Sql.parse zeroText).toOption.bind declared? = some
      (plainTable "price" [plainClause "code" "CHAR" ["0"], plainClause "amount" "DECIMAL" ["0"]]) ∧
    ((ofDatabase (.empty none)).run leapDay.time zeroText).1 = .ok (.done "Table 'price' created") ∧
    (zeroDatabase.table? "price").map Table.rows = some [[.text "abc", .text "-012.50"]] ∧
    (plainClause "code" "CHAR" ["0"]).parameter? 0 = some 0 ∧ ¬ "abc".length ≤ 0 ∧
    (plainClause "amount" "DECIMAL" ["0"]).parameter? 0 = some 0 ∧ ¬ countedDigits "-012.50" ≤ 0 := by
  decide +kernel

end Session

end Relational
