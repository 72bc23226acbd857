import Relational.Proofs.Execution
import Relational.Proofs.Sql.Definition

/-!
# What a declared table asks

A table is put together clause by clause, and each clause adds to the rules of the table what it asks, and nothing
else. So a table that a statement declares has the rules of the statement.
-/

namespace Relational

open Text
open Sql (Rule)

/-! ## The rules of a table -/

/-- What a column asks of its values. -/
def Column.rules (c : Column) : List Rule :=
  (if c.notNull && !c.nullable then [.notNull c.name] else []) ++ c.check.toList.map (.check (some c.name))

namespace Schema

variable {s s' : Schema} {rule : Rule}

/-- What a table asks of its rows. -/
def rules (s : Schema) : List Rule :=
  s.primaryKey.map .primaryKey
    ++ s.uniqueKeys.map (fun key => .unique key.2)
    ++ s.columns.flatMap Column.rules
    ++ s.foreignKeys.map (fun key => .reference key.2.columns key.2.refTable key.2.refColumns)
    ++ s.checks.map (fun check => .check none check.2)

/-- A column that is unique alone. -/
def uniqueRules (c : Column) : List Rule :=
  if c.unique then [.unique [c.name]] else []

/-- Every column that is unique alone asks so, be it that a named rule says the same. -/
theorem in_uniqueKeys : rule.In (s.uniqueKeys.map fun key => .unique key.2) ↔
    rule.In (s.uniques.map fun key => .unique key.2) ∨ rule.In (s.columns.flatMap uniqueRules) := by
  rw [uniqueKeys, List.map_append, Rule.in_append]
  constructor
  · rintro (hnamed | ⟨other, hother, hrule⟩)
    · exact .inl hnamed
    · rw [List.map_map] at hother
      obtain ⟨c, hc, rfl⟩ := List.mem_map.1 hother
      rw [List.mem_filter, Bool.and_eq_true] at hc
      refine .inr ⟨_, List.mem_flatMap.2 ⟨c, hc.1, ?_⟩, hrule⟩
      rw [uniqueRules, if_pos hc.2.1]
      exact List.mem_singleton_self _
  · rintro (hnamed | ⟨other, hother, hrule⟩)
    · exact .inl hnamed
    · obtain ⟨c, hc, hother⟩ := List.mem_flatMap.1 hother
      unfold uniqueRules at hother
      split at hother
      · rename_i hunique
        rw [List.mem_singleton.1 hother] at hrule
        cases hcovers : s.coversAlone c with
        | false =>
          refine .inr ⟨_, List.mem_map_of_mem (List.mem_map_of_mem (List.mem_filter.2 ⟨hc, ?_⟩)), hrule⟩
          rw [hunique, hcovers]
          rfl
        | true =>
          obtain ⟨key, hkey, halone⟩ := List.any_eq_true.1 hcovers
          refine .inl ⟨_, List.mem_map_of_mem hkey, ?_⟩
          split at halone
          · rename_i name hname
            rw [← hrule, hname]
            simp [Rule.folded, sameName_iff.1 halone]
          · cases halone
      · cases hother

theorem in_rules : rule.In s.rules ↔ rule.In (s.primaryKey.map .primaryKey)
    ∨ rule.In (s.uniques.map fun key => .unique key.2) ∨ rule.In (s.columns.flatMap uniqueRules)
    ∨ rule.In (s.columns.flatMap Column.rules)
    ∨ rule.In (s.foreignKeys.map fun key => .reference key.2.columns key.2.refTable key.2.refColumns)
    ∨ rule.In (s.checks.map fun check => .check none check.2) := by
  simp only [rules, Rule.in_append, in_uniqueKeys, or_assoc]

/-! ## Each declaration -/

theorem rules_create {name description : String} {isTemp : Bool} {now : Timestamp}
    (h : create name description isTemp now = .ok s) : s.rules = [] := by
  obtain ⟨-, h⟩ := check_bind_eq_ok.1 h
  cases h
  rfl

theorem rules_addColumn {c : Column} (h : s.addColumn c = .ok s') : rule.In s'.rules ↔
    rule.In s.rules ∨ rule.In ((if c.primaryKey then [.primaryKey c.name] else []) ++ uniqueRules c ++ c.rules) := by
  obtain ⟨-, rfl⟩ := addColumn_eq_ok.1 h
  simp only [in_rules, Rule.in_append, List.flatMap_append, List.flatMap_singleton]
  split
  · simp only [List.map_append, Rule.in_append, List.map_singleton]
    grind
  · simp only [Rule.in_nil]
    grind

/-- A column that is declared NOT NULL takes no NULL. -/
theorem nullable_of_notNull {c : Column} (hc : c.declare = .ok c) (hnotNull : c.notNull = true) :
    c.nullable = false := by
  obtain ⟨-, hself⟩ := Column.declare_eq_ok.1 hc
  rw [hself, hnotNull]
  simp

theorem rules_markedIn {c : Column} (hc : c.declare = .ok c) (key : List String) : (markedIn key c).rules = c.rules := by
  have hnullable : (c.notNull && !c.nullable) = c.notNull := by
    cases hnotNull : c.notNull with
    | false => rfl
    | true => rw [nullable_of_notNull hc hnotNull, Bool.not_false, Bool.and_self]
  unfold markedIn
  split
  · rw [Column.rules, Column.rules, hnullable, Column.inPrimaryKey, Bool.not_false, Bool.and_true]
  · rfl

theorem uniqueRules_markedIn (key : List String) (c : Column) : uniqueRules (markedIn key c) = uniqueRules c := by
  unfold markedIn
  split <;> rfl

theorem resolve_lower {what : String} {names key : List String} (h : s.resolve what names = .ok key) :
    key.map lower = names.map lower := by
  obtain ⟨-, hforall⟩ := resolve_eq_ok.1 h
  clear h
  induction hforall with
  | nil => rfl
  | cons hname _ ih => rw [List.map_cons, List.map_cons, ih, (spelling_eq_some hname).2]

/-- The primary key asks what it asked before, if it still holds the columns that it held. -/
theorem rules_addPrimaryKey {columns : List String} (hs : ∀ c ∈ s.columns, c.declare = .ok c)
    (hkey : ∀ rule : Rule, rule.In (s.primaryKey.map .primaryKey) → rule.In (columns.map .primaryKey))
    (h : s.addPrimaryKey columns = .ok s') :
    rule.In s'.rules ↔ rule.In s.rules ∨ rule.In (columns.map .primaryKey) := by
  obtain ⟨key, hresolve, rfl⟩ := addPrimaryKey_eq_ok.1 h
  have hnames : rule.In (key.map .primaryKey) ↔ rule.In (columns.map .primaryKey) := by
    have hfold : ∀ names : List String,
        (names.map Rule.primaryKey).map Rule.folded = (names.map lower).map .primaryKey := by
      simp [Rule.folded]
    rw [Rule.in_iff, Rule.in_iff, hfold, hfold, resolve_lower hresolve]
  have hunique : (s.columns.map (markedIn key)).flatMap uniqueRules = s.columns.flatMap uniqueRules := by
    rw [List.flatMap_map]
    exact List.flatMap_congr fun c _ => uniqueRules_markedIn key c
  have hrules : (s.columns.map (markedIn key)).flatMap Column.rules = s.columns.flatMap Column.rules := by
    rw [List.flatMap_map]
    exact List.flatMap_congr fun c hc => rules_markedIn (hs c hc) key
  have hkey := hkey rule
  simp only [in_rules, hnames, hunique, hrules]
  grind

theorem rules_addUnique {name : String} {columns : List String} (h : s.addUnique name columns = .ok s') :
    rule.In s'.rules ↔ rule.In s.rules ∨ rule.In [.unique columns] := by
  obtain ⟨-, key, hresolve, rfl⟩ := addUnique_eq_ok.1 h
  have hnew : rule.In [.unique key] ↔ rule.In [.unique columns] := by
    simp [Rule.folded, resolve_lower hresolve]
  simp only [in_rules, List.map_append, List.map_singleton, Rule.in_append, ← hnew]
  grind

theorem rules_addForeignKey {name : String} {fk : ForeignKey} (h : s.addForeignKey name fk = .ok s') :
    rule.In s'.rules ↔ rule.In s.rules ∨ rule.In [.reference fk.columns fk.refTable fk.refColumns] := by
  obtain ⟨-, columns, hresolve, -, rfl⟩ := addForeignKey_eq_ok.1 h
  have hnew : rule.In [.reference columns fk.refTable fk.refColumns]
      ↔ rule.In [.reference fk.columns fk.refTable fk.refColumns] := by
    simp [Rule.folded, resolve_lower hresolve]
  simp only [in_rules, List.map_append, List.map_singleton, Rule.in_append, ← hnew]
  grind

theorem rules_addCheck {name condition : String} (h : s.addCheck name condition = .ok s') :
    rule.In s'.rules ↔ rule.In s.rules ∨ rule.In [.check none condition] := by
  obtain ⟨-, -, rfl⟩ := addCheck_eq_ok.1 h
  simp only [in_rules, List.map_append, List.map_singleton, Rule.in_append]
  grind

end Schema

namespace Execution

variable {db : Database} {now : Timestamp} {s s' : Schema} {rule : Rule}

/-! ## Each clause -/

/-- A column asks what its clause asks. -/
theorem column_rules {clause : Sql.ColumnClause} {c : Column} (h : column clause = .ok c) :
    (if c.primaryKey then [.primaryKey c.name] else []) ++ Schema.uniqueRules c ++ c.rules = clause.ownRules := by
  obtain ⟨type, -, h⟩ := bind_eq_ok.1 h
  obtain ⟨raw, hraw, h⟩ := bind_eq_ok.1 h
  obtain ⟨-, rfl⟩ := Column.declare_eq_ok.1 (check_bind_eq_ok.1 h).2
  rw [withParameters_eq_ok hraw]
  cases hnotNull : clause.notNull <;> simp [Schema.uniqueRules, Column.rules, Sql.ColumnClause.ownRules, hnotNull]

theorem addColumn_rules {clause : Sql.ColumnClause} (h : (do s.addColumn (← column clause)) = .ok s') :
    rule.In s'.rules ↔ rule.In s.rules ∨ rule.In clause.ownRules := by
  obtain ⟨c, hc, h⟩ := bind_eq_ok.1 h
  rw [Schema.rules_addColumn h, column_rules hc]

/-- Every table stands under its own name. -/
def Keyed (db : Database) : Prop :=
  ∀ entry ∈ db.tables, Database.keyOf entry.2.schema.name = entry.1

theorem parent_lower (hdb : Keyed db) {table : String} {target : Schema} (h : parent db s table = .ok target) :
    lower target.name = lower table := by
  unfold parent at h
  split at h
  · rename_i hsame
    cases h
    exact (sameName_iff.1 hsame).symm
  · split at h
    · rename_i t ht
      cases h
      have hmem : (Database.keyOf table, t) ∈ db.tables := Database.mem_of_table? ht
      exact hdb (Database.keyOf table, t) hmem
    · simp at h

theorem addReference_rules (hdb : Keyed db) {fk : Sql.Reference} (h : addReference db s fk = .ok s') :
    rule.In s'.rules ↔ rule.In s.rules ∨ rule.In [fk.rule] := by
  obtain ⟨target, name, declared, htarget, -, hcolumns, htable, hrefColumns, h⟩ := addReference_eq_ok h
  rw [Schema.rules_addForeignKey h, hcolumns, htable, hrefColumns]
  simp [Rule.folded, Sql.Reference.rule, parent_lower hdb htarget]

theorem addPrimaryKey_rules {columns : List String} (hs : ∀ c ∈ s.columns, c.declare = .ok c)
    (hkey : ∀ rule : Rule, rule.In (s.primaryKey.map .primaryKey) → rule.In (columns.map .primaryKey))
    (h : addPrimaryKey s columns = .ok s') : rule.In s'.rules ↔ rule.In s.rules ∨ rule.In (columns.map .primaryKey) := by
  unfold addPrimaryKey at h
  split at h
  · rename_i hnone
    cases h
    simp [List.isEmpty_iff.1 hnone]
  · exact Schema.rules_addPrimaryKey hs hkey h

/-- What each clause adds, all clauses add. -/
theorem foldlM_rules {α : Type} {f : Schema → α → Except Failure Schema} {g : α → List Rule}
    (hstep : ∀ s a s', f s a = .ok s' → (rule.In s'.rules ↔ rule.In s.rules ∨ rule.In (g a))) {as : List α}
    (h : as.foldlM f s = .ok s') : rule.In s'.rules ↔ rule.In s.rules ∨ rule.In (as.flatMap g) := by
  induction as generalizing s with
  | nil =>
    cases h
    simp
  | cons a as ih =>
    obtain ⟨between, hfirst, h⟩ := foldlM_cons_eq_ok.1 h
    rw [ih h, hstep s a between hfirst, List.flatMap_cons, Rule.in_append, or_assoc]

/-- The columns that are declared as the primary key are in that of the statement. -/
theorem in_primaryKey {statement : Sql.CreateTable} (hkeyed : Sql.Parser.KeyListed statement) {name : String}
    (h : (Rule.primaryKey name).In (statement.columns.flatMap Sql.ColumnClause.ownRules)) :
    (Rule.primaryKey name).In (statement.primaryKey.map .primaryKey) := by
  obtain ⟨clause, hclause, other, hother, hsame⟩ := Rule.in_flatMap.1 h
  have hkey : clause.primaryKey = true ∧ other = .primaryKey clause.name := by
    cases other with
    | primaryKey column => simpa [Sql.ColumnClause.ownRules] using hother
    | unique columns => cases hsame
    | notNull column => cases hsame
    | check column condition => cases hsame
    | reference columns table refColumns => cases hsame
  obtain ⟨hkey, rfl⟩ := hkey
  exact ⟨_, List.mem_map_of_mem (hkeyed clause hclause hkey), hsame⟩

/-- The references of a statement stand in its columns and beside them. -/
theorem in_statement_rules {statement : Sql.CreateTable} : rule.In statement.rules ↔
    ((((rule.In (statement.columns.flatMap Sql.ColumnClause.ownRules) ∨ rule.In (statement.primaryKey.map .primaryKey)) ∨
      rule.In (statement.uniques.map fun clause => .unique clause.columns)) ∨
      rule.In ((references statement).map Sql.Reference.rule)) ∨
      rule.In (statement.checks.map fun clause => .check none clause.condition)) := by
  have hreferences : (references statement).map Sql.Reference.rule
      = (statement.columns.flatMap fun column => column.references.toList.map Sql.Reference.rule)
        ++ statement.foreignKeys.map Sql.Reference.rule := by
    rw [references, List.map_append, List.filterMap_eq_flatMap_toList, List.map_flatMap]
  have hcolumns : rule.In (statement.columns.flatMap Sql.ColumnClause.rules) ↔
      rule.In (statement.columns.flatMap Sql.ColumnClause.ownRules) ∨
        rule.In (statement.columns.flatMap fun column => column.references.toList.map Sql.Reference.rule) := by
    simp only [Rule.in_flatMap, Sql.ColumnClause.rules, Rule.in_append, and_or_left, exists_or]
  rw [hreferences]
  simp only [Sql.CreateTable.rules, Rule.in_append, hcolumns]
  grind

/-- The table that a statement declares asks what the statement asks. -/
theorem schema_rules (hdb : Keyed db) {statement : Sql.CreateTable} (hkeyed : Sql.Parser.KeyListed statement)
    (h : schema db now statement = .ok s) : rule.In s.rules ↔ rule.In statement.rules := by
  obtain ⟨s₀, s₁, s₂, s₃, s₄, h₀, h₁, h₂, h₃, h₄, h₅⟩ := schema_eq_ok h
  have hcolumns : ∀ rule : Rule, rule.In s₁.rules ↔ rule.In (statement.columns.flatMap Sql.ColumnClause.ownRules) := by
    intro rule
    rw [foldlM_rules (fun _ _ _ hadd => addColumn_rules hadd) h₁, Schema.rules_create h₀, or_iff_right Rule.in_nil.1]
  have hdeclared : s₁.Declared := foldlM_preserves (fun _ _ _ hs h => addColumn_declared hs h) (.create h₀) h₁
  have hkey : ∀ rule : Rule, rule.In (s₁.primaryKey.map .primaryKey) →
      rule.In (statement.primaryKey.map .primaryKey) := by
    rintro rule ⟨other, hother, hsame⟩
    obtain ⟨name, hname, rfl⟩ := List.mem_map.1 hother
    have hin : (Rule.primaryKey name).In s₁.rules := Schema.in_rules.2 (.inl (Rule.in_of_mem hother))
    obtain ⟨listed, hlisted, hsame'⟩ := in_primaryKey hkeyed ((hcolumns _).1 hin)
    exact ⟨listed, hlisted, hsame'.trans hsame⟩
  have hsingle : ∀ {α : Type} (as : List α) (g : α → Rule), (as.flatMap fun a => [g a]) = as.map g :=
    fun as g => List.map_eq_flatMap.symm
  have hchecks : (statement.checks.zipIdx 1).map (fun clause => Rule.check none clause.1.condition)
      = statement.checks.map fun clause => .check none clause.condition := by
    rw [← List.zipIdx_map_fst 1 statement.checks, List.map_map, List.zipIdx_map_fst]
    rfl
  rw [foldlM_rules (fun _ _ _ hadd => Schema.rules_addCheck hadd) h₅,
    foldlM_rules (fun _ _ _ hadd => addReference_rules hdb hadd) h₄,
    foldlM_rules (fun _ _ _ hadd => Schema.rules_addUnique hadd) h₃,
    addPrimaryKey_rules hdeclared.wellFormed.columns hkey h₂, hcolumns, hsingle, hsingle, hsingle, hchecks,
    in_statement_rules]

end Execution

end Relational
