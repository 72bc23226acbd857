import Relational.Proofs.Database.Alike
import Relational.Proofs.DeclaredBounds
import Relational.Proofs.Schema.Scope
import Relational.Proofs.Text.Blank
import Relational.Proofs.Text.Letter

/-!
# Names of constraints

A constraint that a statement gives no name gets one that is put together of its kind, the table, and its columns or
its number. Nothing else of the statement depends on the names of its constraints. So a statement that would be accepted
with other names in the place of those is accepted exactly if they can stand beside the names that it gives: they have
to be short enough, and no two may be the same. The parts of such a name are joined with underscores, which the names of
columns have as well, so different lists of columns can give the same name.
-/

namespace Relational

open Text

namespace Name

/-! ## Names with an underscore -/

/-- A text with an underscore is not empty and none of the reserved words. -/
theorem checkName_of_underscore {name : String} (h : '_' ∈ name.toList) : checkName name = .ok () ↔
    name.length ≤ maxLength ∧ isFormed name.toList = true := by
  have hempty : name.isEmpty = false := by
    rw [String.isEmpty_eq_false_iff]
    rintro rfl
    cases h
  have hreserved : reservedWords.contains (upper name) = false := by
    rw [List.contains_eq_mem, decide_eq_false_iff_not]
    intro hword
    have hplain : ∀ word ∈ reservedWords, '_' ∉ word.toList := by decide
    exact hplain _ hword (mem_upper h (by decide))
  simp only [checkName, fault?, hempty, hreserved, Bool.false_eq_true, if_false]
  split_ifs with hlength hformed
  · exact iff_of_false nofun fun h => absurd h.1 (Nat.not_le.2 hlength)
  · exact iff_of_true rfl ⟨Nat.le_of_not_lt hlength, hformed⟩
  · exact iff_of_false nofun fun h => hformed h.2

theorem isFormed_cons {c : Char} {cs : List Char} (hc : isFirst c = true) (hcs : ∀ d ∈ cs, isRest d = true) :
    isFormed (c :: cs) = true := by
  have htail : isTail cs = true := by
    induction cs with
    | nil => rfl
    | cons d cs ih =>
      rw [List.forall_mem_cons] at hcs
      unfold isTail
      split
      · rfl
      · rfl
      · rename_i heq
        cases heq
        rw [hcs.1, ih hcs.2]
        rfl
  rw [isFormed, hc, htail]
  rfl

theorem isRest_underscore : ∀ c ∈ "_".toList, isRest c = true :=
  List.forall_mem_singleton.2 rfl

theorem isRest_of_mem_intercalate {names : List String} (h : ∀ name ∈ names, ∀ c ∈ name.toList, isRest c = true) :
    ∀ c ∈ ("_".intercalate names).toList, isRest c = true :=
  forall_mem_intercalate isRest_underscore h

end Name

namespace Execution

variable {db : Database} {now : Timestamp} {statement statement' : Sql.CreateTable} {s s' t : Schema}

/-! ## Constraints of a statement -/

/-- A constraint as a statement has it. A condition has a number. -/
inductive ConstraintClause where
  | unique (clause : Sql.UniqueClause)
  | reference (fk : Sql.Reference)
  | check (clause : Sql.CheckClause) (number : Nat)

namespace ConstraintClause

/-- The name that the statement gives it. -/
def written? : ConstraintClause → Option String
  | .unique clause => clause.name
  | .reference fk => fk.name
  | .check clause _ => clause.name

/-- The name that it gets without one. -/
def generated (table : String) : ConstraintClause → String
  | .unique clause => nameOver "uq" table clause.columns
  | .reference fk => nameOver "fk" table fk.columns
  | .check _ number => "chk_" ++ table ++ "_" ++ Decimal.natText number

def name (table : String) (clause : ConstraintClause) : String :=
  clause.written?.getD (clause.generated table)

/-- The columns that the constraint names as its own. -/
def columns : ConstraintClause → List String
  | .unique clause => clause.columns
  | .reference fk => fk.columns
  | .check _ _ => []

/-- The constraint without a name. -/
def unnamed : ConstraintClause → ConstraintClause
  | .unique clause => .unique { clause with name := none }
  | .reference fk => .reference { fk with name := none }
  | .check clause number => .check { clause with name := none } number

/-- Adds the constraint to a table. -/
def addTo (db : Database) (s : Schema) : ConstraintClause → Except Failure Schema
  | .unique clause => addUnique s clause
  | .reference fk => addReference db s fk
  | .check clause number => addCheck s (clause, number)

end ConstraintClause

/-- The constraints of a statement in the order in which they are added. -/
def constraintClauses (statement : Sql.CreateTable) : List ConstraintClause :=
  statement.uniques.map .unique ++ (references statement).map .reference ++
    (statement.checks.zipIdx 1).map fun clause => .check clause.1 clause.2

/-- The names of the constraints. -/
def constraintNames (statement : Sql.CreateTable) : List String :=
  (constraintClauses statement).map (ConstraintClause.name statement.table)

/-- The table before its constraints are added. -/
def unconstrained (now : Timestamp) (statement : Sql.CreateTable) : Except Failure Schema := do
  let s ← Schema.create statement.table "" false now
  let s ← statement.columns.foldlM (fun s clause => do s.addColumn (← column clause)) s
  addPrimaryKey s statement.primaryKey

theorem schema_eq (db : Database) (now : Timestamp) (statement : Sql.CreateTable) : schema db now statement =
    unconstrained now statement >>= fun s => (constraintClauses statement).foldlM (ConstraintClause.addTo db) s := by
  simp only [schema, unconstrained, constraintClauses, List.foldlM_append, List.foldlM_map, bind_assoc]
  rfl

/-! ## Adding a constraint -/

/-- Two tables have the same columns, under the same name. -/
structure SameColumns (s s' : Schema) : Prop where
  name : s'.name = s.name
  columns : s'.columns = s.columns

namespace SameColumns

theorem refl (s : Schema) : SameColumns s s :=
  ⟨rfl, rfl⟩

theorem symm (h : SameColumns s s') : SameColumns s' s :=
  ⟨h.name.symm, h.columns.symm⟩

theorem trans (h : SameColumns s s') (h' : SameColumns s' t) : SameColumns s t :=
  ⟨h'.name.trans h.name, h'.columns.trans h.columns⟩

theorem resolve (h : SameColumns s s') {what : String} {names key : List String}
    (hkey : s.resolve what names = .ok key) : s'.resolve what names = .ok key := by
  have hspelling : s'.spelling = s.spelling := by
    funext name
    rw [Schema.spelling, Schema.spelling, Schema.column?, Schema.column?, h.columns]
  rw [Schema.resolve_eq_ok] at hkey ⊢
  rwa [hspelling]

theorem parent (h : SameColumns s s') {table : String} {target : Schema}
    (htarget : parent db s table = .ok target) :
    ∃ target', Execution.parent db s' table = .ok target' ∧ SameColumns target target' := by
  unfold Execution.parent at htarget ⊢
  rw [h.name]
  split at htarget
  · rename_i hself
    cases htarget
    rw [if_pos hself]
    exact ⟨s', rfl, h⟩
  · rename_i hself
    rw [if_neg hself]
    exact ⟨target, htarget, .refl target⟩

theorem hasColumn (h : SameColumns s s') (name : String) : s'.hasColumn name = s.hasColumn name := by
  rw [Schema.hasColumn, Schema.hasColumn, Schema.column?, Schema.column?, h.columns]

end SameColumns

namespace ConstraintClause

variable {clause clause' : ConstraintClause}

/-- A constraint that is added has a name that no other constraint has, and changes nothing else. -/
theorem addTo_eq_ok (h : clause.addTo db s = .ok t) : s.checkConstraintName (clause.name s.name) = .ok () ∧
    SameColumns s t ∧ t.constraintNames.Perm (s.constraintNames ++ [clause.name s.name]) := by
  cases clause with
  | unique clause =>
    obtain ⟨hname, key, -, rfl⟩ := Schema.addUnique_eq_ok.1 h
    refine ⟨hname, ⟨rfl, rfl⟩, ?_⟩
    simp only [Schema.constraintNames, List.map_append, List.map_singleton, List.append_assoc]
    rw [← List.append_assoc (s.foreignKeys.map Prod.fst)]
    exact List.perm_append_comm.append_left _
  | reference fk =>
    obtain ⟨target, onDelete, onUpdate, -, -, -, -, h⟩ := addReference_iff.1 h
    obtain ⟨hname, columns, -, -, rfl⟩ := Schema.addForeignKey_eq_ok.1 h
    refine ⟨hname, ⟨rfl, rfl⟩, ?_⟩
    simp only [Schema.constraintNames, List.map_append, List.map_singleton, List.append_assoc]
    exact (List.perm_append_comm.append_left _).append_left _
  | check clause number =>
    obtain ⟨hname, -, rfl⟩ := Schema.addCheck_eq_ok.1 h
    refine ⟨hname, ⟨rfl, rfl⟩, ?_⟩
    simp only [Schema.constraintNames, List.map_append, List.map_singleton, List.append_assoc]
    exact .refl _

/-- What is to be named beside each other stays the same when the first constraint of some is added. -/
theorem names_perm_of_addTo (h : clause.addTo db s = .ok t) (clauses : List ConstraintClause) :
    (t.constraintNames ++ clauses.map (name t.name)).Perm (s.constraintNames ++ (clause :: clauses).map (name s.name)) := by
  obtain ⟨-, hsame, hnames⟩ := addTo_eq_ok h
  rw [hsame.name, List.map_cons, List.append_cons]
  exact hnames.append_right _

/-- Nothing but the name of a constraint depends on how it is named. -/
theorem addTo_of_unnamed (hclause : clause'.unnamed = clause.unnamed) (hsame : SameColumns s s')
    (h : clause.addTo db s = .ok t) (hname : s'.checkConstraintName (clause'.name s'.name) = .ok ()) :
    ∃ t', clause'.addTo db s' = .ok t' := by
  cases clause with
  | unique clause =>
    cases clause' with
    | unique clause' =>
      obtain ⟨name', columns'⟩ := clause'
      obtain ⟨-, key, hkey, -⟩ := Schema.addUnique_eq_ok.1 h
      cases hclause
      exact ⟨_, Schema.addUnique_eq_ok.2 ⟨hname, key, hsame.resolve hkey, rfl⟩⟩
    | _ => cases hclause
  | reference fk =>
    cases clause' with
    | reference fk' =>
      obtain ⟨name', columns', refTable', refColumns', onDelete', onUpdate'⟩ := fk'
      obtain ⟨target, onDelete, onUpdate, htarget, hcolumns, hdelete, hupdate, h⟩ := addReference_iff.1 h
      obtain ⟨-, key, hkey, hlength, -⟩ := Schema.addForeignKey_eq_ok.1 h
      cases hclause
      obtain ⟨target', htarget', htargets⟩ := hsame.parent htarget
      refine ⟨_, addReference_iff.2 ⟨target', onDelete, onUpdate, htarget', fun column hcolumn => ?_, hdelete, hupdate,
        Schema.addForeignKey_eq_ok.2 ⟨hname, key, hsame.resolve hkey, hlength, rfl⟩⟩⟩
      rw [htargets.hasColumn]
      exact hcolumns column hcolumn
    | _ => cases hclause
  | check clause number =>
    cases clause' with
    | check clause' number' =>
      obtain ⟨name', condition'⟩ := clause'
      obtain ⟨-, hcondition, -⟩ := Schema.addCheck_eq_ok.1 h
      cases hclause
      exact ⟨_, Schema.addCheck_eq_ok.2 ⟨hname, hcondition, rfl⟩⟩
    | _ => cases hclause

end ConstraintClause

/-! ## Adding all of them -/

open ConstraintClause

variable {clauses clauses' : List ConstraintClause}

theorem foldlM_addTo_eq_ok (h : clauses.foldlM (addTo db) s = .ok t) : SameColumns s t ∧
    t.constraintNames.Perm (s.constraintNames ++ clauses.map (ConstraintClause.name s.name)) := by
  induction clauses generalizing s with
  | nil =>
    cases h
    exact ⟨⟨rfl, rfl⟩, by simp⟩
  | cons clause clauses ih =>
    obtain ⟨s₁, hclause, h⟩ := foldlM_cons_eq_ok.1 h
    obtain ⟨-, hsame, -⟩ := addTo_eq_ok hclause
    obtain ⟨hrest, hall⟩ := ih h
    exact ⟨hsame.trans hrest, hall.trans (names_perm_of_addTo hclause clauses)⟩

/-- Constraints that can be added under some names can be added under others that may stand beside each other. -/
theorem foldlM_addTo_of_unnamed
    (hclauses : List.Forall₂ (fun clause clause' => clause'.unnamed = clause.unnamed) clauses clauses') (hsame : SameColumns s s') (h : clauses.foldlM (addTo db) s = .ok t)
    (hnames : NamesFormed (s'.constraintNames ++ clauses'.map (ConstraintClause.name s'.name))) :
    ∃ t', clauses'.foldlM (addTo db) s' = .ok t' := by
  induction hclauses generalizing s s' with
  | nil => exact ⟨s', rfl⟩
  | @cons clause clause' clauses clauses' hclause hclauses ih =>
    obtain ⟨s₁, hadd, h⟩ := foldlM_cons_eq_ok.1 h
    obtain ⟨-, hsame₁, -⟩ := addTo_eq_ok hadd
    have hname : s'.checkConstraintName (clause'.name s'.name) = .ok () :=
      Schema.checkConstraintName_eq_ok.2 hnames.split
    obtain ⟨s₁', hadd'⟩ := addTo_of_unnamed hclause hsame hadd hname
    obtain ⟨-, hsame₁', -⟩ := addTo_eq_ok hadd'
    have hsame' : SameColumns s₁ s₁' := (hsame₁.symm.trans hsame).trans hsame₁'
    have hrest : NamesFormed (s₁'.constraintNames ++ clauses'.map (ConstraintClause.name s₁'.name)) :=
      hnames.perm (names_perm_of_addTo hadd' clauses').symm
    obtain ⟨t', ht'⟩ := ih hsame' h hrest
    exact ⟨t', foldlM_cons_eq_ok.2 ⟨s₁', hadd', ht'⟩⟩

/-! ## The same statement under other names -/

/-- The statement without names for its constraints. -/
def withoutNames (statement : Sql.CreateTable) : Sql.CreateTable :=
  { statement with
    columns := statement.columns.map fun clause =>
      { clause with references := clause.references.map fun fk => { fk with name := none } }
    uniques := statement.uniques.map fun clause => { clause with name := none }
    foreignKeys := statement.foreignKeys.map fun fk => { fk with name := none }
    checks := statement.checks.map fun clause => { clause with name := none } }

theorem constraintClauses_withoutNames (statement : Sql.CreateTable) :
    constraintClauses (withoutNames statement) = (constraintClauses statement).map unnamed := by
  have hreferences : references (withoutNames statement)
      = (references statement).map fun fk => { fk with name := none } := by
    simp only [references, withoutNames, List.filterMap_map, List.map_append, List.map_filterMap, Function.comp_def]
  simp only [constraintClauses, hreferences]
  simp only [withoutNames, List.zipIdx_map, List.map_append, List.map_map, Function.comp_def, unnamed, Prod.map_fst,
    Prod.map_snd, id_eq]

/-- The columns and the primary key do not depend on the names. -/
theorem unconstrained_withoutNames (now : Timestamp) (statement : Sql.CreateTable) :
    unconstrained now (withoutNames statement) = unconstrained now statement := by
  have hcolumn : ∀ clause : Sql.ColumnClause,
      column { clause with references := clause.references.map fun fk => { fk with name := none } } = column clause := by
    intro clause
    simp only [column, Option.map_map, Option.bind_map, Function.comp_def]
  simp only [unconstrained, withoutNames, List.foldlM_map, hcolumn]

theorem unconstrained_eq_ok (h : unconstrained now statement = .ok s) :
    s.name = statement.table ∧ s.constraintNames = [] := by
  obtain ⟨s₀, hcreate, h⟩ := bind_eq_ok.1 h
  obtain ⟨s₁, hcolumns, h⟩ := bind_eq_ok.1 h
  have hs₀ : s₀.name = statement.table ∧ s₀.constraintNames = [] := by
    obtain ⟨-, hcreate⟩ := check_bind_eq_ok.1 hcreate
    cases hcreate
    exact ⟨rfl, rfl⟩
  have hs₁ : s₁.name = statement.table ∧ s₁.constraintNames = [] := by
    refine foldlM_preserves (P := fun s => s.name = statement.table ∧ s.constraintNames = []) ?_ hs₀ hcolumns
    intro s clause s' hs hadd
    obtain ⟨c, -, hadd⟩ := bind_eq_ok.1 hadd
    obtain ⟨-, rfl⟩ := Schema.addColumn_eq_ok.1 hadd
    exact hs
  unfold addPrimaryKey at h
  split at h
  · cases h
    exact hs₁
  · obtain ⟨key, -, rfl⟩ := Schema.addPrimaryKey_eq_ok.1 h
    exact hs₁

/-- A statement is another one with names for some of the constraints that have none there. -/
structure GivesNames (statement statement' : Sql.CreateTable) : Prop where
  same : withoutNames statement' = withoutNames statement
  kept : List.Forall₂ (fun clause clause' => ∀ name ∈ clause.written?, clause'.written? = some name)
    (constraintClauses statement) (constraintClauses statement')

namespace GivesNames

theorem refl (statement : Sql.CreateTable) : GivesNames statement statement :=
  ⟨rfl, List.forall₂_same.2 fun _ _ _ hname => hname⟩

theorem table (h : GivesNames statement statement') : statement'.table = statement.table := by
  have htable := congrArg Sql.CreateTable.table h.same
  exact htable

theorem ifNotExists (h : GivesNames statement statement') : statement'.ifNotExists = statement.ifNotExists := by
  have hidle := congrArg Sql.CreateTable.ifNotExists h.same
  exact hidle

theorem unconstrained (h : GivesNames statement statement') (now : Timestamp) :
    unconstrained now statement' = unconstrained now statement := by
  rw [← unconstrained_withoutNames, h.same, unconstrained_withoutNames]

theorem unnamed (h : GivesNames statement statement') :
    List.Forall₂ (fun clause clause' => clause'.unnamed = clause.unnamed) (constraintClauses statement')
      (constraintClauses statement) := by
  have hmap := constraintClauses_withoutNames statement
  rw [← h.same, constraintClauses_withoutNames, ← List.forall₂_eq_eq_eq, List.forall₂_map_left_iff,
    List.forall₂_map_right_iff] at hmap
  exact hmap.imp fun _ _ => Eq.symm

end GivesNames

/-- The names of its constraints stand beside each other in a table that is declared. -/
theorem namesFormed_of_schema (h : schema db now statement = .ok s) : NamesFormed (constraintNames statement) := by
  have hnames := (schema_declared h).wellFormed.constraints
  rw [schema_eq] at h
  obtain ⟨s₀, hs₀, h⟩ := bind_eq_ok.1 h
  obtain ⟨hname, hnone⟩ := unconstrained_eq_ok hs₀
  obtain ⟨-, hperm⟩ := foldlM_addTo_eq_ok h
  rw [hnone, hname] at hperm
  exact hnames.perm hperm

/-- A table that can be declared with other names can be declared with those of the statement if they may stand beside
each other. -/
theorem schema_of_givesNames (h : GivesNames statement statement') (hother : schema db now statement' = .ok t)
    (hnames : NamesFormed (constraintNames statement)) : ∃ t', schema db now statement = .ok t' := by
  rw [schema_eq] at hother
  obtain ⟨s₀, hs₀, hother⟩ := bind_eq_ok.1 hother
  rw [h.unconstrained] at hs₀
  obtain ⟨hname, hnone⟩ := unconstrained_eq_ok hs₀
  have hall : NamesFormed (s₀.constraintNames ++ (constraintClauses statement).map (ConstraintClause.name s₀.name)) := by
    rw [hnone, hname]
    exact hnames
  obtain ⟨t', ht'⟩ := foldlM_addTo_of_unnamed h.unnamed (.refl s₀) hother hall
  exact ⟨t', by rw [schema_eq, hs₀, ok_bind, ht']⟩

/-! ## Generated names -/

namespace ConstraintClause

theorem underscore_mem_generated (table : String) (clause : ConstraintClause) :
    '_' ∈ (clause.generated table).toList := by
  cases clause <;> simp [generated, nameOver]

/-- What is put together of characters of names is a name, if it is not too long. -/
theorem isFormed_generated {table : String} (htable : ∀ c ∈ table.toList, Name.isRest c = true)
    (clause : ConstraintClause) (hcolumns : ∀ column ∈ clause.columns, ∀ c ∈ column.toList, Name.isRest c = true) :
    Name.isFormed (clause.generated table).toList = true := by
  have hparts : ∀ last : List Char, (∀ c ∈ last, Name.isRest c = true) →
      ∀ c ∈ "_".toList ++ table.toList ++ "_".toList ++ last, Name.isRest c = true := by
    intro last hlast
    simp only [List.forall_mem_append]
    exact ⟨⟨⟨Name.isRest_underscore, htable⟩, Name.isRest_underscore⟩, hlast⟩
  cases clause with
  | unique clause =>
    have hafter := hparts _ (Name.isRest_of_mem_intercalate hcolumns)
    simp only [generated, nameOver, String.toList_append]
    exact Name.isFormed_cons rfl (List.forall_mem_cons.2 ⟨rfl, hafter⟩)
  | reference fk =>
    have hafter := hparts _ (Name.isRest_of_mem_intercalate hcolumns)
    simp only [generated, nameOver, String.toList_append]
    exact Name.isFormed_cons rfl (List.forall_mem_cons.2 ⟨rfl, hafter⟩)
  | check clause number =>
    have hnumber : ∀ c ∈ (Decimal.natText number).toList, Name.isRest c = true := by
      intro c hc
      rw [Decimal.natText, String.toList_ofList] at hc
      simp [Name.isRest, Char.isAlphanum, Decimal.isDigit_of_mem_natDigits hc]
    simp only [generated, String.toList_append]
    exact Name.isFormed_cons rfl (List.forall_mem_cons.2 ⟨rfl, List.forall_mem_cons.2 ⟨rfl, hparts _ hnumber⟩⟩)

theorem name_of_unwritten {clause : ConstraintClause} {table : String} (h : clause.written? = none) :
    clause.name table = clause.generated table := by
  rw [ConstraintClause.name, h, Option.getD_none]

theorem name_of_written {clause : ConstraintClause} {name : String} (h : clause.written? = some name) (table : String) :
    clause.name table = name := by
  rw [ConstraintClause.name, h, Option.getD_some]

end ConstraintClause

/-- The names that a statement leaves open can stand beside each other and beside those that it gives. -/
structure GeneratedNamesFit (statement : Sql.CreateTable) : Prop where
  short : ∀ clause ∈ constraintClauses statement, clause.written? = none →
    (clause.generated statement.table).length ≤ Name.maxLength
  formed : ∀ clause ∈ constraintClauses statement, clause.written? = none →
    Name.isFormed (clause.generated statement.table).toList = true
  apart : (constraintClauses statement).Pairwise fun clause other => clause.written? = none ∨ other.written? = none →
    sameName (clause.name statement.table) (other.name statement.table) = false

/-- Names that are put together of plain names need only be short and apart. -/
theorem generatedNamesFit_iff_of_plain (htable : ∀ c ∈ statement.table.toList, Name.isRest c = true)
    (hcolumns : ∀ clause ∈ constraintClauses statement, ∀ column ∈ clause.columns, ∀ c ∈ column.toList,
      Name.isRest c = true) : GeneratedNamesFit statement ↔
    (∀ clause ∈ constraintClauses statement, clause.written? = none →
      (clause.generated statement.table).length ≤ Name.maxLength) ∧
    (constraintClauses statement).Pairwise fun clause other => clause.written? = none ∨ other.written? = none →
      sameName (clause.name statement.table) (other.name statement.table) = false :=
  ⟨fun h => ⟨h.short, h.apart⟩,
    fun h => ⟨h.1, fun clause hclause _ => isFormed_generated htable clause (hcolumns clause hclause), h.2⟩⟩

theorem namesFormed_iff_pairwise {names : List String} : NamesFormed names ↔
    (∀ name ∈ names, checkName name = .ok ()) ∧ names.Pairwise fun name other => sameName name other = false := by
  have hdiffer : (names.map lower).Nodup ↔ names.Pairwise fun name other => sameName name other = false := by
    simp only [List.Nodup, List.pairwise_map, ne_eq, ← sameName_iff, Bool.not_eq_true]
  exact ⟨fun h => ⟨h.named, hdiffer.1 h.differ⟩, fun h => ⟨h.1, hdiffer.2 h.2⟩⟩

/-- What holds between the items of a list holds of the items that stand for them. -/
theorem pairwise_of_forall₂ {α β : Type} {R : α → β → Prop} {P : β → β → Prop} {as : List α} {bs : List β}
    (h : List.Forall₂ R as bs) (hbs : bs.Pairwise P) : as.Pairwise fun a c => ∃ b d, R a b ∧ R c d ∧ P b d := by
  induction h with
  | nil => exact .nil
  | @cons a b as bs hab hrest ih =>
    rw [List.pairwise_cons] at hbs
    refine .cons (fun c hc => ?_) (ih hbs.2)
    obtain ⟨d, hd, hcd⟩ := exists_mem_of_forall₂ hrest hc
    exact ⟨b, d, hab, hcd, hbs.1 d hd⟩

/-- Where other names may stand beside each other, it is for the generated names whether those of the statement may. -/
theorem GivesNames.namesFormed_iff (h : GivesNames statement statement')
    (hother : NamesFormed (constraintNames statement')) :
    NamesFormed (constraintNames statement) ↔ GeneratedNamesFit statement := by
  have hgenerated : ∀ clause : ConstraintClause, clause.written? = none →
      (checkName (clause.name statement.table) = .ok () ↔ (clause.generated statement.table).length ≤ Name.maxLength ∧
        Name.isFormed (clause.generated statement.table).toList = true) := by
    intro clause hnone
    rw [name_of_unwritten hnone, Name.checkName_of_underscore (underscore_mem_generated _ _)]
  simp only [namesFormed_iff_pairwise, constraintNames, List.forall_mem_map, List.pairwise_map] at hother ⊢
  constructor
  · rintro ⟨hnamed, hdiffer⟩
    exact {
      short := fun clause hclause hnone => ((hgenerated clause hnone).1 (hnamed clause hclause)).1
      formed := fun clause hclause hnone => ((hgenerated clause hnone).1 (hnamed clause hclause)).2
      apart := hdiffer.imp fun {clause other} hne (_ : clause.written? = none ∨ other.written? = none) => hne }
  · intro hfit
    have hsame : ∀ {clause clause' : ConstraintClause} {name : String},
        (∀ name ∈ clause.written?, clause'.written? = some name) → clause.written? = some name →
        clause.name statement.table = clause'.name statement'.table := by
      intro clause clause' name hkept hname
      rw [name_of_written hname, name_of_written (hkept name hname)]
    refine ⟨fun clause hclause => ?_, ((pairwise_of_forall₂ h.kept hother.2).and hfit.apart).imp ?_⟩
    · cases hwritten : clause.written? with
      | none =>
        have hshort := hfit.short clause hclause hwritten
        exact (hgenerated clause hwritten).2 ⟨hshort, hfit.formed clause hclause hwritten⟩
      | some name =>
        obtain ⟨clause', hclause', hkept⟩ := exists_mem_of_forall₂ h.kept hclause
        rw [hsame hkept hwritten]
        exact hother.1 clause' hclause'
    · rintro clause other ⟨⟨clause', other', hkept, hkept', hdiffer⟩, hapart⟩
      -- two names that are written are the same in the other statement
      cases hwritten : clause.written? with
      | none => exact hapart (.inl hwritten)
      | some name =>
        cases hwritten' : other.written? with
        | none => exact hapart (.inr hwritten')
        | some name' =>
          rw [hsame hkept hwritten, hsame hkept' hwritten']
          exact hdiffer

/-! ## Statements that are accepted -/

/-- The statement succeeds. -/
def Accepts (db : Database) (now : Timestamp) (statement : Sql.CreateTable) : Prop :=
  ∃ result, (createTable db now statement).1 = .ok result

/-- Whether a table is added depends on its name alone. -/
theorem addTable_congr (db : Database) (now : Timestamp) (h : s.name = s'.name) :
    (db.addTable now s).1 = (db.addTable now s').1 := by
  have hname : (Database.stamped s [] now).name = (Database.stamped s' [] now).name := h
  obtain ⟨hwritten, -⟩ := (Database.Alike.refl db).persist hname [] []
  unfold Database.addTable
  rw [h]
  split
  · rfl
  · dsimp only
    generalize db.persist (Database.stamped s [] now) [] = outcome at hwritten ⊢
    generalize db.persist (Database.stamped s' [] now) [] = outcome' at hwritten ⊢
    obtain ⟨written, saved⟩ := outcome
    obtain ⟨written', saved'⟩ := outcome'
    obtain rfl : written = written' := hwritten
    cases written <;> rfl

theorem accepts_of_new (hnew : db.hasTable statement.table = false) :
    Accepts db now statement ↔ ∃ s, schema db now statement = .ok s ∧ (db.addTable now s).1 = .ok () := by
  unfold Accepts createTable
  rw [hnew]
  cases hs : schema db now statement with
  | error failure => simp
  | ok s =>
    simp only [saying, Bool.false_eq_true, if_false, Except.ok.injEq, exists_eq_left']
    cases (db.addTable now s).1 <;> simp [Except.map]

theorem accepts_of_present (hpresent : db.hasTable statement.table = true) :
    Accepts db now statement ↔ statement.ifNotExists = true := by
  unfold Accepts createTable
  rw [hpresent]
  cases statement.ifNotExists <;> simp [refuse]

/-- A statement that is accepted with other names in the place of those that it leaves open is accepted exactly if
there is nothing to be declared, or the generated names can stand beside each other and beside those that it gives. -/
theorem createTable_accepts_iff (db : Database) (now : Timestamp) (statement : Sql.CreateTable) :
    Accepts db now statement ↔ (∃ statement', GivesNames statement statement' ∧ Accepts db now statement') ∧
      (db.hasTable statement.table = true ∨ GeneratedNamesFit statement) := by
  cases hpresent : db.hasTable statement.table with
  | true =>
    constructor
    · exact fun h => ⟨⟨statement, .refl statement, h⟩, .inl rfl⟩
    · rintro ⟨⟨statement', hgives, h⟩, -⟩
      rw [accepts_of_present hpresent, ← hgives.ifNotExists]
      exact (accepts_of_present (by rwa [hgives.table])).1 h
  | false =>
    constructor
    · intro h
      obtain ⟨s, hs, -⟩ := (accepts_of_new hpresent).1 h
      have hnames := namesFormed_of_schema hs
      exact ⟨⟨statement, .refl statement, h⟩, .inr (((GivesNames.refl statement).namesFormed_iff hnames).1 hnames)⟩
    · rintro ⟨⟨statement', hgives, h⟩, hfit⟩
      have hfit : GeneratedNamesFit statement := hfit.resolve_left nofun
      obtain ⟨t, ht, hadded⟩ := (accepts_of_new (by rwa [hgives.table])).1 h
      have hnames := (hgives.namesFormed_iff (namesFormed_of_schema ht)).2 hfit
      obtain ⟨t', ht'⟩ := schema_of_givesNames hgives ht hnames
      have hsame : t'.name = t.name := by rw [schema_name ht', schema_name ht, hgives.table]
      exact (accepts_of_new hpresent).2 ⟨t', ht', by rw [addTable_congr db now hsame, hadded]⟩

open Session (declared? plainClause plainTable)

/-- Two pairs of columns with one name between them. -/
def joinedText : String :=
  "CREATE TABLE t (a INT, a_b INT, c INT, b_c INT, UNIQUE (a_b, c), UNIQUE (a, b_c))"

/-- The table of the two pairs, of which neither has a name. -/
def joined : Sql.CreateTable :=
  { plainTable "t" [plainClause "a" "INT" [], plainClause "a_b" "INT" [], plainClause "c" "INT" [],
      plainClause "b_c" "INT" []] with
    uniques := [⟨none, ["a_b", "c"]⟩, ⟨none, ["a", "b_c"]⟩] }

/-- The same with names. -/
def joinedApart : Sql.CreateTable :=
  { joined with uniques := [⟨some "first_pair", ["a_b", "c"]⟩, ⟨some "second_pair", ["a", "b_c"]⟩] }

/-- All names of the statement are names, its two constraints are over different columns, and it would be accepted with
names for them. But both get the same name, for which it is refused. -/
theorem joined_refused : (Sql.parse joinedText).toOption.bind declared? = some joined ∧
    (∀ name ∈ joined.table :: joined.columns.map Sql.ColumnClause.name, checkName name = .ok ()) ∧
    (joined.uniques.map Sql.UniqueClause.columns).Nodup ∧
    (∀ clause ∈ constraintClauses joined, clause.written? = none ∧ clause.generated "t" = "uq_t_a_b_c") ∧
    (∃ statement', GivesNames joined statement' ∧ Accepts (.empty none) leapDay.time statement') ∧
    (createTable (.empty none) leapDay.time joined).1 = refuse (.schema (.duplicateConstraint "uq_t_a_b_c" "t")) := by
  have hgives : GivesNames joined joinedApart := ⟨rfl, .cons nofun (.cons nofun .nil)⟩
  have haccepts : (createTable (.empty none) leapDay.time joinedApart).1 = .ok (.done "Table 't' created") := by
    decide +kernel
  refine ⟨by decide +kernel, by decide +kernel, by decide +kernel, by decide +kernel, ⟨joinedApart, hgives, _, haccepts⟩,
    by decide +kernel⟩

end Execution

end Relational
