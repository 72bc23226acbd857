import Relational.Proofs.Schema.Columns

/-!
# Declared table definitions

A definition that was put together by declarations is well formed: names are names and differ, keys are over
columns that the table has, the columns of the primary key know that they are, and every condition can be read.
-/

namespace Relational

open Text

/-! ## Names -/

/-- Names that stand beside each other: each is a name, and no two are the same in any case. -/
structure NamesFormed (names : List String) : Prop where
  named : ∀ name ∈ names, checkName name = .ok ()
  differ : (names.map lower).Nodup

namespace NamesFormed

variable {names : List String} {name : String}

theorem nil : NamesFormed [] :=
  ⟨by simp, List.nodup_nil⟩

theorem perm {names' : List String} (h : NamesFormed names) (hperm : names.Perm names') : NamesFormed names' :=
  ⟨fun name hname => h.named name (hperm.mem_iff.2 hname), ((hperm.map lower).nodup_iff).1 h.differ⟩

theorem cons (h : NamesFormed names) (hname : checkName name = .ok ()) (hnew : names.any (sameName name) = false) :
    NamesFormed (name :: names) := by
  constructor
  · intro other hother
    rcases List.mem_cons.1 hother with rfl | hother
    · exact hname
    · exact h.named other hother
  · rw [List.map_cons, List.nodup_cons]
    refine ⟨?_, h.differ⟩
    intro hmem
    obtain ⟨other, hother, hlower⟩ := List.mem_map.1 hmem
    have hsame := List.any_eq_false.1 hnew other hother
    exact hsame (sameName_iff.2 hlower.symm)

theorem concat (h : NamesFormed names) (hname : checkName name = .ok ()) (hnew : names.any (sameName name) = false) :
    NamesFormed (names ++ [name]) :=
  (h.cons hname hnew).perm (List.perm_append_singleton name names).symm

theorem sublist {names' : List String} (h : NamesFormed names) (hsub : names'.Sublist names) : NamesFormed names' :=
  ⟨fun name hname => h.named name (hsub.subset hname), h.differ.sublist (hsub.map lower)⟩

/-- A name among names that may stand beside each other is new to those before it. -/
theorem split {before after : List String} (h : NamesFormed (before ++ name :: after)) :
    checkName name = .ok () ∧ before.any (sameName name) = false := by
  refine ⟨h.named name (by simp), ?_⟩
  rw [List.any_eq_false]
  intro other hother hsame
  have hdiffer := h.differ
  rw [List.map_append, List.map_cons, List.nodup_append] at hdiffer
  exact hdiffer.2.2 _ (List.mem_map_of_mem hother) _ List.mem_cons_self (sameName_iff.1 hsame).symm

end NamesFormed

/-! ## Columns -/

namespace Column

variable {c raw : Column}

theorem declare_eq_ok : raw.declare = .ok c ↔
    checkName raw.name = .ok () ∧ c = { raw with nullable := raw.nullable && !raw.primaryKey && !raw.notNull } := by
  rw [declare, check_bind_eq_ok, pure_eq_ok, Except.ok.injEq, eq_comm (a := c)]

/-- Declaring a declared column changes nothing. -/
theorem declare_declared (h : raw.declare = .ok c) : c.declare = .ok c := by
  obtain ⟨hname, rfl⟩ := declare_eq_ok.1 h
  refine declare_eq_ok.2 ⟨hname, ?_⟩
  cases raw.nullable <;> cases raw.primaryKey <;> cases raw.notNull <;> rfl

theorem declare_inPrimaryKey (h : c.declare = .ok c) : c.inPrimaryKey.declare = .ok c.inPrimaryKey :=
  declare_eq_ok.2 ⟨(declare_eq_ok.1 h).1, rfl⟩

end Column

namespace Schema

variable {s s' : Schema}

/-! ## Well-formed definitions -/

/-- Some columns of a table, at least one. -/
def ColumnsOf (s : Schema) (columns : List String) : Prop :=
  columns ≠ [] ∧ columns ⊆ s.columnNames

theorem ColumnsOf.hasColumn {columns : List String} (h : s.ColumnsOf columns) :
    ∀ name ∈ columns, s.hasColumn name = true :=
  fun _ hname => hasColumn_of_mem (h.2 hname)

theorem ColumnsOf.mono {columns : List String} (h : s.ColumnsOf columns) (hnames : s.columnNames ⊆ s'.columnNames) :
    s'.ColumnsOf columns :=
  ⟨h.1, List.Subset.trans h.2 hnames⟩

theorem resolve_columnsOf {what : String} {names key : List String} (h : s.resolve what names = .ok key) :
    s.ColumnsOf key :=
  ⟨resolve_ne_nil h, resolve_subset h⟩

/-- A column that the table has is resolved to itself. -/
theorem resolve_columnsOf_self {s : Schema} (hs : s.ColumnsDiffer) {columns : List String} (h : s.ColumnsOf columns)
    (what : String) : s.resolve what columns = .ok columns := by
  rw [resolve_eq_ok, List.forall₂_same]
  refine ⟨h.1, fun name hname => ?_⟩
  obtain ⟨c, hc, rfl⟩ := List.mem_map.1 (h.2 hname)
  rw [spelling, hs.column?_eq hc rfl]
  rfl

/-- A key is over columns that are marked as part of it, and without a key no column is. -/
structure KeyMarked (columns : List Column) (key : List String) : Prop where
  marked : ∀ name ∈ key, ∃ c ∈ columns, c.name = name ∧ c.primaryKey = true
  unmarked : key = [] → ∀ c ∈ columns, c.primaryKey = false

/-- A definition of which every part could be declared beside the others. -/
structure WellFormed (s : Schema) : Prop where
  named : checkName s.name = .ok ()
  columns : ∀ c ∈ s.columns, c.declare = .ok c
  columnsDiffer : s.ColumnsDiffer
  key : KeyMarked s.columns s.primaryKey
  constraints : NamesFormed s.constraintNames
  uniques : ∀ rule ∈ s.uniques, s.ColumnsOf rule.2
  foreignKeys : ∀ rule ∈ s.foreignKeys, s.ColumnsOf rule.2.columns ∧ rule.2.columns.length = rule.2.refColumns.length
  checks : ∀ check ∈ s.checks, ∃ condition, Condition.compile check.2 = .ok condition
  indexNames : NamesFormed (s.indexes.map Prod.fst)
  indexes : ∀ index ∈ s.indexes, s.ColumnsOf index.2.columns

theorem create_wellFormed {name description : String} {isTemp : Bool} {now : Timestamp}
    (h : create name description isTemp now = .ok s) : s.WellFormed := by
  simp only [create, bind_eq_ok] at h
  obtain ⟨_, hname, h⟩ := h
  cases h
  exact {
    named := hname
    columns := by simp
    columnsDiffer := List.nodup_nil
    key := ⟨by simp, by simp⟩
    constraints := .nil
    uniques := by simp
    foreignKeys := by simp
    checks := by simp
    indexNames := .nil
    indexes := by simp }

/-! ## Columns are added -/

theorem addColumn_eq_ok {c : Column} : s.addColumn c = .ok s' ↔ s.hasColumn c.name = false ∧
    s' = { s with
      columns := s.columns ++ [c]
      primaryKey := if c.primaryKey then s.primaryKey ++ [c.name] else s.primaryKey } := by
  unfold addColumn
  split
  · rename_i hhas
    simp [hhas]
  · rename_i hhas
    rw [Bool.not_eq_true] at hhas
    rw [Except.ok.injEq, and_iff_right hhas, eq_comm]

theorem KeyMarked.concat {columns : List Column} {key : List String} (h : KeyMarked columns key) (c : Column) :
    KeyMarked (columns ++ [c]) (if c.primaryKey then key ++ [c.name] else key) := by
  constructor
  · intro name hname
    by_cases hc : c.primaryKey = true
    · rw [if_pos hc, List.mem_append, List.mem_singleton] at hname
      rcases hname with hname | rfl
      · obtain ⟨d, hd, hmarked⟩ := h.marked name hname
        exact ⟨d, List.mem_append_left _ hd, hmarked⟩
      · exact ⟨c, by simp, rfl, hc⟩
    · rw [if_neg hc] at hname
      obtain ⟨d, hd, hmarked⟩ := h.marked name hname
      exact ⟨d, List.mem_append_left _ hd, hmarked⟩
  · intro hempty d hd
    cases hc : c.primaryKey with
    | true => simp [hc] at hempty
    | false =>
      rw [hc] at hempty
      rcases List.mem_append.1 hd with hd | hd
      · exact h.unmarked hempty d hd
      · rw [List.mem_singleton.1 hd, hc]

theorem addColumn_wellFormed (h : s.WellFormed) {raw c : Column} (hc : raw.declare = .ok c)
    (hs : s.addColumn c = .ok s') : s'.WellFormed := by
  obtain ⟨hnew, rfl⟩ := addColumn_eq_ok.1 hs
  -- keys over the old columns are keys over the new ones
  have hnames : s.columnNames ⊆ (s.columns ++ [c]).map Column.name := by simp [columnNames]
  exact {
    named := h.named
    columns := by
      rw [List.forall_mem_append, List.forall_mem_singleton]
      exact ⟨h.columns, Column.declare_declared hc⟩
    columnsDiffer := by
      have hnot : lower c.name ∉ s.columns.map fun c => lower c.name := by
        intro hmem
        obtain ⟨d, hd, hlower⟩ := List.mem_map.1 hmem
        rw [hasColumn_iff.2 ⟨d, hd, hlower⟩] at hnew
        cases hnew
      rw [ColumnsDiffer, List.map_append, List.nodup_append]
      refine ⟨h.columnsDiffer, by simp, ?_⟩
      rintro a ha b hb rfl
      rw [List.map_singleton, List.mem_singleton] at hb
      exact hnot (hb ▸ ha)
    key := h.key.concat c
    constraints := h.constraints
    uniques := fun rule hrule => (h.uniques rule hrule).mono hnames
    foreignKeys := fun rule hrule => ⟨(h.foreignKeys rule hrule).1.mono hnames, (h.foreignKeys rule hrule).2⟩
    checks := h.checks
    indexNames := h.indexNames
    indexes := fun index hindex => (h.indexes index hindex).mono hnames }

/-! ## The primary key is declared -/

/-- The column, marked as part of a key if the key names it. -/
def markedIn (key : List String) (c : Column) : Column :=
  if key.contains c.name then c.inPrimaryKey else c

@[simp] theorem markedIn_name (key : List String) (c : Column) : (markedIn key c).name = c.name := by
  unfold markedIn
  split <;> rfl

theorem addPrimaryKey_eq_ok {columns : List String} : s.addPrimaryKey columns = .ok s' ↔
    ∃ key, s.resolve "PRIMARY KEY" columns = .ok key ∧
      s' = { s with columns := s.columns.map (markedIn key), primaryKey := key } := by
  simp only [addPrimaryKey, bind_eq_ok, pure_eq_ok, Except.ok.injEq, eq_comm (a := s')]
  rfl

theorem map_markedIn_names (key : List String) (columns : List Column) :
    (columns.map (markedIn key)).map Column.name = columns.map Column.name := by
  rw [List.map_map]
  exact List.map_congr_left fun c _ => markedIn_name key c

theorem addPrimaryKey_wellFormed (h : s.WellFormed) {columns : List String}
    (hs : s.addPrimaryKey columns = .ok s') : s'.WellFormed := by
  obtain ⟨key, hkey, rfl⟩ := addPrimaryKey_eq_ok.1 hs
  have hnames : s.columnNames ⊆ (s.columns.map (markedIn key)).map Column.name := by
    rw [map_markedIn_names]
    exact List.Subset.refl _
  exact {
    named := h.named
    columns := by
      intro d hd
      obtain ⟨c, hc, rfl⟩ := List.mem_map.1 hd
      unfold markedIn
      split
      · exact Column.declare_inPrimaryKey (h.columns c hc)
      · exact h.columns c hc
    columnsDiffer := by
      rw [ColumnsDiffer, List.map_map]
      have hlower : s.columns.map ((fun c => lower c.name) ∘ markedIn key) = s.columns.map fun c => lower c.name :=
        List.map_congr_left fun c _ => by rw [Function.comp_apply, markedIn_name]
      rw [hlower]
      exact h.columnsDiffer
    key := by
      refine ⟨?_, fun hempty => absurd hempty (resolve_ne_nil hkey)⟩
      intro name hname
      obtain ⟨c, hc, rfl⟩ := List.mem_map.1 (resolve_subset hkey hname)
      refine ⟨markedIn key c, List.mem_map_of_mem hc, markedIn_name key c, ?_⟩
      rw [markedIn, if_pos (by simpa using hname)]
      rfl
    constraints := h.constraints
    uniques := fun rule hrule => (h.uniques rule hrule).mono hnames
    foreignKeys := fun rule hrule => ⟨(h.foreignKeys rule hrule).1.mono hnames, (h.foreignKeys rule hrule).2⟩
    checks := h.checks
    indexNames := h.indexNames
    indexes := fun index hindex => (h.indexes index hindex).mono hnames }

/-! ## Constraints are added -/

theorem checkConstraintName_eq_ok {name : String} : s.checkConstraintName name = .ok () ↔
    checkName name = .ok () ∧ s.constraintNames.any (sameName name) = false := by
  unfold checkConstraintName
  rw [check_bind_eq_ok]
  by_cases h : s.constraintNames.any (sameName name) = true <;> simp [h]

theorem addUnique_eq_ok {name : String} {columns : List String} : s.addUnique name columns = .ok s' ↔
    s.checkConstraintName name = .ok () ∧ ∃ key, s.resolve "UNIQUE" columns = .ok key ∧
      s' = { s with uniques := s.uniques ++ [(name, key)] } := by
  rw [addUnique, check_bind_eq_ok]
  simp only [bind_eq_ok, pure_eq_ok, Except.ok.injEq, eq_comm (a := s')]

theorem addUnique_wellFormed (h : s.WellFormed) {name : String} {columns : List String}
    (hs : s.addUnique name columns = .ok s') : s'.WellFormed := by
  obtain ⟨hname, key, hkey, rfl⟩ := addUnique_eq_ok.1 hs
  obtain ⟨hname, hnew⟩ := checkConstraintName_eq_ok.1 hname
  exact {
    named := h.named
    columns := h.columns
    columnsDiffer := h.columnsDiffer
    key := h.key
    constraints := by
      -- the new name stands behind those of the same kind, before those of the other kinds
      refine (h.constraints.cons hname hnew).perm ?_
      simp only [constraintNames, List.map_append, List.map_singleton, List.append_assoc]
      exact List.perm_middle.symm
    uniques := by
      rw [List.forall_mem_append, List.forall_mem_singleton]
      exact ⟨h.uniques, resolve_columnsOf hkey⟩
    foreignKeys := h.foreignKeys
    checks := h.checks
    indexNames := h.indexNames
    indexes := h.indexes }

theorem addForeignKey_eq_ok {name : String} {fk : ForeignKey} : s.addForeignKey name fk = .ok s' ↔
    s.checkConstraintName name = .ok () ∧ ∃ columns, s.resolve "FOREIGN KEY" fk.columns = .ok columns ∧
      columns.length = fk.refColumns.length ∧
      s' = { s with foreignKeys := s.foreignKeys ++ [(name, { fk with columns := columns })] } := by
  unfold addForeignKey
  simp only [bind_eq_ok]
  constructor
  · rintro ⟨_, hname, columns, hcolumns, h⟩
    split at h
    · simp at h
    · rename_i hlength
      cases h
      exact ⟨hname, columns, hcolumns, by simpa using hlength, rfl⟩
  · rintro ⟨hname, columns, hcolumns, hlength, rfl⟩
    exact ⟨(), hname, columns, hcolumns, by simp [hlength]⟩

theorem addForeignKey_wellFormed (h : s.WellFormed) {name : String} {fk : ForeignKey}
    (hs : s.addForeignKey name fk = .ok s') : s'.WellFormed := by
  obtain ⟨hname, columns, hcolumns, hlength, rfl⟩ := addForeignKey_eq_ok.1 hs
  obtain ⟨hname, hnew⟩ := checkConstraintName_eq_ok.1 hname
  exact {
    named := h.named
    columns := h.columns
    columnsDiffer := h.columnsDiffer
    key := h.key
    constraints := by
      refine (h.constraints.cons hname hnew).perm ?_
      simp only [constraintNames, List.map_append, List.map_singleton, List.append_assoc]
      rw [← List.append_assoc, ← List.append_assoc (s.uniques.map Prod.fst)]
      exact List.perm_middle.symm
    uniques := h.uniques
    foreignKeys := by
      rw [List.forall_mem_append, List.forall_mem_singleton]
      exact ⟨h.foreignKeys, resolve_columnsOf hcolumns, hlength⟩
    checks := h.checks
    indexNames := h.indexNames
    indexes := h.indexes }

theorem addCheck_eq_ok {name condition : String} : s.addCheck name condition = .ok s' ↔
    s.checkConstraintName name = .ok () ∧ (∃ c, Condition.compile condition = .ok c) ∧
      s' = { s with checks := s.checks ++ [(name, condition)] } := by
  rw [addCheck, check_bind_eq_ok]
  simp only [bind_eq_ok, pure_eq_ok, Except.ok.injEq, eq_comm (a := s'), exists_and_right]

theorem addCheck_wellFormed (h : s.WellFormed) {name condition : String}
    (hs : s.addCheck name condition = .ok s') : s'.WellFormed := by
  obtain ⟨hname, hcondition, rfl⟩ := addCheck_eq_ok.1 hs
  obtain ⟨hname, hnew⟩ := checkConstraintName_eq_ok.1 hname
  exact {
    named := h.named
    columns := h.columns
    columnsDiffer := h.columnsDiffer
    key := h.key
    constraints := by
      refine (h.constraints.concat hname hnew).perm ?_
      simp only [constraintNames, List.map_append, List.map_singleton, List.append_assoc]
      exact .refl _
    uniques := h.uniques
    foreignKeys := h.foreignKeys
    checks := by
      rw [List.forall_mem_append, List.forall_mem_singleton]
      exact ⟨h.checks, hcondition⟩
    indexNames := h.indexNames
    indexes := h.indexes }

/-! ## Indexes are added and removed -/

theorem addIndex_eq_ok {name : String} {columns : List String} {unique : Bool} :
    s.addIndex name columns unique = .ok s' ↔
      checkName name = .ok () ∧ (s.indexes.map Prod.fst).any (sameName name) = false ∧
        ∃ key, s.resolve "INDEX" columns = .ok key ∧
          s' = { s with indexes := s.indexes ++ [(name, ⟨key, unique⟩)] } := by
  have hsame : (s.indexes.any fun index => sameName index.1 name) = (s.indexes.map Prod.fst).any (sameName name) := by
    rw [List.any_map]
    congr 1
    funext index
    simp [sameName, Bool.beq_comm]
  unfold addIndex
  rw [hsame]
  simp only [bind_eq_ok]
  constructor
  · rintro ⟨_, hname, h⟩
    split at h
    · simp at h
    · rename_i hnew
      simp only [bind_eq_ok] at h
      obtain ⟨key, hkey, h⟩ := h
      cases h
      exact ⟨hname, by simpa using hnew, key, hkey, rfl⟩
  · rintro ⟨hname, hnew, key, hkey, rfl⟩
    exact ⟨(), hname, by simp [hnew, hkey]⟩

theorem addIndex_wellFormed (h : s.WellFormed) {name : String} {columns : List String} {unique : Bool}
    (hs : s.addIndex name columns unique = .ok s') : s'.WellFormed := by
  obtain ⟨hname, hnew, key, hkey, rfl⟩ := addIndex_eq_ok.1 hs
  exact {
    named := h.named
    columns := h.columns
    columnsDiffer := h.columnsDiffer
    key := h.key
    constraints := h.constraints
    uniques := h.uniques
    foreignKeys := h.foreignKeys
    checks := h.checks
    indexNames := by
      rw [List.map_append]
      exact h.indexNames.concat hname hnew
    indexes := by
      rw [List.forall_mem_append, List.forall_mem_singleton]
      exact ⟨h.indexes, resolve_columnsOf hkey⟩ }

theorem removeIndex_wellFormed (h : s.WellFormed) (name : String) : (s.removeIndex name).WellFormed := {
  named := h.named
  columns := h.columns
  columnsDiffer := h.columnsDiffer
  key := h.key
  constraints := h.constraints
  uniques := h.uniques
  foreignKeys := h.foreignKeys
  checks := h.checks
  indexNames := h.indexNames.sublist (List.eraseP_sublist.map _)
  indexes := fun index hindex => h.indexes index (List.eraseP_subset hindex) }

/-! ## Declarations in any order -/

/-- A definition that declarations, one after the other, put together. What no declaration looks at may be
anything. -/
inductive Declared : Schema → Prop where
  | create {s : Schema} {name description : String} {isTemp : Bool} {now : Timestamp}
      (h : Schema.create name description isTemp now = .ok s) : Declared s
  | addColumn {s s' : Schema} {raw c : Column} (hs : Declared s) (hc : raw.declare = .ok c)
      (h : s.addColumn c = .ok s') : Declared s'
  | addPrimaryKey {s s' : Schema} {columns : List String} (hs : Declared s)
      (h : s.addPrimaryKey columns = .ok s') : Declared s'
  | addUnique {s s' : Schema} {name : String} {columns : List String} (hs : Declared s)
      (h : s.addUnique name columns = .ok s') : Declared s'
  | addForeignKey {s s' : Schema} {name : String} {fk : ForeignKey} (hs : Declared s)
      (h : s.addForeignKey name fk = .ok s') : Declared s'
  | addCheck {s s' : Schema} {name condition : String} (hs : Declared s)
      (h : s.addCheck name condition = .ok s') : Declared s'
  | addIndex {s s' : Schema} {name : String} {columns : List String} {unique : Bool} (hs : Declared s)
      (h : s.addIndex name columns unique = .ok s') : Declared s'
  | removeIndex {s : Schema} (hs : Declared s) (name : String) : Declared (s.removeIndex name)
  | annotate {s : Schema} (hs : Declared s) (description : String) (isTemp : Bool) (rowCount : Nat)
      (createdAt modifiedAt : Timestamp) (written : List (String × Json)) :
      Declared { s with
        description := description
        isTemp := isTemp
        rowCount := rowCount
        createdAt := createdAt
        modifiedAt := modifiedAt
        written := written }

theorem Declared.wellFormed (h : s.Declared) : s.WellFormed := by
  induction h with
  | create h => exact create_wellFormed h
  | addColumn _ hc h ih => exact addColumn_wellFormed ih hc h
  | addPrimaryKey _ h ih => exact addPrimaryKey_wellFormed ih h
  | addUnique _ h ih => exact addUnique_wellFormed ih h
  | addForeignKey _ h ih => exact addForeignKey_wellFormed ih h
  | addCheck _ h ih => exact addCheck_wellFormed ih h
  | addIndex _ h ih => exact addIndex_wellFormed ih h
  | removeIndex _ name ih => exact removeIndex_wellFormed ih name
  | annotate _ _ _ _ _ _ _ ih => exact ⟨ih.named, ih.columns, ih.columnsDiffer, ih.key, ih.constraints, ih.uniques,
      ih.foreignKeys, ih.checks, ih.indexNames, ih.indexes⟩

end Schema

end Relational
