import Relational.Proofs.Database.References

/-!
# References within a table

A table may refer to itself. Then the row that a row refers to can go away in one way only: an update gives a row
that refers to itself another key, and keeps the reference. All other changes keep every reference in place.
-/

namespace Relational.Database

/-- Every row that refers to a row of its own table, by a key without NULL, finds one there. -/
def SelfReferencesHold (db : Database) : Prop :=
  ∀ entry ∈ db.tables, ∀ rule ∈ entry.2.schema.foreignKeys, keyOf rule.2.refTable = entry.1 →
    ∀ row ∈ entry.2.rows, (∀ cell ∈ entry.2.schema.cells rule.2.columns row, cell.isNull = false) →
      (∀ name ∈ rule.2.columns ++ rule.2.refColumns, entry.2.schema.hasColumn name = true) ∧
        ∃ other ∈ entry.2.rows, entry.2.schema.cells rule.2.refColumns other
          = entry.2.schema.cells rule.2.columns row

instance (db : Database) : Decidable db.SelfReferencesHold :=
  inferInstanceAs (Decidable (∀ entry ∈ db.tables, ∀ rule ∈ entry.2.schema.foreignKeys, _ → ∀ row ∈ entry.2.rows, _ →
    _ ∧ ∃ other ∈ entry.2.rows, _))

/-- The foreign keys of a table to itself. -/
def IsOwn (key : String) (fk : ForeignKey) : Prop :=
  keyOf fk.refTable = key

variable {db db' : Database}

theorem table?_eq_of_isOwn (hsound : db.Sound) {entry : String × Table} (hentry : entry ∈ db.tables) {fk : ForeignKey}
    (hown : IsOwn entry.1 fk) : db.table? fk.refTable = some entry.2 := by
  rw [hsound.table?_eq_some_iff, show keyOf fk.refTable = entry.1 from hown]
  exact hentry

theorem selfReferencesHold_iff (hsound : db.Sound) : db.SelfReferencesHold ↔ db.ReferencesHold IsOwn := by
  constructor
  · intro h entry hentry rule hrule hown k hnull ⟨row, hrow, hk⟩
    have hpresent : ∀ cell ∈ entry.2.schema.cells rule.2.columns row, cell.isNull = false := by
      rw [hk]
      exact Cell.forall_isNull_eq_false_iff.2 hnull
    obtain ⟨hall, other, hother, heq⟩ := h entry hentry rule hrule hown row hrow hpresent
    exact ⟨entry.2, table?_eq_of_isOwn hsound hentry hown, fun name hname => hall name (List.mem_append_right _ hname),
      other, hother, heq.trans hk⟩
  · intro h entry hentry rule hrule hown row hrow hpresent
    obtain ⟨k, hcells, hnull, hheld⟩ := exists_hasKey hsound hentry hrow hpresent
    rw [hcells]
    obtain ⟨parent, hparent, hall, other, hother, heq⟩ := h entry hentry rule hrule hown k hnull hheld
    rw [table?_eq_of_isOwn hsound hentry hown] at hparent
    cases hparent
    refine ⟨?_, other, hother, heq⟩
    have hcolumns := ((hsound.tables _ hentry).wellFormed.foreignKeys rule hrule).1.hasColumn
    exact fun name hname => (List.mem_append.1 hname).elim (hcolumns name) (hall name)

/-- A stranded row refers to no row. -/
theorem Strands.not_selfReferencesHold (h : db.Strands db') : ¬ db'.SelfReferencesHold := by
  obtain ⟨key, t, t', rule, i, old, new, -, hmem, hrule, hown, hrows, hstrands⟩ := h
  intro hholds
  have hlt : i < t.rows.length := (List.getElem?_eq_some_iff.1 hstrands.replaced).1
  have hnew : new ∈ t'.rows := by
    rw [hrows]
    exact List.mem_set hlt new
  obtain ⟨-, other, hother, heq⟩ := hholds _ hmem rule hrule hown new hnew hstrands.present
  rw [hstrands.refers] at heq
  rw [hrows] at hother
  obtain ⟨j, hj⟩ := List.mem_iff_getElem?.1 hother
  -- the row referred to would be the new one or another, and neither has the key
  rcases getElem?_set_eq_some hj with ⟨-, rfl⟩ | ⟨hne, hj⟩
  · exact hstrands.gone heq
  · exact hstrands.alone j other hne hj heq

/-- Any step but one that strands a row keeps the references of all tables to themselves. -/
theorem SelfReferencesHold.after (hsound : db.Sound) (h : db.SelfReferencesHold) (step : Step)
    (hstrand : ¬ db.Strands (db.after step)) : (db.after step).SelfReferencesHold := by
  rw [selfReferencesHold_iff (after_sound hsound step)]
  rw [selfReferencesHold_iff hsound] at h
  rcases after_transition hsound step with ⟨now, ht⟩ | ⟨directory, hafter⟩
  · exact ht.referencesHold hsound h fun _ _ _ _ => hstrand
  · rw [hafter]
    exact h.of_tables_eq rfl

/-- Along a run from an empty database every table's references to itself hold in all states, exactly if no step
replaces a row by one that refers to the key that only the replaced row had. -/
theorem run_selfReferencesHold_iff (directory : Option Directory) (steps : List Step) :
    (∀ n, ((empty directory).run (steps.take n)).SelfReferencesHold) ↔
      ∀ n, ¬ ((empty directory).run (steps.take n)).Strands ((empty directory).run (steps.take (n + 1))) := by
  constructor
  · exact fun h n hstrands => hstrands.not_selfReferencesHold (h (n + 1))
  · intro h
    refine forall_foldl_take (P := SelfReferencesHold) (fun _ hentry => by cases hentry) ?_
    intro n step ih hnext
    have hn := h n
    rw [run, run, hnext] at hn
    exact ih.after (run_sound directory _) step hn

/-! ## A row that refers to itself -/

namespace Ring

/-- A moment at which the steps below are made. -/
def moment : Timestamp :=
  ⟨⟨2024, 2, 29⟩, ⟨12, 34, 56⟩⟩

/-- The key of a link. -/
def idColumn : Column :=
  { name := "id", type := .text, nullable := false, primaryKey := true }

/-- The key of the next link. -/
def nextColumn : Column :=
  { name := "next", type := .text }

/-- A reference from each link to the next. -/
def nextLink : ForeignKey :=
  ⟨["next"], "ring", ["id"], .restrict, .restrict⟩

/-- A table of links, each of which may refer to another. -/
def schema : Schema :=
  { name := "ring"
    description := ""
    isTemp := false
    columns := [idColumn, nextColumn]
    primaryKey := ["id"]
    uniques := []
    foreignKeys := [("fk_ring_next", nextLink)]
    checks := []
    indexes := []
    rowCount := 0
    createdAt := moment
    modifiedAt := moment
    written := [] }

theorem declared : schema.Declared := by
  have hname : Schema.create "ring" "" false moment
      = .ok { schema with columns := [], primaryKey := [], foreignKeys := [] } := by decide +kernel
  have hid : idColumn.declare = .ok idColumn := by decide +kernel
  have hnext : nextColumn.declare = .ok nextColumn := by decide +kernel
  have hone : ({ schema with columns := [], primaryKey := [], foreignKeys := [] } : Schema).addColumn idColumn
      = .ok { schema with columns := [idColumn], foreignKeys := [] } := by decide +kernel
  have htwo : ({ schema with columns := [idColumn], foreignKeys := [] } : Schema).addColumn nextColumn
      = .ok { schema with foreignKeys := [] } := by decide +kernel
  have hlink : ({ schema with foreignKeys := [] } : Schema).addForeignKey "fk_ring_next" nextLink = .ok schema := by
    decide +kernel
  exact ((((Schema.Declared.create hname).addColumn hid hone).addColumn hnext htwo).addForeignKey hlink)

/-- A link is put in, made to refer to itself, and then given another key with the same reference. -/
def steps : List Step :=
  [.addTable moment schema declared, .insertRow moment "ring" (.cells ["a", "NULL"]),
    .updateRow moment "ring" 0 (.cells ["a", "a"]), .updateRow moment "ring" 0 (.cells ["b", "a"])]

end Ring

/-- The reference of a link to itself outlives the key. -/
theorem own_reference_lost : ¬ ((empty none).run Ring.steps).SelfReferencesHold := by
  decide +kernel

end Relational.Database
