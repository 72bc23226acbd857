import Mathlib.Logic.Relation
import Relational.Proofs.Database.Answers
import Relational.Proofs.Database.References

/-!
# What a table demands while it stands

A row is checked against the columns, the key and the conditions of its table. Nothing that is asked of a database
changes these: rows and indexes come and go, and a table that is loaded from the directory demands the same, since the
database wrote it. So a table demands the same of a row for as long as it stands under its name.
-/

namespace Relational

namespace Database

open Relation (ReflTransGen)
open Storage (Reads)

variable {K : RowInvariant} {db db' saved : Database} {now : Timestamp} {key name : String} {t t' : Table}

/-! ## The tables of a database -/

@[simp] theorem stamped_demands (s : Schema) (cells : List (List Cell)) (now : Timestamp) :
    (stamped s cells now).demands = s.demands := rfl

@[simp] theorem storedTable_demands (s : Schema) (rows : List (List String)) (now : Timestamp) :
    (storedTable s rows now).schema.demands = s.demands := rfl

/-- What the table under a key demands. -/
def demandsAt (db : Database) (key : String) : Option Schema.Demands :=
  (db.tables.lookup key).map fun t => t.schema.demands

theorem demandsAt_of_table? (h : db.table? name = some t) : db.demandsAt (keyOf name) = some t.schema.demands := by
  rw [table?] at h
  rw [demandsAt, h, Option.map_some]

theorem demandsAt_of_tables_eq (h : db'.tables = db.tables) : db'.demandsAt = db.demandsAt := by
  funext key
  rw [demandsAt, demandsAt, h]

theorem demandsAt_setTable (db : Database) (key : String) (t : Table) (other : String) :
    (db.setTable key t).demandsAt other = if other = key then some t.schema.demands else db.demandsAt other := by
  rw [demandsAt, setTable, lookup_setEntry]
  simp only [beq_iff_eq]
  split <;> rfl

/-- A table that demands the same is put in the place of another. -/
theorem demandsAt_setTable_same (h : db.demandsAt key = some t.schema.demands) :
    (db.setTable key t).demandsAt = db.demandsAt := by
  funext other
  rw [demandsAt_setTable]
  split
  · rename_i hother
    rw [hother, h]
  · rfl

theorem demandsAt_dropTable (h : (db.tables.map Prod.fst).Nodup) (key other : String) :
    (db.dropTable key).demandsAt other = none ∨ (db.dropTable key).demandsAt other = db.demandsAt other := by
  cases hfound : (db.dropTable key).tables.lookup other with
  | none => exact .inl (by rw [demandsAt, hfound, Option.map_none])
  | some t =>
    have hmem := (removeEntry_sublist key db.tables).subset (mem_of_lookup_eq_some hfound)
    refine .inr ?_
    rw [demandsAt, demandsAt, hfound, lookup_eq_some_of_mem h hmem]

/-! ## Steps -/

/-- Under each name there is no table any more, or one that demands what the one before demanded, if there was one. -/
def KeepsDemands (db db' : Database) : Prop :=
  ∀ key demands demands', db.demandsAt key = some demands → db'.demandsAt key = some demands' → demands' = demands

theorem KeepsDemands.of_eq (h : db'.demandsAt = db.demandsAt) : db.KeepsDemands db' := by
  intro key demands demands' hbefore hafter
  rw [h, hbefore] at hafter
  exact (Option.some.inj hafter).symm

theorem KeepsDemands.setTable (h : saved.tables = db.tables)
    (ht : ∀ demands, db.demandsAt key = some demands → t.schema.demands = demands) :
    db.KeepsDemands (saved.setTable key t) := by
  intro other demands demands' hbefore hafter
  rw [demandsAt_setTable, demandsAt_of_tables_eq h] at hafter
  split at hafter
  · rename_i hother
    rw [hother] at hbefore
    rw [← Option.some.inj hafter]
    exact ht demands hbefore
  · rw [hbefore] at hafter
    exact (Option.some.inj hafter).symm

/-- A table that a step puts in its place demands what the one before demanded. -/
theorem Planned.demands {step : Step} {instead : Option Table} (h : Planned db step (.put key t instead))
    {demands : Schema.Demands} (hbefore : db.demandsAt key = some demands) :
    t.schema.demands = demands ∧ ∀ other ∈ instead, other.schema.demands = demands := by
  have hsame : ∀ {name t₀}, db.table? name = some t₀ → db.demandsAt (keyOf name) = some demands →
      t₀.schema.demands = demands := by
    intro name t₀ ht hdemands
    rw [demandsAt_of_table? ht] at hdemands
    exact Option.some.inj hdemands
  cases h with
  | @added now s _ hnew =>
    -- there was no table under the name
    have hnone := table?_eq_none_of_hasTable hnew s.name rfl
    rw [table?] at hnone
    rw [demandsAt, hnone] at hbefore
    cases hbefore
  | inserted ht hrows hrow =>
    have hold := hsame ht hbefore
    exact ⟨hold, fun _ hnone => by cases hnone⟩
  | updated ht hrows hi hrow =>
    have hold := hsame ht hbefore
    exact ⟨hold, fun _ hnone => by cases hnone⟩
  | deleted ht hrows hi =>
    have hold := hsame ht hbefore
    exact ⟨hold, fun _ hnone => by cases hnone⟩
  | indexed ht hrows hindex =>
    have hold := hsame ht hbefore
    refine ⟨(Schema.demands_addIndex hindex).trans hold, ?_⟩
    rintro other ⟨⟩
    exact hold

theorem Planned.keepsDemands {step : Step} {change : Change} (hdb : db.Consistent K) (h : Planned db step change) :
    db.KeepsDemands (db.make change).2 := by
  cases change with
  | put key t instead =>
    rw [make]
    split
    · rename_i saved hsaved
      exact .setTable (tables_of_persist hsaved) fun demands hbefore => (h.demands hbefore).1
    · rename_i failure saved hsaved
      have htables := tables_of_persist hsaved
      cases instead with
      | none => exact .of_eq (demandsAt_of_tables_eq htables)
      | some other => exact .setTable htables fun demands hbefore => (h.demands hbefore).2 other rfl
  | drop key t =>
    rw [make]
    split
    · intro other demands demands' hbefore hafter
      rcases demandsAt_dropTable hdb.nodup key other with hnone | hsame
      · exact absurd (hnone.symm.trans hafter) (by simp)
      · exact Option.some.inj (hafter.symm.trans (hsame.trans hbefore))
    · exact .of_eq rfl

theorem after_keepsDemands (h : db.Consistent K) (step : Step) : db.KeepsDemands (db.after step) := by
  rw [← answer_snd]
  cases h.answered step with
  | refused failure hrefused =>
    have hanswer : db.answer step = (.error failure, db) := hrefused db.directory
    rw [hanswer]
    exact .of_eq rfl
  | made hplanned hmade =>
    have hanswer : db.answer step = db.make _ := hmade db.directory
    rw [hanswer]
    exact hplanned.keepsDemands h
  | disturbed hstep =>
    rw [hstep]
    exact .of_eq rfl

/-! ## Saving and loading -/

theorem saveTables_demandsAt {entries : List (String × Table)}
    (h : ∀ entry ∈ entries, db.demandsAt entry.1 = some entry.2.schema.demands) :
    (saveTables now entries db).2.demandsAt = db.demandsAt := by
  induction entries generalizing db with
  | nil => rfl
  | cons entry entries ih =>
    obtain ⟨key, t⟩ := entry
    rw [List.forall_mem_cons] at h
    obtain ⟨ht, hentries⟩ := h
    rw [saveTables]
    split
    · rfl
    · rename_i content _
      dsimp only
      generalize hsaved : Database.persist _ _ _ = outcome
      obtain ⟨written, saved⟩ := outcome
      -- only the moment of the table was changed
      have hsame : saved.demandsAt = db.demandsAt := by
        rw [demandsAt_of_tables_eq (tables_of_persist hsaved)]
        exact demandsAt_setTable_same ht
      cases written with
      | error failure => exact hsame
      | ok =>
        dsimp only
        rw [ih fun entry hentry => by rw [hsame, hentries entry hentry], hsame]

theorem saveAll_demandsAt (h : db.Consistent K) : (db.saveAll now).2.demandsAt = db.demandsAt := by
  refine saveTables_demandsAt fun entry hentry => ?_
  rw [demandsAt, lookup_eq_some_of_mem h.nodup hentry, Option.map_some]

/-- What is loaded was read. -/
theorem reads_of_loadTables {view : Directory} {names : List String} {entry : String × Table}
    (hentry : entry ∈ (loadTables now view names db).2.tables) :
    entry ∈ db.tables ∨ ∃ file, Reads view file entry.2.schema := by
  induction names generalizing db with
  | nil => exact .inl hentry
  | cons name names ih =>
    have hset : ∀ {s : Schema} {content : Option Content} {k : String}, Reads view name s →
        entry ∈ (db.setTable k ⟨s, content⟩).tables → entry ∈ db.tables ∨ ∃ file, Reads view file entry.2.schema := by
      intro s content k hread hmem
      rcases mem_of_mem_setEntry hmem with hnew | hold
      · rw [hnew]
        exact .inr ⟨name, hread⟩
      · exact .inl hold
    rw [loadTables] at hentry
    split at hentry
    · exact .inl hentry
    · exact ih hentry
    · rename_i s hschema
      have hread := Storage.loadSchema_reads hschema
      split at hentry
      · exact hset hread hentry
      · split at hentry
        · exact hset hread hentry
        · rcases ih hentry with hmem | hfound
          · exact hset hread hmem
          · exact .inr hfound

/-! ## As long as a table stands -/

/-- A table stands under a name, spelled as it is. -/
def Stands (db : Database) (name : String) (t : Table) : Prop :=
  db.table? name = some t ∧ t.schema.name = name

theorem KeepsDemands.stands (h : db.KeepsDemands db') (ht : db.Stands name t) (ht' : db'.Stands name t') :
    t'.schema.demands = t.schema.demands :=
  h _ _ _ (demandsAt_of_table? ht.1) (demandsAt_of_table? ht'.1)

/-- A table that is loaded again demands what it demanded, since no other is written under its name. -/
theorem loadAll_demands {d view : Directory} (h : db.Consistent K) (hd : db.directory = some d) (hview : d.Remains view)
    (ht : db.Stands name t) (ht' : (loadAll { db with directory := some view } now).2.Stands name t') :
    t'.schema.demands = t.schema.demands := by
  obtain ⟨hbacked, hagrees⟩ := h.backed d hd
  obtain ⟨file, hread⟩ : ∃ file, Reads view file t'.schema := by
    rcases reads_of_loadTables (mem_of_table? ht'.1) with hmem | hfound
    · cases hmem
    · exact hfound
  have hread := hread.remains hview
  have hfile : file = t.schema.name := by
    rw [← (hbacked.wellFormed file _ hread).1, ht'.2, ht.2]
  rw [hfile] at hread
  exact (hagrees _ (mem_of_table? ht.1) _ hread).demands.symm

theorem Move.demands (hmove : Move db db') (h : db.Consistent K) (ht : db.Stands name t) (ht' : db'.Stands name t') :
    t'.schema.demands = t.schema.demands := by
  cases hmove with
  | @addTable now s hdeclared _ => exact (after_keepsDemands h (.addTable now s hdeclared)).stands ht ht'
  | removeTable table => exact (after_keepsDemands h (.removeTable table)).stands ht ht'
  | insertRow now table input => exact (after_keepsDemands h (.insertRow now table input)).stands ht ht'
  | updateRow now table position input =>
    exact (after_keepsDemands h (.updateRow now table position input)).stands ht ht'
  | deleteRow now table position => exact (after_keepsDemands h (.deleteRow now table position)).stands ht ht'
  | createIndex now table index columns unique =>
    exact (after_keepsDemands h (.createIndex now table index columns unique)).stands ht ht'
  | saveAll now => exact (KeepsDemands.of_eq (saveAll_demandsAt h)).stands ht ht'
  | loadAll hd hview now => exact loadAll_demands h hd hview ht ht'
  | lose hd hlost => exact (KeepsDemands.of_eq rfl).stands ht ht'

/-- A move after which there still is a table under a name. -/
def Retains (name : String) (db db' : Database) : Prop :=
  Move db db' ∧ ∃ t, db'.Stands name t

/-- As long as a table stands it demands the same. -/
theorem demands_of_retains (h : db.Reachable) (ht : db.Stands name t) (hlater : ReflTransGen (Retains name) db db')
    (ht' : db'.Stands name t') : t'.schema.demands = t.schema.demands := by
  have hrun : db'.Reachable ∧ ∃ t', db'.Stands name t' ∧ t'.schema.demands = t.schema.demands := by
    clear ht'
    induction hlater with
    | refl => exact ⟨h, t, ht, rfl⟩
    | tail _ hretains ih =>
      obtain ⟨hreachable, between, hbetween, hsame⟩ := ih
      obtain ⟨hmove, t', ht'⟩ := hretains
      exact ⟨hreachable.move hmove, t', ht', (hmove.demands hreachable.consistent hbetween ht').trans hsame⟩
  obtain ⟨-, other, hother, hsame⟩ := hrun
  obtain rfl : other = t' := Option.some.inj (hother.1.symm.trans ht'.1)
  exact hsame

end Database

end Relational
