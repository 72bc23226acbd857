import Relational.Proofs.Database.Indexes
import Relational.Proofs.Database.Loading

/-!
# Loading that fails

All tables are loaded in place of those in memory, one name after the other. If the table of one name cannot be loaded,
those of the names before it are in memory by then, and the tables that were there before are not. So a failed loading
leaves the tables as they were only if they are the ones that it has found up to there.
-/

namespace Relational

namespace Database

variable {db : Database} {d : Directory} {now : Timestamp} {failure : Failure}

/-- Loading the tables of some names stops at one of them: those of all names before it are loaded, and its own is
not. -/
structure StopsAt (now : Timestamp) (d : Directory) (names before : List String) (name : String) (failure : Failure) :
    Prop where
  names_eq : ∃ after, names = before ++ name :: after
  loaded : ∀ earlier ∈ before, loadTable now d earlier = .ok (loaded? now d earlier)
  failed : loadTable now d name = .error failure

/-- The tables that were found by then, with what was read of the last one. -/
def foundBy (now : Timestamp) (d : Directory) (before : List String) (name : String) : List Table :=
  before.filterMap (loaded? now d) ++ (registered? now d name).toList

theorem StopsAt.cons {names before : List String} {name earlier : String} {t? : Option Table}
    (h : StopsAt now d names before name failure) (hearlier : loadTable now d earlier = .ok t?) :
    StopsAt now d (earlier :: names) (earlier :: before) name failure := by
  obtain ⟨after, hnames⟩ := h.names_eq
  refine ⟨⟨after, congrArg (earlier :: ·) hnames⟩, List.forall_mem_cons.2 ⟨?_, h.loaded⟩, h.failed⟩
  rw [hearlier, loaded?_of_loadTable hearlier]

/-- A loading that fails has put the tables in their places that it found up to the name at which it stops. -/
theorem loadTables_failed {names : List String} (h : (loadTables now d names db).1 = .error failure) :
    ∃ before name, StopsAt now d names before name failure ∧ (loadTables now d names db).2 =
      ((foundBy now d before name).map entryOf).foldl (fun db entry => db.setTable entry.1 entry.2) db := by
  induction names generalizing db with
  | nil => cases h
  | cons first names ih =>
    cases hfirst : loadTable now d first with
    | error e =>
      rw [loadTables_cons_failed hfirst] at h ⊢
      cases h
      refine ⟨[], first, ⟨⟨names, rfl⟩, by simp, hfirst⟩, ?_⟩
      rw [foundBy]
      cases registered? now d first with
      | none => rfl
      | some t => rfl
    | ok t? =>
      rw [loadTables_cons_ok hfirst] at h ⊢
      obtain ⟨before, name, hstops, hdb⟩ := ih h
      refine ⟨first :: before, name, hstops.cons hfirst, hdb.trans ?_⟩
      have hfound := loaded?_of_loadTable hfirst
      cases t? with
      | none => rw [foundBy, foundBy, List.filterMap_cons_none hfound, Option.elim_none]
      | some t =>
        rw [foundBy, foundBy, List.filterMap_cons_some hfound]
        rfl

/-- After a failed loading exactly the tables are in memory that it found up to the name at which it stops, so it leaves
everything as it was exactly if these were the tables before. -/
theorem loadAll_keeps_iff (h : (loadAll db now).1 = .error failure) :
    ∃ d before name, db.directory = some d ∧ StopsAt now d (Storage.tables d) before name failure ∧
      (loadAll db now).2 = ⟨collectEntries ((foundBy now d before name).map entryOf), some d⟩ ∧
        ((loadAll db now).2 = db ↔ db.tables = collectEntries ((foundBy now d before name).map entryOf)) := by
  obtain ⟨tables, directory⟩ := db
  cases directory with
  | none => cases h
  | some d =>
    obtain ⟨before, name, hstops, hdb⟩ := loadTables_failed h
    have hafter : (loadAll ⟨tables, some d⟩ now).2 =
        ⟨collectEntries ((foundBy now d before name).map entryOf), some d⟩ := by
      rw [tables_foldl_setTable] at hdb
      exact hdb
    refine ⟨d, before, name, rfl, hstops, hafter, ?_⟩
    rw [hafter, Database.mk.injEq]
    simp only [and_true]
    exact eq_comm

/-! ## A definition that cannot be read -/

open Storage (filesOf rowsFile schemaFile)

namespace Label

/-- A directory in which a folder stands in the place of the definition of the table. -/
def undefined : Directory :=
  (⟨"data", filesOf definition [], []⟩ : Directory).addFolder (schemaFile "label")

/-- A database with the table in memory. -/
def remembered : Database :=
  ⟨[("label", storedTable indexed [] moment)], some undefined⟩

theorem remembered_reachable : remembered.Reachable := by
  have hadded : ((empty (some (.empty "data"))).addTable moment indexed).2.Reachable :=
    (Reachable.empty (some "data")).move (.addTable moment indexed_declared ⟨rfl, by decide⟩)
  rw [addTable_empty] at hadded
  have hremains := Directory.remains_addFolder (d := ⟨"data", filesOf definition [], []⟩) (by decide +kernel)
    (schemaFile "label")
  exact hadded.move (.lose rfl hremains)

theorem tables_undefined : Storage.tables undefined = ["label"] := by
  have hnames : (undefined.entries.map Prod.fst).filterMap Storage.tableOf? = ["label"] := by
    have hkeys : undefined.entries.map Prod.fst = ["label.json", "label_schema.json"] := rfl
    rw [hkeys]
    decide +kernel
  rw [Storage.tables, hnames, List.mergeSort_singleton]

theorem loadSchema_undefined :
    Storage.loadSchema moment undefined "label" = Storage.inaccessible undefined (schemaFile "label") := rfl

theorem registered?_undefined : registered? moment undefined "label" = none := by
  rw [registered?, loadSchema_undefined]
  rfl

theorem loadAll_undefined (tables : List (String × Table)) : loadAll ⟨tables, some undefined⟩ moment =
    (Storage.inaccessible undefined (schemaFile "label"), empty (some undefined)) := by
  have hfailed : loadTable moment undefined "label" = Storage.inaccessible undefined (schemaFile "label") := by
    rw [loadTable, loadSchema_undefined]
    rfl
  rw [loadAll]
  dsimp only
  rw [tables_undefined, loadTables_cons_failed hfailed, registered?_undefined]
  rfl

end Label

/-- A database without tables is left without tables. -/
theorem label_definition_unread : (loadAll (empty (some Label.undefined)) Label.moment).1 =
    Storage.inaccessible Label.undefined "label_schema.json" ∧
      (loadAll (empty (some Label.undefined)) Label.moment).2 = empty (some Label.undefined) := by
  have hfailed : (loadAll (empty (some Label.undefined)) Label.moment).1 =
      Storage.inaccessible Label.undefined "label_schema.json" := congrArg Prod.fst (Label.loadAll_undefined [])
  obtain ⟨d, before, name, hd, ⟨⟨after, hnames⟩, -, -⟩, -, hkeeps⟩ := loadAll_keeps_iff hfailed
  cases hd
  rw [Label.tables_undefined] at hnames
  refine ⟨hfailed, hkeeps.2 ?_⟩
  cases before with
  | nil =>
    cases hnames
    rw [foundBy, Label.registered?_undefined]
    rfl
  | cons first before =>
    have hlength := congrArg List.length hnames
    simp at hlength

/-- A table that was in memory is there no more. -/
theorem label_forgotten : Label.remembered.Reachable ∧ (loadAll Label.remembered Label.moment).1 =
    Storage.inaccessible Label.undefined "label_schema.json" ∧
      Label.remembered.tables = [("label", storedTable Label.indexed [] Label.moment)] ∧
        (loadAll Label.remembered Label.moment).2.tables = [] := by
  have hloaded := Label.loadAll_undefined Label.remembered.tables
  exact ⟨Label.remembered_reachable, congrArg Prod.fst hloaded, rfl,
    congrArg (fun outcome => outcome.2.tables) hloaded⟩

end Database

end Relational
