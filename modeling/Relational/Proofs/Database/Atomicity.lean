import Relational.Proofs.Database.Durability

/-!
# What a failed step leaves in memory

A step that is refused, or that fails because of the directory, leaves the tables as they were, but for the moments at
which they were changed. There is one exception: if an index cannot be written, the number of rows that is kept beside
the definition is counted again. That makes a difference where the number was wrong, as it can be after a table was
loaded whose rows were written without their definition.
-/

namespace Relational

/-- The failure is one of the directory. -/
def Failure.IsStorage (failure : Failure) : Prop :=
  ∃ path fault, failure = .refusal (.storage path fault)

/-- The table without the moments at which it was created and changed. -/
def Table.timeless (t : Table) : Table :=
  { t with schema := { t.schema with createdAt := default, modifiedAt := default } }

namespace Database

variable {K : RowInvariant} {db saved : Database} {now : Timestamp} {key name : String} {t : Table} {s : Schema}
  {step : Step} {failure : Failure}

/-! ## Failures of the directory -/

theorem inaccessible_failsOnly {α : Type} (d : Directory) (file : String) :
    FailsOnly Failure.IsStorage (Storage.inaccessible d file : Except Failure α) :=
  .error ⟨_, _, rfl⟩

theorem save_failsOnly (s : Schema) (cells : List (List Cell)) (d : Directory) :
    FailsOnly Failure.IsStorage (Storage.save s cells d).1 := by
  simp only [Storage.save, Storage.andThen, Storage.writeDocument]
  cases hfirst : d.write? (Storage.rowsFile s.name) (Storage.rowsJson s cells).print with
  | none => exact inaccessible_failsOnly d _
  | some d₁ =>
    dsimp only
    split
    · exact .ok ()
    · exact inaccessible_failsOnly d₁ _

/-- Writing a table fails because of the directory only. -/
theorem persist_failsOnly (db : Database) (s : Schema) (cells : List (List Cell)) :
    FailsOnly Failure.IsStorage (db.persist s cells).1 := by
  unfold persist
  cases db.directory with
  | none => exact .ok ()
  | some d => exact save_failsOnly s cells d

/-- A table that is put in its place with no other instead is not put because of the directory only. -/
theorem make_put_failsOnly (db : Database) (key : String) (t : Table) :
    FailsOnly Failure.IsStorage (db.make (.put key t none)).1 := by
  intro failure hfailed
  have hstorage := persist_failsOnly db t.schema t.rows
  simp only [make] at hfailed
  generalize db.persist t.schema t.rows = outcome at hfailed hstorage
  obtain ⟨written, saved⟩ := outcome
  cases written with
  | ok => cases hfailed
  | error failure' =>
    cases hfailed
    exact hstorage _ rfl

theorem reject_failsOnly {α : Type} (cause : Rejection) :
    FailsOnly (fun failure => ¬ failure.IsStorage) (reject cause : Except Failure α) :=
  .error fun ⟨_, _, h⟩ => by cases h

theorem addIndex_failsOnly (s : Schema) (index : String) (columns : List String) (unique : Bool) :
    FailsOnly (fun failure => ¬ failure.IsStorage) (s.addIndex index columns unique) := by
  have hname : FailsOnly (fun failure => ¬ failure.IsStorage) (checkName index) := by
    unfold checkName
    split
    · exact .error fun ⟨_, _, h⟩ => by cases h
    · exact .ok ()
  have hkey : FailsOnly (fun failure => ¬ failure.IsStorage) (s.resolve "INDEX" columns) := by
    unfold Schema.resolve
    dsimp only
    split
    · exact .error fun ⟨_, _, h⟩ => by cases h
    · refine .mapM fun name _ => ?_
      split
      · exact .ok _
      · exact .error fun ⟨_, _, h⟩ => by cases h
  unfold Schema.addIndex
  refine hname.bind fun _ _ => ?_
  dsimp only
  split
  · exact .error fun ⟨_, _, h⟩ => by cases h
  · exact hkey.bind fun key _ => .ok _

/-- The checks before an index is created do not look at the directory. -/
theorem indexing_failsOnly (h : db.Consistent K) (name index : String) (columns : List String) (unique : Bool) :
    FailsOnly (fun failure => ¬ failure.IsStorage) (db.indexing name index columns unique) := by
  have htable : FailsOnly (fun failure => ¬ failure.IsStorage) (db.table name) := by
    unfold table
    split
    · exact .ok _
    · exact reject_failsOnly _
  unfold indexing
  refine htable.bind fun t ht => ?_
  dsimp only
  split
  · exact reject_failsOnly _
  have hloaded : FailsOnly (fun failure => ¬ failure.IsStorage) t.loaded := by
    unfold Table.loaded
    split
    · exact .ok _
    · exact .error fun ⟨_, _, h⟩ => by cases h
  refine hloaded.bind fun content hcontent => ?_
  obtain ⟨rows, hrows, -, rfl⟩ := h.holds (mem_of_table? (table_eq_ok.1 ht)) (loaded_eq_ok.1 hcontent)
  have hcells : (t.schema.contentOf rows).rows = rows.map Cell.ofTexts := rfl
  split
  · exact reject_failsOnly _
  rw [hcells, Schema.fillIndex_texts, ok_bind]
  split
  · split
    · exact reject_failsOnly _
    · exact (addIndex_failsOnly t.schema index columns unique).bind fun s _ => .ok _
  · exact (addIndex_failsOnly t.schema index columns unique).bind fun s _ => .ok _

/-! ## Moments set aside -/

/-- The tables of a database without the moments at which they were created and changed. -/
def timeless (db : Database) : List (String × Table) :=
  db.tables.map fun entry => (entry.1, entry.2.timeless)

theorem timeless_setTable_eq_iff (h : db.table? name = some t) (t' : Table) :
    (db.setTable (keyOf name) t').timeless = db.timeless ↔ t'.timeless = t.timeless := by
  have hlookup : db.timeless.lookup (keyOf name) = some t.timeless := by
    rw [timeless, lookup_map_value, ← table?, h, Option.map_some]
  have hset : (db.setTable (keyOf name) t').timeless = setEntry (keyOf name) t'.timeless db.timeless :=
    map_setEntry _ _ _ _
  rw [hset]
  constructor
  · intro heq
    rw [← heq, lookup_setEntry_self, Option.some.injEq] at hlookup
    exact hlookup
  · intro heq
    rw [← heq] at hlookup
    exact setEntry_eq_self hlookup

/-- The number of rows that is kept for the table of an index to be created is not the number of its rows. -/
def Recounts (db : Database) : Step → Prop
  | .createIndex _ name _ _ _ => ∃ t, db.table? name = some t ∧ t.schema.rowCount ≠ t.rows.length
  | _ => False

/-- Another moment and the number of rows are all that is stamped. -/
theorem timeless_stamped_eq_iff (hwritten : t.schema.written = []) (cells : List (List Cell)) (now : Timestamp) :
    ({ t with schema := stamped t.schema cells now } : Table).timeless = t.timeless ↔
      t.schema.rowCount = cells.length := by
  obtain ⟨s, content⟩ := t
  obtain ⟨name, description, isTemp, columns, primaryKey, uniques, foreignKeys, checks, indexes, rowCount, createdAt,
    modifiedAt, written⟩ := s
  obtain rfl : written = [] := hwritten
  simp [Table.timeless, stamped, eq_comm]

/-- Without a directory no index fails to be created because of it. -/
theorem createIndex_failsOnly (h : db.Consistent K) (now : Timestamp) (name index : String) (columns : List String)
    (unique : Bool) :
    FailsOnly (fun failure => ¬ failure.IsStorage) ((db.upon none).createIndex now name index columns unique).1 := by
  rw [createIndex_upon]
  cases hindexing : db.indexing name index columns unique with
  | error failure => exact .error (indexing_failsOnly h name index columns unique failure hindexing)
  | ok checked => exact .ok ()

/-! ## Failed steps -/

/-- Checks that refuse a step do not refuse it because of the directory. -/
theorem not_recounts_of_refused (h : db.Consistent K)
    (hrefused : ∀ directory, (db.upon directory).answer step = (.error failure, db.upon directory)) :
    ¬ (failure.IsStorage ∧ db.Recounts step) := by
  rintro ⟨hstorage, hrecounts⟩
  cases step with
  | createIndex now name index columns unique =>
    exact createIndex_failsOnly h now name index columns unique failure (congrArg Prod.fst (hrefused none)) hstorage
  | _ => exact hrecounts

/-- If a table cannot be written, only an index to be created makes a difference, by the number of rows. -/
theorem Planned.timeless_eq_iff (h : db.Consistent K) {instead : Option Table}
    (hplanned : Planned db step (.put key t instead)) (hsaved : db.persist t.schema t.rows = (.error failure, saved)) :
    (instead.elim saved (saved.setTable key)).timeless = db.timeless ↔ ¬ (failure.IsStorage ∧ db.Recounts step) := by
  have htables := tables_of_persist hsaved
  have hsame : saved.timeless = db.timeless := by rw [timeless, htables, timeless]
  cases hplanned with
  | @indexed now name index columns unique t s rows ht hrows hindex =>
    have hstorage : failure.IsStorage := persist_failsOnly db _ _ failure (congrArg Prod.fst hsaved)
    have ht' : saved.table? name = some t := (table?_of_tables_eq htables name).trans ht
    have hregular := (h.fit _ (mem_of_table? ht)).regular
    have hcount : db.Recounts (.createIndex now name index columns unique) ↔
        t.schema.rowCount ≠ (rows.map Cell.ofTexts).length := by
      simp only [Recounts, ht, Option.some.injEq, exists_eq_left', hrows.rows_eq]
    simp only [Option.elim_some]
    rw [← hsame, timeless_setTable_eq_iff ht', timeless_stamped_eq_iff hregular.written, hcount,
      and_iff_right hstorage, not_not]
  | added | inserted | updated | deleted => exact iff_of_true hsame fun hrecounts => hrecounts.2

/-- A step that is refused or fails because of the directory leaves everything but the moments as it was, unless an
index could not be written on a table whose number of rows was wrong. -/
theorem Reachable.failed_timeless_iff (h : db.Reachable) (hfailed : (db.answer step).1 = .error failure)
    (hforeseen : ∀ fault, failure ≠ .fault fault) :
    (db.answer step).2.timeless = db.timeless ↔ ¬ (failure.IsStorage ∧ db.Recounts step) := by
  have hdb := h.consistent
  cases hdb.answered step with
  | refused failure' hrefused =>
    have hanswer : db.answer step = (.error failure', db) := hrefused db.directory
    rw [hanswer] at hfailed ⊢
    cases hfailed
    exact iff_of_true rfl (not_recounts_of_refused hdb hrefused)
  | disturbed hstep =>
    subst hstep
    cases hfailed
  | @made change hplanned hmade =>
    have hanswer : db.answer step = db.make change := hmade db.directory
    rw [hanswer] at hfailed ⊢
    cases change with
    | put key t instead =>
      simp only [make] at hfailed ⊢
      generalize hsaved : db.persist t.schema t.rows = outcome at hfailed ⊢
      obtain ⟨written, saved⟩ := outcome
      cases written with
      | ok => cases hfailed
      | error failure' =>
        cases hfailed
        exact hplanned.timeless_eq_iff hdb hsaved
    | drop key t =>
      cases hplanned with
      | removed ht =>
        simp only [make] at hfailed ⊢
        generalize unlink db.directory t.schema.name = outcome at hfailed ⊢
        obtain ⟨deleted, directory⟩ := outcome
        cases deleted with
        | ok =>
          -- dropping a table without content fails, but nothing foresees that
          rw [Table.loaded] at hfailed
          cases hcontent : t.content <;> rw [hcontent] at hfailed <;> cases hfailed
          exact absurd rfl (hforeseen _)
        | error failure' => exact iff_of_true rfl fun hrecounts => hrecounts.2

/-- The label is not inserted, since its rows cannot be written, and the tables are as before. -/
theorem label_insert_forgotten : ((Label.guarded [] "label.json").answer Label.inserting).1
      = .error (.refusal (.storage "data/label.json" .inaccessible)) ∧
    ((Label.guarded [] "label.json").answer Label.inserting).2.timeless = (Label.guarded [] "label.json").timeless := by
  have hfailed := congrArg Prod.fst Label.answer_guarded_rows
  have hiff := (Label.guarded_reachable "label.json").failed_timeless_iff hfailed fun _ hfault => by cases hfault
  exact ⟨hfailed, hiff.2 fun hrecounts => hrecounts.2⟩

/-! ## A label that is counted -/

namespace Label

/-- The table of labels is loaded again after its rows were written without its definition: there is one row, and the
number of rows is zero. -/
theorem miscounted_reachable : (guarded [["7", "x"]] "label_schema.json").Reachable := by
  have hinserted := (guarded_reachable "label_schema.json").move (.insertRow moment "label" (.cells ["7", "x"]))
  have hafter : ((guarded [] "label_schema.json").insertRow moment "label" (.cells ["7", "x"])).2
      = (guarded [] "label_schema.json").upon (some (locked [["7", "x"]] "label_schema.json")) :=
    congrArg Prod.snd answer_guarded_definition
  rw [hafter] at hinserted
  have hreloaded := hinserted.move (.loadAll rfl (.refl (nodup_locked [["7", "x"]] "label_schema.json")) moment)
  have hloaded : loadAll (empty (some (locked [["7", "x"]] "label_schema.json"))) moment
      = (.ok (), guarded [["7", "x"]] "label_schema.json") := loadAll_locked (List.forall_mem_singleton.2 rfl) _ _
  have hself : ({ (loadAll (empty (some (locked [["7", "x"]] "label_schema.json"))) moment).2 with
      directory := some (locked [["7", "x"]] "label_schema.json") } : Database)
      = guarded [["7", "x"]] "label_schema.json" := by
    rw [hloaded]
    rfl
  rw [← hself]
  exact hreloaded

/-- An index on the kinds is created. -/
def kinds : Step :=
  .createIndex moment "label" "by_kind" ["kind"] false

/-- The definition with that index. -/
def classified : Schema :=
  { stored with indexes := [("by_kind", ⟨["kind"], false⟩)] }

/-- The index cannot be written, and the number of rows is counted. -/
theorem answer_miscounted : ∃ d', (guarded [["7", "x"]] "label_schema.json").answer kinds
    = (.error (.refusal (.storage "data/label_schema.json" .inaccessible)),
      ((guarded [["7", "x"]] "label_schema.json").upon (some d')).setTable "label"
        ⟨stamped stored [[.text "7", .text "x"]] moment, some (stored.contentOf [["7", "x"]])⟩) := by
  have hchecked : (guarded [["7", "x"]] "label_schema.json").indexing "label" "by_kind" ["kind"] false
      = .ok (⟨stored, some (stored.contentOf [["7", "x"]])⟩, stored.contentOf [["7", "x"]], classified,
        stored.filled [["7", "x"]] (.empty "by_kind" ["kind"] false)) := by
    decide +kernel
  obtain ⟨d', hsave⟩ : ∃ d', Storage.save (stamped classified [[.text "7", .text "x"]] moment)
      [[.text "7", .text "x"]] (locked [["7", "x"]] "label_schema.json")
        = (.error (.refusal (.storage "data/label_schema.json" .inaccessible)), d') :=
    ⟨_, save_locked_definition rfl _⟩
  have hsaved : (guarded [["7", "x"]] "label_schema.json").persist
      (stamped classified [[.text "7", .text "x"]] moment) [[.text "7", .text "x"]]
        = (.error (.refusal (.storage "data/label_schema.json" .inaccessible)),
          (guarded [["7", "x"]] "label_schema.json").upon (some d')) := by
    simp only [persist, guarded, hsave]
    rfl
  refine ⟨d', ?_⟩
  have hself : (guarded [["7", "x"]] "label_schema.json").upon (guarded [["7", "x"]] "label_schema.json").directory
      = guarded [["7", "x"]] "label_schema.json" := rfl
  have hcreate := createIndex_upon (guarded [["7", "x"]] "label_schema.json")
    (guarded [["7", "x"]] "label_schema.json").directory moment "label" "by_kind" ["kind"] false
  have hcells : (stored.contentOf [["7", "x"]]).rows = [[.text "7", .text "x"]] := rfl
  have hkey : keyOf "label" = "label" := by decide +kernel
  simp only [hself, hchecked, hcells, hsaved, hkey] at hcreate
  exact hcreate

end Label

/-- The index is not created, since it cannot be written, and yet the number of rows is another. -/
theorem label_count_changed : (Label.guarded [["7", "x"]] "label_schema.json").Reachable ∧
    ((Label.guarded [["7", "x"]] "label_schema.json").answer Label.kinds).1
      = .error (.refusal (.storage "data/label_schema.json" .inaccessible)) ∧
    ((Label.guarded [["7", "x"]] "label_schema.json").answer Label.kinds).2.timeless
      ≠ (Label.guarded [["7", "x"]] "label_schema.json").timeless := by
  obtain ⟨d', hanswer⟩ := Label.answer_miscounted
  refine ⟨Label.miscounted_reachable, congrArg Prod.fst hanswer, ?_⟩
  rw [hanswer]
  -- the directory does not matter
  have hchanged : ((Label.guarded [["7", "x"]] "label_schema.json").setTable "label"
      ⟨stamped Label.stored [[.text "7", .text "x"]] Label.moment, some (Label.stored.contentOf [["7", "x"]])⟩).timeless
        ≠ (Label.guarded [["7", "x"]] "label_schema.json").timeless := by
    decide +kernel
  exact hchanged

end Database

end Relational
