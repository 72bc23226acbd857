import Relational.Proofs.AffectedRows
import Relational.Proofs.Database.Atomicity

/-!
# What UPDATE does to the rows

UPDATE finds the rows in which its condition is true, and puts a new row in the place of each, one after the other. The
new row holds in every assigned column the stored form of the text that the expression has on the old row, and is like
the old row elsewhere. Since no place is visited twice and every expression sees its own row alone, the rows after the
statement are those before it, all changed at once. If a row is rejected, the rows at smaller positions have been
changed in this way, and no other.
-/

namespace Relational

open Text
open Database (Step keyOf storedTable storedRow stamped)

/-! ## Assignments to a row -/

/-- Where a row has the cell of one that stands, it is stored with the same cell. -/
theorem Schema.Standing.keeps {s : Schema} {row raw stored : List String} (h : s.Standing row)
    (hstored : s.encodeRow raw = .ok stored) (hlength : stored.length = row.length) {i : Nat}
    (hcell : raw[i]? = row[i]?) : stored[i]? = row[i]? := by
  rcases Nat.lt_or_ge i row.length with hlt | hge
  · have hold := List.getElem?_eq_getElem hlt
    have hcolumn := List.getElem?_eq_getElem (h.wide ▸ hlt : i < s.columns.length)
    obtain ⟨cell, hnew, hencode⟩ := getElem?_encodeRow hstored hcolumn (hcell.trans hold)
    obtain ⟨same, hsame, hencode'⟩ := getElem?_encodeRow h.encoded hcolumn hold
    rw [hencode, Except.ok.injEq] at hencode'
    rw [hnew, hsame, hencode']
  · rw [List.getElem?_eq_none hge, List.getElem?_eq_none (hlength.trans_le hge)]

namespace Database

variable {s : Schema}

/-- Assigned cells hold the new texts, and the others are as they were. -/
theorem assignCells_eq_ok {entries : List (String × String)} {row : List String} {cells : List Cell}
    (h : assignCells s entries (Cell.ofTexts row) = .ok cells) : ∃ raw : List String, cells = Cell.ofTexts raw ∧
      raw.length = row.length ∧
        (∀ i, (∀ entry ∈ entries, s.position? entry.1 ≠ some i) → raw[i]? = row[i]?) ∧
          ((entries.map fun entry => s.position? entry.1).Nodup → ∀ entry ∈ entries, ∀ i, s.position? entry.1 = some i →
            i < row.length → raw[i]? = some entry.2) := by
  induction entries generalizing row with
  | nil =>
    cases h
    exact ⟨row, rfl, rfl, fun _ _ => rfl, fun _ _ hentry => (List.not_mem_nil hentry).elim⟩
  | cons entry entries ih =>
    obtain ⟨column, text⟩ := entry
    rw [assignCells] at h
    split at h
    · rename_i i hi
      have hset : (Cell.ofTexts row).set i (.text text) = Cell.ofTexts (row.set i text) := by
        rw [Cell.ofTexts, Cell.ofTexts, List.map_set]
      rw [hset] at h
      obtain ⟨raw, hcells, hlength, hothers, hnamed⟩ := ih h
      refine ⟨raw, hcells, hlength.trans List.length_set, fun j hj => ?_, fun hdistinct => ?_⟩
      · rw [List.forall_mem_cons] at hj
        have hne : i ≠ j := by
          rintro rfl
          exact hj.1 hi
        rw [hothers j hj.2, List.getElem?_set_ne hne]
      · -- no later assignment is for the same column
        rw [List.map_cons, List.nodup_cons] at hdistinct
        rw [List.forall_mem_cons]
        refine ⟨fun j hj hlt => ?_, fun entry hentry j hj hlt => ?_⟩
        · obtain rfl : i = j := Option.some.inj (hi.symm.trans hj)
          rw [hothers i fun entry hentry hsame => hdistinct.1 ?_, List.getElem?_set_self hlt]
          exact List.mem_map.2 ⟨entry, hentry, hsame.trans hi.symm⟩
        · exact hnamed hdistinct.2 entry hentry j hj (hlt.trans_eq List.length_set.symm)
    · simp at h

end Database

namespace Execution

open Database (Outcome)

variable {db : Database} {now : Timestamp} {s : Schema} {assignments : List (String × Expr)}

/-- The row that assignments put in the place of another: an assigned cell is the stored form of the text of the
expression on the old row, and the other cells are those of the old row. -/
structure Assigns (now : Timestamp) (s : Schema) (assignments : List (String × Expr)) (row row' : List String) :
    Prop where
  wide : row'.length = row.length
  assigned : ∀ assignment ∈ assignments, ∃ i column text cell, s.position? assignment.1 = some i ∧
    s.column? assignment.1 = some column ∧
      expressionText (s.rowScope now row) column assignment.2 = .ok text ∧
        encode column.type column.choices text = .ok cell ∧ row'[i]? = some cell
  others : ∀ i, (∀ assignment ∈ assignments, s.position? assignment.1 ≠ some i) → row'[i]? = row[i]?

/-- No two assignments are for one column. -/
def Distinct (assignments : List (String × Expr)) : Prop :=
  (assignments.map fun assignment => lower assignment.1).Nodup

/-- The text that one assignment gives. -/
def assignedText (s : Schema) (scope : Scope) (assignment : String × Expr) : Except Failure (String × String) :=
  match s.column? assignment.1 with
  | some column => do pure (assignment.1, ← expressionText scope column assignment.2)
  | none => refuse (.noColumn assignment.1 (some s.name))

theorem assignedText_eq_ok {scope : Scope} {assignment : String × Expr} {entry : String × String}
    (h : assignedText s scope assignment = .ok entry) : entry.1 = assignment.1 ∧
      ∃ column, s.column? assignment.1 = some column ∧ expressionText scope column assignment.2 = .ok entry.2 := by
  unfold assignedText at h
  split at h
  · rename_i column hcolumn
    obtain ⟨text, htext, h⟩ := bind_eq_ok.1 h
    cases h
    exact ⟨rfl, column, hcolumn, htext⟩
  · cases h

theorem map_fst_assignedText {scope : Scope} {texts : List (String × String)}
    (h : assignments.mapM (assignedText s scope) = .ok texts) : texts.map Prod.fst = assignments.map Prod.fst := by
  rw [← List.forall₂_eq_eq_eq, List.forall₂_map_left_iff, List.forall₂_map_right_iff]
  exact ((mapM_eq_ok.1 h).imp fun assignment entry hentry => (assignedText_eq_ok hentry).1).flip

/-- Texts for different columns are collected as they are. -/
theorem assignedTexts_eq (hdistinct : Distinct assignments) (s : Schema) (scope : Scope) :
    assignedTexts s scope assignments = assignments.mapM (assignedText s scope) := by
  show (assignments.mapM (assignedText s scope) >>= fun texts => pure (collectEntries texts)) = _
  cases htexts : assignments.mapM (assignedText s scope) with
  | error failure => rfl
  | ok texts =>
    have hnodup : (texts.map Prod.fst).Nodup := by
      rw [map_fst_assignedText htexts]
      refine List.Nodup.of_map lower ?_
      rw [List.map_map]
      exact hdistinct
    rw [ok_bind, collectEntries_of_nodup hnodup, pure_eq_ok]

/-- The entries have the names of the assignments, and the texts of their expressions. -/
theorem assignedTexts_eq_ok {scope : Scope} (hdistinct : Distinct assignments) {entries : List (String × String)}
    (h : assignedTexts s scope assignments = .ok entries) : entries.map Prod.fst = assignments.map Prod.fst ∧
      ∀ assignment ∈ assignments, ∃ column text, s.column? assignment.1 = some column ∧
        expressionText scope column assignment.2 = .ok text ∧ (assignment.1, text) ∈ entries := by
  rw [assignedTexts_eq hdistinct] at h
  refine ⟨map_fst_assignedText h, fun assignment hassignment => ?_⟩
  obtain ⟨entry, hmem, hentry⟩ := exists_mem_of_mapM h hassignment
  obtain ⟨hname, column, hcolumn, htext⟩ := assignedText_eq_ok hentry
  exact ⟨column, entry.2, hcolumn, htext, hname ▸ hmem⟩

/-- The row before it is stored: assigned cells hold the texts of the expressions, and the others are as they were. -/
theorem onRow_assigned {s' : Schema} (hcolumns : s'.columns = s.columns) (hdistinct : Distinct assignments)
    {row raw : List String} {entries : List (String × String)} (hwide : row.length = s.columns.length)
    (hassigned : assigned now s assignments (Cell.ofTexts row) = .ok entries)
    (hraw : (Database.RowInput.named entries).onRow s' (Cell.ofTexts row) = .ok raw) :
    (∀ assignment ∈ assignments, ∃ i column text, s.position? assignment.1 = some i ∧
      s.column? assignment.1 = some column ∧ expressionText (s.rowScope now row) column assignment.2 = .ok text ∧
        raw[i]? = some text) ∧
      ∀ i, (∀ assignment ∈ assignments, s.position? assignment.1 ≠ some i) → raw[i]? = row[i]? := by
  rw [assigned, Cell.texts_ofTexts, ok_bind] at hassigned
  obtain ⟨hnames, htexts⟩ := assignedTexts_eq_ok hdistinct hassigned
  obtain ⟨cells, hcells, hraw⟩ := bind_eq_ok.1 hraw
  obtain ⟨raw', rfl, -, hothers, hnamed⟩ := Database.assignCells_eq_ok hcells
  rw [Cell.texts_ofTexts, Except.ok.injEq] at hraw
  subst hraw
  simp only [Schema.position?_of_columns_eq hcolumns] at hothers hnamed
  have hhas : ∀ assignment ∈ assignments, s.hasColumn assignment.1 = true := by
    intro assignment hassignment
    obtain ⟨column, -, hcolumn, -⟩ := htexts assignment hassignment
    rw [Schema.hasColumn, hcolumn]
    rfl
  have hdiffer : (entries.map fun entry => s.position? entry.1).Nodup := by
    have hpositions : entries.map (fun entry => s.position? entry.1)
        = (assignments.map Prod.fst).map s.position? := by
      rw [← hnames, List.map_map]
      rfl
    rw [hpositions]
    refine Schema.nodup_positions ?_ (List.forall_mem_map.2 hhas)
    rw [List.map_map]
    exact hdistinct
  constructor
  · intro assignment hassignment
    obtain ⟨column, text, hcolumn, htext, hentry⟩ := htexts assignment hassignment
    obtain ⟨i, hi⟩ := Schema.hasColumn_iff_position.1 (hhas assignment hassignment)
    have hlt : i < row.length := hwide ▸ Schema.position?_lt hi
    exact ⟨i, column, text, hi, hcolumn, htext, hnamed hdiffer _ hentry i hi hlt⟩
  · intro i hi
    refine hothers i fun entry hentry hsame => ?_
    have hname : entry.1 ∈ assignments.map Prod.fst := hnames ▸ List.mem_map_of_mem hentry
    obtain ⟨assignment, hassignment, hname⟩ := List.mem_map.1 hname
    exact hi assignment hassignment (hname ▸ hsame)

/-- What a table stores for a row with new texts in the assigned columns. Cells that are not assigned are stored as they
were, for they were in their stored form. -/
theorem assigns_of_stored {s' : Schema} (hs : s.ColumnsDiffer) (hcolumns : s'.columns = s.columns)
    (hdistinct : Distinct assignments) {row raw row' : List String} {entries : List (String × String)}
    (hrow : s'.Standing row) (hassigned : assigned now s assignments (Cell.ofTexts row) = .ok entries)
    (hraw : (Database.RowInput.named entries).onRow s' (Cell.ofTexts row) = .ok raw)
    (hstored : storedRow s' now raw = .ok row') : Assigns now s assignments row row' := by
  obtain ⟨htexts, hothers⟩ := onRow_assigned hcolumns hdistinct (hcolumns ▸ hrow.wide) hassigned hraw
  have hencode := (Schema.storedRow_ok hstored).2
  have hwide : row'.length = row.length := (Schema.length_storedRow hstored).trans hrow.wide.symm
  refine ⟨hwide, fun assignment hassignment => ?_, fun i hi => hrow.keeps hencode hwide (hothers i hi)⟩
  obtain ⟨i, column, text, hi, hcolumn, htext, hcell⟩ := htexts assignment hassignment
  have hat := hs.getElem?_of_position? hi hcolumn
  rw [← hcolumns] at hat
  obtain ⟨cell, hcell, hcanonical⟩ := Schema.getElem?_encodeRow hencode hat hcell
  exact ⟨i, column, text, cell, hi, hcolumn, htext, hcanonical, hcell⟩

end Execution

/-! ## One row -/

namespace Database

variable {K : RowInvariant} {db : Database} {now : Timestamp} {step : Step} {t t₀ : Table} {rows : List (List String)}

/-- What was let pass fails because of the directory only. -/
theorem make_put_ne_rejection (db : Database) (key : String) (t : Table) (cause : Rejection) :
    (db.make (.put key t none)).1 ≠ .error (.rejection cause) := by
  intro hrejected
  obtain ⟨path, fault, hfault⟩ := make_put_failsOnly db key t _ hrejected
  cases hfault

/-- A table that could be put in its place is found there. -/
theorem table?_make_put {key : String} (hok : (db.make (.put key t none)).1 = .ok ()) (name : String) :
    (db.make (.put key t none)).2.table? name = if keyOf name = key then some t else db.table? name := by
  simp only [make] at hok ⊢
  generalize hsaved : db.persist t.schema t.rows = outcome at hok ⊢
  obtain ⟨written, saved⟩ := outcome
  cases written with
  | error failure => cases hok
  | ok => rw [table?_setTable, table?_of_tables_eq (tables_of_persist hsaved)]

/-- A step on a row that is rejected changes nothing. -/
theorem Step.OnRow.eq_of_rejected (hstep : step.OnRow) (h : db.Consistent K) {cause : Rejection}
    (hrejected : (db.answer step).1 = .error (.rejection cause)) : (db.answer step).2 = db := by
  cases h.answered step with
  | refused failure hrefused =>
    have hanswer : db.answer step = (.error failure, db) := hrefused db.directory
    rw [hanswer]
  | disturbed hdisturbed =>
    subst hdisturbed
    exact hstep.elim
  | @made change hplanned hmade =>
    have hanswer : db.answer step = db.make change := hmade db.directory
    rw [hanswer] at hrejected
    have hput : ∃ key t, change = .put key t none := by
      cases hplanned with
      | added | removed | indexed => exact hstep.elim
      | inserted | updated | deleted => exact ⟨_, _, rfl⟩
    obtain ⟨key, t, rfl⟩ := hput
    exact absurd hrejected (make_put_ne_rejection db key t cause)

theorem stamped_stamped (s : Schema) (cells cells' : List (List Cell)) (now : Timestamp) :
    stamped (stamped s cells now) cells' now = stamped s cells' now := by
  simp only [stamped, List.filter_filter, Bool.and_self]

theorem storedTable_storedTable (s : Schema) (rows rows' : List (List String)) (now : Timestamp) :
    storedTable (storedTable s rows now).schema rows' now = storedTable s rows' now := by
  have hschema : (storedTable s rows now).schema = stamped s (rows.map Cell.ofTexts) now := rfl
  rw [hschema, storedTable, stamped_stamped]
  rfl

/-- A table with some rows: `t₀` as it is, or as it is stored again with these rows. -/
structure Carries (now : Timestamp) (t₀ t : Table) (rows : List (List String)) : Prop where
  holds : t.Holds rows
  same : t = t₀ ∨ t = storedTable t₀.schema rows now

theorem Carries.columns (h : Carries now t₀ t rows) : t.schema.columns = t₀.schema.columns := by
  rcases h.same with rfl | rfl <;> rfl

/-- The table with other rows. -/
theorem Carries.rewrite (h : Carries now t₀ t rows) {rows' : List (List String)}
    (hwide : ∀ row ∈ rows', row.length = t.schema.columns.length) :
    Carries now t₀ (storedTable t.schema rows' now) rows' := by
  refine ⟨storedTable_holds hwide now, .inr ?_⟩
  rcases h.same with rfl | rfl
  · rfl
  · exact storedTable_storedTable t₀.schema rows rows' now

end Database

namespace Execution

open Database (Carries)

variable {db : Database} {now : Timestamp} {assignments : List (String × Expr)} {t t₀ : Table}
  {rows : List (List String)} {i : Nat} {row : List String} {entries : List (String × String)}

/-- An update that succeeds puts the row that the assignments give in its place. -/
theorem updateRow_assigns (h : db.Reachable) (hdistinct : Distinct assignments)
    (ht : db.table? t₀.schema.name = some t) (hcarries : Carries now t₀ t rows) (hrow : rows[i]? = some row)
    (hassigned : assigned now t₀.schema assignments (Cell.ofTexts row) = .ok entries)
    (hok : (db.answer (.updateRow now t₀.schema.name i (.named entries))).1 = .ok ()) :
    ∃ row' t', Assigns now t₀.schema assignments row row' ∧ Carries now t₀ t' (rows.set i row') ∧
      ∀ name, (db.answer (.updateRow now t₀.schema.name i (.named entries))).2.table? name
        = if keyOf name = keyOf t₀.schema.name then some t' else db.table? name := by
  have hself : db.answer (.updateRow now t₀.schema.name i (.named entries))
      = (db.upon db.directory).answer (.updateRow now t₀.schema.name i (.named entries)) := rfl
  rw [hself] at hok ⊢
  cases hreplacement : db.replacement now t₀.schema.name i (.named entries) with
  | error failure =>
    rw [Database.updateRow_refused hreplacement] at hok
    cases hok
  | ok checked =>
    obtain ⟨t', content, i', row'⟩ := checked
    obtain ⟨hi, ht', rows', old, raw, hrows, hstanding, rfl, hold, hraw, hstored⟩ :=
      Database.replacement_eq_ok h.consistent hreplacement
    obtain rfl : i = i' := Int.ofNat.inj hi
    obtain rfl : t = t' := Option.some.inj (ht.symm.trans ht')
    obtain rfl : rows = rows' := hcarries.holds.unique hrows
    obtain rfl : row = old := Option.some.inj (hrow.symm.trans hold)
    have hdiffer : t₀.schema.ColumnsDiffer := by
      have hwellFormed := (h.consistent.fit _ (Database.mem_of_table? ht)).wellFormed
      rw [Schema.ColumnsDiffer, ← hcarries.columns]
      exact hwellFormed.columnsDiffer
    have hassigns := assigns_of_stored hdiffer hcarries.columns hdistinct (hstanding row (List.mem_of_getElem? hrow))
      hassigned hraw hstored
    have hwide : ∀ row ∈ rows.set i row', row.length = t.schema.columns.length := by
      intro other hother
      rcases List.mem_or_eq_of_mem_set hother with hother | rfl
      · exact hrows.wide other hother
      · exact Schema.length_storedRow hstored
    refine ⟨row', _, hassigns, hcarries.rewrite hwide, fun name => ?_⟩
    rw [Database.updateRow_made hreplacement db.directory] at hok ⊢
    exact Database.table?_make_put hok name

/-- The rows at some positions are replaced as the assignments say, and the others are as they were. -/
structure Updated (now : Timestamp) (s : Schema) (assignments : List (String × Expr)) (P : Nat → Prop)
    (rows rows' : List (List String)) : Prop where
  length : rows'.length = rows.length
  replaced : ∀ i row, P i → rows[i]? = some row → ∃ row', rows'[i]? = some row' ∧ Assigns now s assignments row row'
  kept : ∀ i, ¬ P i → rows'[i]? = rows[i]?

theorem Updated.none (now : Timestamp) (s : Schema) (assignments : List (String × Expr)) (rows : List (List String)) :
    Updated now s assignments (· ∈ ([] : List Nat)) rows rows :=
  ⟨rfl, fun _ _ hi => absurd hi List.not_mem_nil, fun _ _ => rfl⟩

/-- One row is replaced before those at other positions. -/
theorem Updated.cons {s : Schema} {row' : List String} {done : List Nat} {rows' : List (List String)}
    (hrow : rows[i]? = some row) (hassigns : Assigns now s assignments row row') (hi : i ∉ done)
    (hrest : Updated now s assignments (· ∈ done) (rows.set i row') rows') :
    Updated now s assignments (· ∈ i :: done) rows rows' := by
  have hlt : i < rows.length := (List.getElem?_eq_some_iff.1 hrow).1
  refine ⟨hrest.length.trans List.length_set, fun j old hj hold => ?_, fun j hj => ?_⟩
  · rcases List.mem_cons.1 hj with rfl | hj
    · obtain rfl : row = old := Option.some.inj (hrow.symm.trans hold)
      refine ⟨row', ?_, hassigns⟩
      rw [hrest.kept j hi, List.getElem?_set_self hlt]
    · have hne : i ≠ j := by
        rintro rfl
        exact hi hj
      refine hrest.replaced j old hj ?_
      rw [List.getElem?_set_ne hne, hold]
  · rw [List.mem_cons, not_or] at hj
    rw [hrest.kept j hj.2, List.getElem?_set_ne (Ne.symm hj.1)]

/-! ## Row by row -/

/-- Nothing but the rows at the positions matters. -/
theorem Updated.congr {s : Schema} {P Q : Nat → Prop} {rows' : List (List String)} (hPQ : ∀ i, P i ↔ Q i)
    (h : Updated now s assignments P rows rows') : Updated now s assignments Q rows rows' := by
  rwa [← funext fun i => propext (hPQ i)]

/-- How a run over positions ends after `n` rows were replaced: no row is left, or the next one is rejected. -/
inductive Ends (now : Timestamp) (s : Schema) (assignments : List (String × Expr)) (old : Nat → List Cell)
    (db : Database) (n : Nat) : List Nat → Result → Prop where
  | all : Ends now s assignments old db n [] (.changed n)
  | rejected {k : Nat} {rest : List Nat} {entries : List (String × String)} {cause : Rejection}
      (hassigned : assigned now s assignments (old k) = .ok entries)
      (hrejected : (db.answer (.updateRow now s.name k (.named entries))).1 = .error (.rejection cause)) :
      Ends now s assignments old db n (k :: rest) (.stopped n cause.message)

/-- As long as rows are replaced one by one, the rows still to come are as they were before. -/
theorem makeSteps_replaced (h : db.Reachable) (hdistinct : Distinct assignments)
    (ht : db.table? t₀.schema.name = some t) (hcarries : Carries now t₀ t rows) {positions : List Nat}
    (hpositions : positions.Nodup) {old : Nat → List Cell}
    (hold : ∀ i ∈ positions, ∃ row, rows[i]? = some row ∧ old i = Cell.ofTexts row) {count : Nat} {result : Result}
    {db' : Database}
    (hresult : makeSteps count (positions.map fun i => replacement now t₀.schema assignments (i, old i)) db
      = (.ok result, db')) :
    ∃ done rest t' rows', positions = done ++ rest ∧ db'.table? t₀.schema.name = some t' ∧ Carries now t₀ t' rows' ∧
      Updated now t₀.schema assignments (· ∈ done) rows rows' ∧
        (∀ other, keyOf other ≠ keyOf t₀.schema.name → db'.table? other = db.table? other) ∧
          Ends now t₀.schema assignments old db' (count + done.length) rest result := by
  induction positions generalizing db t rows count with
  | nil =>
    cases hresult
    exact ⟨[], [], t, rows, rfl, ht, hcarries, .none _ _ _ _, fun _ _ => rfl, .all⟩
  | cons i positions ih =>
    rw [List.forall_mem_cons] at hold
    obtain ⟨⟨row, hrow, hcells⟩, hold⟩ := hold
    rw [List.nodup_cons] at hpositions
    rw [List.map_cons, makeSteps] at hresult
    cases hassigned : assigned now t₀.schema assignments (Cell.ofTexts row) with
    | error failure =>
      simp only [replacement, hcells, hassigned] at hresult
      cases hresult
    | ok entries =>
      simp only [replacement, hcells, hassigned, ok_bind, pure_eq_ok] at hresult
      have hstep : (Step.updateRow now t₀.schema.name i (.named entries)).OnRow := trivial
      have hreachable := hstep.reachable h
      have hassigns := updateRow_assigns h hdistinct ht hcarries hrow hassigned
      have hunchanged : ∀ cause, (db.answer (.updateRow now t₀.schema.name i (.named entries))).1
          = .error (.rejection cause) → (db.answer (.updateRow now t₀.schema.name i (.named entries))).2 = db :=
        fun _ => hstep.eq_of_rejected h.consistent
      generalize hanswer : db.answer (.updateRow now t₀.schema.name i (.named entries)) = outcome
        at hresult hreachable hassigns hunchanged
      obtain ⟨answer, db₁⟩ := outcome
      cases answer with
      | ok =>
        obtain ⟨row', t₁, hassigns, hcarries₁, hlookup⟩ := hassigns rfl
        have ht₁ : db₁.table? t₀.schema.name = some t₁ := (hlookup _).trans (if_pos rfl)
        have hold₁ : ∀ j ∈ positions, ∃ row, (rows.set i row')[j]? = some row ∧ old j = Cell.ofTexts row := by
          intro j hj
          have hne : i ≠ j := by
            rintro rfl
            exact hpositions.1 hj
          rw [List.getElem?_set_ne hne]
          exact hold j hj
        obtain ⟨done, rest, t', rows', rfl, ht', hcarries', hupdated, hothers, hends⟩ :=
          ih hreachable ht₁ hcarries₁ hpositions.2 hold₁ hresult
        have hi : i ∉ done := fun hi => hpositions.1 (List.mem_append_left rest hi)
        refine ⟨i :: done, rest, t', rows', rfl, ht', hcarries', .cons hrow hassigns hi hupdated,
          fun other hother => ?_, ?_⟩
        · rw [hothers other hother, hlookup, if_neg hother]
        · have hcount : count + (i :: done).length = count + 1 + done.length := by
            rw [List.length_cons]
            omega
          rw [hcount]
          exact hends
      | error failure =>
        cases failure with
        | rejection cause =>
          obtain rfl : db₁ = db := hunchanged cause rfl
          cases hresult
          refine ⟨[], i :: positions, t, rows, rfl, ht, hcarries, .none _ _ _ _, fun _ _ => rfl, ?_⟩
          exact .rejected (hcells ▸ hassigned) (congrArg Prod.fst hanswer)
        | refusal | fault => cases hresult

/-- An update replaces the rows of its table in which its condition is true, in the order of their positions. -/
theorem rowSteps_update_eq_ok (h : db.Reachable) {statement : Sql.Update}
    {attempts : List (Database → Except Failure Step)} (hsteps : rowSteps db now (.update statement) = .ok attempts) :
    ∃ t condition, ∃ ids : List Nat, db.table? statement.table = some t ∧
      clauseCondition statement.condition = .ok condition ∧ ids.Pairwise (· < ·) ∧
        (∀ i, i ∈ ids ↔ i < t.rows.length ∧ ∀ c ∈ condition, Plan.truth now t.schema t.rows c i = .ok (some true)) ∧
          attempts = ids.map fun i => replacement now t.schema statement.assignments (i, t.rows.getD i []) := by
  obtain ⟨⟨s, found⟩, hfound, hattempts⟩ := bind_eq_ok.1 hsteps
  cases hattempts
  obtain ⟨hs, cells, ids, hmatched, rfl⟩ := rowsToUpdate_eq_ok hfound
  obtain ⟨t, ht, rfl⟩ := tableNamed_eq_ok hs
  obtain ⟨rfl, condition, hcondition, hascending, hids⟩ := matchingRows_eq_ok h ht hmatched
  exact ⟨t, condition, ids, ht, hcondition, hascending, hids, List.map_map⟩

end Execution

/-- Of ascending positions those below one of them are the ones before it. -/
theorem filter_lt_eq {done rest : List Nat} {k : Nat} (h : (done ++ k :: rest).Pairwise (· < ·)) :
    (done ++ k :: rest).filter (· < k) = done := by
  obtain ⟨-, hrest, hdone⟩ := List.pairwise_append.1 h
  have hbefore : done.filter (· < k) = done := by
    rw [List.filter_eq_self]
    exact fun i hi => decide_eq_true (hdone i hi k List.mem_cons_self)
  have hafter : (k :: rest).filter (· < k) = [] := by
    rw [List.filter_eq_nil_iff, List.forall_mem_cons]
    refine ⟨by simp, fun i hi => ?_⟩
    have hlt := (List.pairwise_cons.1 hrest).1 i hi
    simpa using Nat.le_of_lt hlt
  rw [List.filter_append, hbefore, hafter, List.append_nil]

/-! ## The whole statement -/

namespace Session

open Execution

variable {session after : Session} {now : Timestamp} {statement : Sql.Update} {result : Result}

/-- An UPDATE that assigns to different columns replaces the rows in which its condition is true, all of them or those
before the first that is rejected. -/
theorem execute_update (h : session.database.Reachable) (hdistinct : Distinct statement.assignments)
    (hresult : session.execute now (.update statement) = (.ok result, after)) :
    ∃ t condition rows t' rows', ∃ ids : List Nat,
      session.database.table? statement.table = some t ∧ clauseCondition statement.condition = .ok condition ∧
      t.rows = rows.map Cell.ofTexts ∧ after.database.table? statement.table = some t' ∧
      t'.rows = rows'.map Cell.ofTexts ∧ (t' = t ∨ t' = storedTable t.schema rows' now) ∧
      (∀ other, keyOf other ≠ keyOf statement.table → after.database.table? other = session.database.table? other) ∧
      ids.Pairwise (· < ·) ∧
      (∀ i, i ∈ ids ↔ i < rows.length ∧ ∀ c ∈ condition, Plan.truth now t.schema t.rows c i = .ok (some true)) ∧
      (result = .changed ids.length ∧ Updated now t.schema statement.assignments (· ∈ ids) rows rows' ∨
        ∃ k ∈ ids, ∃ entries cause, assigned now t.schema statement.assignments (t.rows.getD k []) = .ok entries ∧
          (after.database.updateRow now t.schema.name k (.named entries)).1 = .error (.rejection cause) ∧
          result = .stopped (ids.filter (· < k)).length cause.message ∧
          Updated now t.schema statement.assignments (fun i => i ∈ ids ∧ i < k) rows rows') := by
  rw [execute_eq rfl] at hresult
  cases hsteps : rowSteps session.database now (.update statement) with
  | error failure =>
    rw [hsteps] at hresult
    cases hresult
  | ok attempts =>
    obtain ⟨t, condition, ids, ht, hcondition, hascending, hids, rfl⟩ := rowSteps_update_eq_ok h hsteps
    have hmade : makeSteps 0 (ids.map fun i => replacement now t.schema statement.assignments (i, t.rows.getD i []))
        session.database = (.ok result, after.database) := by
      rw [hsteps] at hresult
      obtain ⟨hok, rfl⟩ := Prod.mk.inj hresult
      exact Prod.ext hok rfl
    have hmem := Database.mem_of_table? ht
    have hkey : keyOf t.schema.name = keyOf statement.table := h.consistent.keyOf_name hmem
    cases hcontent : t.content with
    | none =>
      -- a table that was not loaded has no row
      have hrows : t.rows = [] := by
        rw [Table.rows, hcontent]
        rfl
      obtain rfl : ids = [] := List.eq_nil_iff_forall_not_mem.2 fun i hi =>
        absurd ((hids i).1 hi).1 (by simp [hrows])
      obtain ⟨hchanged, hsame⟩ := Prod.mk.inj hmade
      cases hchanged
      rw [← hsame]
      exact ⟨t, condition, [], t, [], [], ht, hcondition, hrows, ht, hrows, .inl rfl, fun _ _ => rfl, .nil,
        by simp, .inl ⟨rfl, .none _ _ _ _⟩⟩
    | some content =>
      obtain ⟨rows, hrows, -⟩ := (h.consistent.fit _ hmem).rows content hcontent
      have hlength : t.rows.length = rows.length := by rw [hrows.rows_eq, List.length_map]
      rw [hlength] at hids
      have hold : ∀ i ∈ ids, ∃ row, rows[i]? = some row ∧ t.rows.getD i [] = Cell.ofTexts row := by
        intro i hi
        have hrow := List.getElem?_eq_getElem ((hids i).1 hi).1
        exact ⟨_, hrow, hrows.getD_rows hrow⟩
      obtain ⟨done, rest, t', rows', hsplit, ht', hcarries, hupdated, hothers, hends⟩ :=
        makeSteps_replaced h hdistinct (table?_name h ht) ⟨hrows, .inl rfl⟩ (hascending.imp Nat.ne_of_lt) hold hmade
      rw [Database.table?, hkey] at ht'
      rw [hkey] at hothers
      refine ⟨t, condition, rows, t', rows', ids, ht, hcondition, hrows.rows_eq, ht', hcarries.holds.rows_eq,
        hcarries.same, hothers, hascending, hids, ?_⟩
      rw [Nat.zero_add] at hends
      cases hends with
      | all =>
        rw [List.append_nil] at hsplit
        rw [hsplit]
        exact .inl ⟨rfl, hupdated⟩
      | @rejected k rest entries cause hassigned hrejected =>
        have hdone : ids.filter (· < k) = done := by
          rw [hsplit] at hascending ⊢
          exact filter_lt_eq hascending
        refine .inr ⟨k, by simp [hsplit], entries, cause, hassigned, Database.Outcome.error_of_done hrejected,
          by rw [hdone], hupdated.congr fun i => ?_⟩
        rw [← hdone, List.mem_filter, decide_eq_true_iff]

/-! ## Labels whose numbers are raised -/

namespace Label

/-- A session on a database with three labels, of which the first and the last are of one kind. -/
def series : Session :=
  ofDatabase ((Database.Label.database.insertRow Database.Label.moment "label" (.cells ["8", "y"])).2.insertRow
    Database.Label.moment "label" (.cells ["9", "x"])).2

theorem series_reachable : series.database.Reachable :=
  (Database.Label.reachable.move (.insertRow Database.Label.moment "label" (.cells ["8", "y"]))).move
    (.insertRow Database.Label.moment "label" (.cells ["9", "x"]))

/-- The numbers of the labels of that kind are raised. -/
def raising : Sql.Update where
  table := "label"
  assignments := [("number", .binary .add (.column none "number") (.literal (.number "2147483640")))]
  condition := some "kind = 'x'"

end Label

/-- The last number would be too large for its column, and the first one has been raised. -/
theorem label_raised : ∃ rows rows', ∃ ids : List Nat, ∃ k ∈ ids,
    Label.series.database.rows "label" = rows.map Cell.ofTexts ∧
      (Label.series.execute Database.Label.moment (.update Label.raising)).2.database.rows "label"
        = rows'.map Cell.ofTexts ∧
      (ids.filter (· < k)).length = 1 ∧
      Updated Database.Label.moment (stamped Database.Label.schema (rows.map Cell.ofTexts) Database.Label.moment)
        Label.raising.assignments (fun i => i ∈ ids ∧ i < k) rows rows' := by
  have hdistinct : Distinct Label.raising.assignments := by
    rw [Distinct]
    decide +kernel
  have hstopped : (Label.series.execute Database.Label.moment (.update Label.raising)).1
      = .ok (.stopped 1 "Column 'number': Invalid value '2147483649' for type INT") := by decide +kernel
  have htable : Label.series.database.table? "label"
      = some (storedTable Database.Label.schema [["7", "x"], ["8", "y"], ["9", "x"]] Database.Label.moment) := by
    decide +kernel
  obtain ⟨t, condition, rows, t', rows', ids, ht, -, hrows, ht', hrows', -, -, -, -, hends⟩ :=
    execute_update Label.series_reachable hdistinct (Prod.ext hstopped rfl)
  obtain rfl := Option.some.inj (htable.symm.trans ht)
  rcases hends with ⟨hall, -⟩ | ⟨k, hk, entries, cause, -, -, hresult, hupdated⟩
  · cases hall
  · refine ⟨rows, rows', ids, k, hk, (Database.rows_of_table? ht).trans hrows,
      (Database.rows_of_table? ht').trans hrows', ?_, ?_⟩
    · have hcount : (1 : Int) = (ids.filter (· < k)).length := congrArg Result.affectedRows hresult
      exact_mod_cast hcount.symm
    · rw [← hrows]
      exact hupdated

end Session

end Relational
