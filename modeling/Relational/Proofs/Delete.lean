import Relational.Proofs.Database.SelfReferences
import Relational.Proofs.Update

/-!
# What DELETE does to the rows

DELETE finds the rows in which its condition is true, and removes them one after the other, the last one first. So a row
that is still to be removed is at the position where it was found, whatever has been removed before, and the rows after
the statement are those in which the condition was not true. If another row refers to one of them, the statement stops
there: the rows after it have gone, if the condition was true in them, and it and those before it are still there.
-/

namespace Relational

open Database (Step keyOf storedTable)

/-! ## Rejections of a deletion -/

namespace Database

variable {K : RowInvariant} {db : Database} {now : Timestamp} {key name childKey : String} {s : Schema}
  {row : List String} {position : Nat} {newRow : Option (List String)} {child t : Table} {fk : ForeignKey}
  {cause : Rejection}

/-- Some row refers to the key that the row at `position` of the table under `key` gives up, and it is not this row. -/
def RefersTo (key : String) (s : Schema) (row : List String) (position : Nat) (newRow : Option (List String))
    (childKey : String) (child : Table) (fk : ForeignKey) : Prop :=
  keyOf fk.refTable = key ∧ GivesUpKey s fk row newRow ∧
    ∃ i ∈ Table.scan child.schema fk.columns (s.cells fk.refColumns row) child.rows, ¬ (childKey = key ∧ i = position)

/-- A row of some table refers to the key that the row at `position` of the table under `key` gives up. -/
def Referenced (db : Database) (key : String) (s : Schema) (row : List String) (position : Nat)
    (newRow : Option (List String)) (child : String) : Prop :=
  ∃ entry ∈ db.tables, entry.2.schema.name = child ∧
    ∃ rule ∈ entry.2.schema.foreignKeys, RefersTo key s row position newRow entry.1 entry.2 rule.2

theorem checkAll_eq_error {α : Type} {check : α → Except Failure Unit} {as : List α} {failure : Failure}
    (h : checkAll check as = .error failure) : ∃ a ∈ as, check a = .error failure := by
  induction as with
  | nil => cases h
  | cons a as ih =>
    rw [checkAll] at h
    cases ha : check a with
    | error first =>
      rw [ha] at h
      cases h
      exact ⟨a, List.mem_cons_self, ha⟩
    | ok =>
      rw [ha, ok_bind] at h
      obtain ⟨b, hb, hfailed⟩ := ih h
      exact ⟨b, List.mem_cons_of_mem a hb, hfailed⟩

/-- A table whose rows were not loaded rejects nothing: looking for a row in it is a fault. -/
theorem not_rejected_of_content_eq_none (hcontent : child.content = none) :
    checkNotReferencedBy key s (Cell.ofTexts row) position newRow childKey child fk ≠ .error (.rejection cause) := by
  have hfind : ∀ cells, child.findRows fk.columns cells = fail (.missingKey (Text.lower child.schema.name)) := by
    intro cells
    rw [Table.findRows, Table.loaded, hcontent]
    rfl
  unfold checkNotReferencedBy
  rw [Schema.cells_ofTexts, Cell.keyTexts_ofTexts, ok_bind, hfind, fail_bind]
  split
  · rintro ⟨⟩
  · split <;> rintro ⟨⟩

/-- The only rejection is that of a row that is referred to. -/
theorem rejection_eq_rowReferenced {rows : List (List String)} (hrows : child.Holds rows)
    (h : checkNotReferencedBy key s (Cell.ofTexts row) position newRow childKey child fk = .error (.rejection cause)) :
    cause = .rowReferenced child.schema.name := by
  unfold checkNotReferencedBy at h
  rw [Schema.cells_ofTexts, Cell.keyTexts_ofTexts, ok_bind] at h
  split at h
  · cases h
  · split at h
    · cases h
    · rename_i hpresent
      rw [Bool.or_eq_true, not_or] at hpresent
      rw [hrows.findRows _ (by simpa using hpresent.1), ok_bind] at h
      dsimp only at h
      generalize (if (childKey == key) = true then _ else _ : List Nat) = others at h
      split at h <;> cases h
      rfl

theorem checkNotReferencedBy_rejected (hchild : child.Fit K)
    (h : checkNotReferencedBy key s (Cell.ofTexts row) position newRow childKey child fk = .error (.rejection cause)) :
    cause = .rowReferenced child.schema.name ∧ RefersTo key s row position newRow childKey child fk := by
  cases hcontent : child.content with
  | none => exact absurd h (not_rejected_of_content_eq_none hcontent)
  | some content =>
    obtain ⟨rows, hrows, -⟩ := hchild.rows content hcontent
    have hfailed : checkNotReferencedBy key s (Cell.ofTexts row) position newRow childKey child fk ≠ .ok () := by
      rw [h]
      rintro ⟨⟩
    rw [ne_eq, checkNotReferencedBy_eq_ok ⟨hchild.wellFormed, rows, hrows⟩] at hfailed
    refine ⟨rejection_eq_rowReferenced hrows h, ?_⟩
    simp only [not_forall] at hfailed
    obtain ⟨hkey, hgives, i, hi, hother⟩ := hfailed
    exact ⟨hkey, hgives, i, hi, hother⟩

theorem checkNotReferenced_rejected (h : db.Consistent K)
    (hrejected : checkNotReferenced db key s (Cell.ofTexts row) position newRow = .error (.rejection cause)) :
    ∃ child, cause = .rowReferenced child ∧ db.Referenced key s row position newRow child := by
  obtain ⟨entry, hentry, hrejected⟩ := checkAll_eq_error hrejected
  obtain ⟨rule, hrule, hrejected⟩ := checkAll_eq_error hrejected
  obtain ⟨hcause, hrefers⟩ := checkNotReferencedBy_rejected (h.fit entry hentry) hrejected
  exact ⟨entry.2.schema.name, hcause, entry, hentry, rfl, rule, hrule, hrefers⟩

/-- A row that is there is kept only because another row refers to it. -/
theorem deletion_rejected (h : db.Consistent K) (ht : db.table? name = some t) {rows : List (List String)}
    (hrows : t.Holds rows) (hrow : rows[position]? = some row)
    (hrejected : db.deletion name position = .error (.rejection cause)) :
    ∃ child, cause = .rowReferenced child ∧ db.Referenced (keyOf name) t.schema row position none child := by
  have hat : rowAt t position = .ok (t.schema.contentOf rows, position, Cell.ofTexts row) := by
    have hcells : (t.schema.contentOf rows).rows[position]? = some (Cell.ofTexts row) := by
      rw [Schema.contentOf, List.getElem?_map, hrow]
      rfl
    rw [rowAt, hrows.loaded, ok_bind]
    simp only [hcells]
    rfl
  rw [deletion, table_eq_ok.2 ht, ok_bind, hat, ok_bind] at hrejected
  refine checkNotReferenced_rejected h ?_
  cases hchecked : checkNotReferenced db (keyOf name) t.schema (Cell.ofTexts row) position none with
  | error failure =>
    simp only [hchecked] at hrejected
    cases hrejected
    rfl
  | ok =>
    simp only [hchecked] at hrejected
    cases hrejected

end Database

/-! ## Positions of items -/

section Places

variable {α : Type} (P : α → Bool)

/-- The positions of the items with a property. -/
def places (xs : List α) : List Nat :=
  (List.range xs.length).filter fun i => xs[i]?.any P

theorem places_append_singleton (xs : List α) (x : α) :
    places P (xs ++ [x]) = places P xs ++ if P x then [xs.length] else [] := by
  have hbefore : (List.range xs.length).filter (fun i => (xs ++ [x])[i]?.any P) = places P xs := by
    refine List.filter_congr fun i hi => ?_
    rw [List.getElem?_append_left (List.mem_range.1 hi)]
  rw [places, List.length_append, List.length_singleton, List.range_succ, List.filter_append, hbefore]
  simp [List.filter_singleton]

/-- Ascending positions are those of the items with a property, if they are the positions of these items. -/
theorem eq_places {xs : List α} {ids : List Nat} (hascending : ids.Pairwise (· < ·))
    (hids : ∀ i, i ∈ ids ↔ i < xs.length ∧ xs[i]?.any P) : ids = places P xs := by
  refine List.Perm.eq_of_pairwise (fun a b _ _ (hab : a < b) hba => absurd hab (Nat.lt_asymm hba)) hascending
    (List.pairwise_lt_range.filter _) ?_
  refine (List.perm_ext_iff_of_nodup (hascending.imp Nat.ne_of_lt) (List.nodup_range.filter _)).2 fun i => ?_
  rw [hids, List.mem_filter, List.mem_range]

end Places

namespace Execution

open Database (Carries Referenced)

variable {db db' : Database} {now : Timestamp} {t t₀ : Table} {rows : List (List String)} {row : List String} {i : Nat}

/-! ## One row -/

/-- A deletion that succeeds leaves out the row at its position. -/
theorem deleteRow_erases (h : db.Reachable) (ht : db.table? t₀.schema.name = some t) (hcarries : Carries now t₀ t rows)
    (hok : (db.answer (.deleteRow now t₀.schema.name i)).1 = .ok ()) :
    ∃ t', Carries now t₀ t' (rows.eraseIdx i) ∧ ∀ name, (db.answer (.deleteRow now t₀.schema.name i)).2.table? name
      = if keyOf name = keyOf t₀.schema.name then some t' else db.table? name := by
  have hself : db.answer (.deleteRow now t₀.schema.name i)
      = (db.upon db.directory).answer (.deleteRow now t₀.schema.name i) := rfl
  rw [hself] at hok ⊢
  cases hdeletion : db.deletion t₀.schema.name i with
  | error failure =>
    rw [Database.deleteRow_refused hdeletion] at hok
    cases hok
  | ok checked =>
    obtain ⟨t', content, i'⟩ := checked
    obtain ⟨hi, ht', rows', hrows, -, rfl⟩ := Database.deletion_eq_ok h.consistent hdeletion
    obtain rfl : i = i' := Int.ofNat.inj hi
    obtain rfl : t = t' := Option.some.inj (ht.symm.trans ht')
    obtain rfl : rows = rows' := hcarries.holds.unique hrows
    have hwide : ∀ row ∈ rows.eraseIdx i, row.length = t.schema.columns.length :=
      fun row hrow => hrows.wide row (List.mem_of_mem_eraseIdx hrow)
    refine ⟨_, hcarries.rewrite hwide, fun name => ?_⟩
    rw [Database.deleteRow_made hdeletion now db.directory] at hok ⊢
    exact Database.table?_make_put hok name

/-- A deletion that is rejected was to remove a row to which another refers. -/
theorem deleteRow_rejected (h : db.Reachable) (ht : db.table? t₀.schema.name = some t)
    (hcarries : Carries now t₀ t rows) (hrow : rows[i]? = some row) {cause : Rejection}
    (hrejected : (db.answer (.deleteRow now t₀.schema.name i)).1 = .error (.rejection cause)) :
    ∃ child, cause = .rowReferenced child ∧ db.Referenced (keyOf t₀.schema.name) t₀.schema row i none child := by
  have hself : db.answer (.deleteRow now t₀.schema.name i)
      = (db.upon db.directory).answer (.deleteRow now t₀.schema.name i) := rfl
  rw [hself] at hrejected
  cases hdeletion : db.deletion t₀.schema.name i with
  | error failure =>
    rw [Database.deleteRow_refused hdeletion] at hrejected
    cases hrejected
    obtain ⟨child, hcause, hreferenced⟩ := Database.deletion_rejected h.consistent ht hcarries.holds hrow hdeletion
    refine ⟨child, hcause, ?_⟩
    rcases hcarries.same with rfl | rfl <;> exact hreferenced
  | ok checked =>
    obtain ⟨t', content, i'⟩ := checked
    obtain ⟨hi, -, rows', -, -, rfl⟩ := Database.deletion_eq_ok h.consistent hdeletion
    obtain rfl : i = i' := Int.ofNat.inj hi
    rw [Database.deleteRow_made hdeletion now db.directory] at hrejected
    exact absurd hrejected (Database.make_put_ne_rejection _ _ _ cause)

/-! ## Row by row -/

variable (sel : List String → Bool)

/-- How a run over the selected rows of `front`, from the last one on, ends after `count` rows were removed: all of them
have gone, or a row is rejected and those before it are as they were. -/
inductive Erased (db : Database) (s : Schema) (count : Nat) (front : List (List String)) :
    Result → List (List String) → Prop where
  | all : Erased db s count front (.changed (count + front.countP sel)) (front.filter (!sel ·))
  | rejected {before after : List (List String)} {row : List String} {child : String}
      (hfront : front = before ++ row :: after) (hrow : sel row = true)
      (hreferenced : db.Referenced (keyOf s.name) s row before.length none child) :
      Erased db s count front (.stopped (count + after.countP sel) (Rejection.rowReferenced child).message)
        (before ++ row :: after.filter (!sel ·))

variable {sel}

/-- A row that is not selected stays behind those before it. -/
theorem Erased.keep {s : Schema} {count : Nat} {front rows' : List (List String)} {result : Result}
    (hrow : sel row = false) (h : Erased sel db s count front result rows') :
    Erased sel db s count (front ++ [row]) result (rows' ++ [row]) := by
  cases h with
  | all =>
    have hcount : (front ++ [row]).countP sel = front.countP sel := by simp [hrow]
    have hfilter : (front ++ [row]).filter (!sel ·) = front.filter (!sel ·) ++ [row] := by simp [hrow]
    rw [← hcount, ← hfilter]
    exact .all
  | @rejected before after other child hfront hother hreferenced =>
    have hcount : (after ++ [row]).countP sel = after.countP sel := by simp [hrow]
    have hfilter : before ++ other :: after.filter (!sel ·) ++ [row]
        = before ++ other :: (after ++ [row]).filter (!sel ·) := by simp [hrow]
    rw [← hcount, hfilter]
    exact .rejected (by rw [hfront, List.append_assoc]; rfl) hother hreferenced

/-- A selected row has gone before those in front of it. -/
theorem Erased.erase {s : Schema} {count : Nat} {front rows' : List (List String)} {result : Result}
    (hrow : sel row = true) (h : Erased sel db s (count + 1) front result rows') :
    Erased sel db s count (front ++ [row]) result rows' := by
  cases h with
  | all =>
    have hcount : count + (front ++ [row]).countP sel = count + 1 + front.countP sel := by
      rw [List.countP_append, List.countP_singleton, if_pos hrow]
      omega
    have hfilter : (front ++ [row]).filter (!sel ·) = front.filter (!sel ·) := by simp [hrow]
    rw [← hcount, ← hfilter]
    exact .all
  | @rejected before after other child hfront hother hreferenced =>
    have hcount : count + (after ++ [row]).countP sel = count + 1 + after.countP sel := by
      rw [List.countP_append, List.countP_singleton, if_pos hrow]
      omega
    have hfilter : after.filter (!sel ·) = (after ++ [row]).filter (!sel ·) := by simp [hrow]
    rw [← hcount, hfilter]
    exact .rejected (by rw [hfront, List.append_assoc]; rfl) hother hreferenced

/-- As long as rows are removed from the last one on, those before them are at their positions. -/
theorem makeSteps_erased {front kept : List (List String)} (h : db.Reachable)
    (ht : db.table? t₀.schema.name = some t) (hcarries : Carries now t₀ t (front ++ kept)) {count : Nat}
    {result : Result}
    (hresult : makeSteps count ((places sel front).reverse.map (deletion now t₀.schema)) db = (.ok result, db')) :
    ∃ t' rows', db'.table? t₀.schema.name = some t' ∧ Carries now t₀ t' (rows' ++ kept) ∧
      (∀ other, keyOf other ≠ keyOf t₀.schema.name → db'.table? other = db.table? other) ∧
        Erased sel db' t₀.schema count front result rows' := by
  induction front using List.reverseRecOn generalizing db t kept count with
  | nil =>
    cases hresult
    exact ⟨t, [], ht, hcarries, fun _ _ => rfl, .all⟩
  | append_singleton front row ih =>
    rw [List.append_assoc, List.singleton_append] at hcarries
    rw [places_append_singleton] at hresult
    cases hsel : sel row with
    | false =>
      rw [hsel, if_neg Bool.false_ne_true, List.append_nil] at hresult
      obtain ⟨t', rows', ht', hcarries', hothers, herased⟩ := ih h ht hcarries hresult
      refine ⟨t', rows' ++ [row], ht', ?_, hothers, herased.keep hsel⟩
      rw [List.append_assoc]
      exact hcarries'
    | true =>
      rw [hsel, if_pos rfl, List.reverse_append, List.reverse_singleton, List.singleton_append, List.map_cons,
        makeSteps] at hresult
      simp only [deletion] at hresult
      have hrow : (front ++ row :: kept)[front.length]? = some row := by simp
      have hstep : (Step.deleteRow now t₀.schema.name front.length).OnRow := trivial
      have hreachable := hstep.reachable h
      have herases := deleteRow_erases (i := front.length) h ht hcarries
      have hrejected : ∀ cause, (db.answer (.deleteRow now t₀.schema.name front.length)).1
          = .error (.rejection cause) → _ ∧ _ :=
        fun cause hcause => And.intro (deleteRow_rejected h ht hcarries hrow hcause)
          (hstep.eq_of_rejected h.consistent hcause)
      generalize db.answer (.deleteRow now t₀.schema.name front.length) = outcome
        at hresult hreachable herases hrejected
      obtain ⟨answer, db₁⟩ := outcome
      cases answer with
      | ok =>
        obtain ⟨t₁, hcarries₁, hlookup⟩ := herases rfl
        have ht₁ : db₁.table? t₀.schema.name = some t₁ := (hlookup _).trans (if_pos rfl)
        have hrows : (front ++ row :: kept).eraseIdx front.length = front ++ kept := by
          rw [List.eraseIdx_append_of_length_le (Nat.le_refl _), Nat.sub_self]
          rfl
        rw [hrows] at hcarries₁
        obtain ⟨t', rows', ht', hcarries', hothers, herased⟩ := ih hreachable ht₁ hcarries₁ hresult
        refine ⟨t', rows', ht', hcarries', fun other hother => ?_, herased.erase hsel⟩
        rw [hothers other hother, hlookup, if_neg hother]
      | error failure =>
        cases failure with
        | rejection cause =>
          obtain ⟨⟨child, rfl, hreferenced⟩, rfl⟩ := hrejected cause rfl
          cases hresult
          have hlast : Erased sel _ t₀.schema count (front ++ row :: []) (.stopped (count + 0) _)
              (front ++ row :: []) := .rejected rfl hsel hreferenced
          refine ⟨t, front ++ [row], ht, ?_, fun _ _ => rfl, hlast⟩
          rw [List.append_assoc]
          exact hcarries
        | refusal | fault => cases hresult

end Execution

/-! ## The whole statement -/

namespace Execution

variable {db : Database} {now : Timestamp} {t : Table} {rows : List (List String)}

/-- The condition of a clause is true in a row: neither false nor unknown, and it can be evaluated. -/
def selects (now : Timestamp) (s : Schema) (condition : Option Condition) (row : List String) : Bool :=
  condition.all fun c => c.evaluate (s.rowScope now row) == .ok (some true)

theorem any_selects_iff (hrows : t.Holds rows) {i : Nat} (hi : i < rows.length) {condition : Option Condition} :
    rows[i]?.any (selects now t.schema condition) = true ↔
      ∀ c ∈ condition, Plan.truth now t.schema t.rows c i = .ok (some true) := by
  have hrow := List.getElem?_eq_getElem hi
  rw [hrow, Option.any_some, selects, Option.all_eq_true]
  simp only [beq_iff_eq, Option.mem_def]
  refine forall₂_congr fun c _ => ?_
  rw [Plan.truth_of_row hrows hrow]

/-- The rows of a table that can be reached, none if it was not loaded. -/
theorem exists_rows (h : db.Reachable) {name : String} (ht : db.table? name = some t) :
    ∃ rows, t.rows = rows.map Cell.ofTexts ∧ (t.Holds rows ∨ rows = []) := by
  cases hcontent : t.content with
  | none =>
    have hrows : t.rows = [] := by
      rw [Table.rows, hcontent]
      rfl
    exact ⟨[], hrows, .inr rfl⟩
  | some content =>
    obtain ⟨rows, hrows, -⟩ := (h.consistent.fit _ (Database.mem_of_table? ht)).rows content hcontent
    exact ⟨rows, hrows.rows_eq, .inl hrows⟩

/-- A clause selects the rows in which its condition is true. -/
theorem matchingRows_places (h : db.Reachable) {name : String} (ht : db.table? name = some t)
    (hrows : t.rows = rows.map Cell.ofTexts) (hholds : t.Holds rows ∨ rows = []) {clause : Option String}
    {cells : List (List Cell)} {positions : List Nat}
    (hmatched : matchingRows db now t.schema clause = .ok (cells, positions)) :
    cells = rows.map Cell.ofTexts ∧ ∃ condition, clauseCondition clause = .ok condition ∧
      positions = places (selects now t.schema condition) rows := by
  obtain ⟨rfl, condition, hcondition, hascending, hids⟩ := matchingRows_eq_ok h ht hmatched
  refine ⟨hrows, condition, hcondition, eq_places _ hascending fun i => ?_⟩
  rw [hids, hrows, List.length_map, ← hrows]
  refine and_congr_right fun hi => ?_
  rcases hholds with hholds | rfl
  · exact (any_selects_iff hholds hi).symm
  · cases hi

/-- A deletion removes the rows of its table in which its condition is true, from the last one on. -/
theorem rowSteps_delete_eq_ok (h : db.Reachable) {statement : Sql.Delete}
    {attempts : List (Database → Except Failure Step)} (hsteps : rowSteps db now (.delete statement) = .ok attempts) :
    ∃ t condition rows, db.table? statement.table = some t ∧ clauseCondition statement.condition = .ok condition ∧
      t.rows = rows.map Cell.ofTexts ∧ (t.Holds rows ∨ rows = []) ∧
        attempts = (places (selects now t.schema condition) rows).reverse.map (deletion now t.schema) := by
  obtain ⟨⟨s, positions⟩, hfound, hattempts⟩ := bind_eq_ok.1 hsteps
  cases hattempts
  obtain ⟨named, hs, hfound⟩ := bind_eq_ok.1 hfound
  obtain ⟨⟨cells, ids⟩, hmatched, hfound⟩ := bind_eq_ok.1 hfound
  cases hfound
  obtain ⟨t, ht, rfl⟩ := tableNamed_eq_ok hs
  obtain ⟨rows, hrows, hholds⟩ := exists_rows h ht
  obtain ⟨-, condition, hcondition, rfl⟩ := matchingRows_places h ht hrows hholds hmatched
  exact ⟨t, condition, rows, ht, hcondition, hrows, hholds, rfl⟩

end Execution

namespace Session

open Execution

variable {session after : Session} {now : Timestamp} {statement : Sql.Delete} {result : Result}

/-- A DELETE removes the rows in which its condition is true, and no other, and counts them. If one of them is referred
to by another row, those after it have been removed, and it and those before it are still there. -/
theorem execute_delete (h : session.database.Reachable)
    (hresult : session.execute now (.delete statement) = (.ok result, after)) :
    ∃ t condition rows t' rows',
      session.database.table? statement.table = some t ∧ clauseCondition statement.condition = .ok condition ∧
      t.rows = rows.map Cell.ofTexts ∧ after.database.table? statement.table = some t' ∧
      t'.rows = rows'.map Cell.ofTexts ∧ (t' = t ∨ t' = storedTable t.schema rows' now) ∧
      (∀ other, keyOf other ≠ keyOf statement.table → after.database.table? other = session.database.table? other) ∧
      (result = .changed (rows.countP (selects now t.schema condition)) ∧
          rows' = rows.filter (!selects now t.schema condition ·) ∨
        ∃ front row back child, rows = front ++ row :: back ∧ selects now t.schema condition row = true ∧
          rows' = front ++ row :: back.filter (!selects now t.schema condition ·) ∧
          after.database.Referenced (keyOf statement.table) t.schema row front.length none child ∧
          result = .stopped (back.countP (selects now t.schema condition))
            (Rejection.rowReferenced child).message) := by
  rw [execute_eq rfl] at hresult
  cases hsteps : rowSteps session.database now (.delete statement) with
  | error failure =>
    rw [hsteps] at hresult
    cases hresult
  | ok attempts =>
    have hmade : makeSteps 0 attempts session.database = (.ok result, after.database) := by
      rw [hsteps] at hresult
      obtain ⟨hok, rfl⟩ := Prod.mk.inj hresult
      exact Prod.ext hok rfl
    obtain ⟨t, condition, rows, ht, hcondition, hrows, hholds | rfl, rfl⟩ := rowSteps_delete_eq_ok h hsteps
    · have hkey : keyOf t.schema.name = keyOf statement.table := h.consistent.keyOf_name (Database.mem_of_table? ht)
      have hcarries : Database.Carries now t t (rows ++ []) := by
        rw [List.append_nil]
        exact ⟨hholds, .inl rfl⟩
      obtain ⟨t', rows', ht', hcarries', hothers, herased⟩ :=
        makeSteps_erased h (table?_name h ht) hcarries hmade
      rw [Database.table?, hkey] at ht'
      rw [hkey] at hothers
      rw [List.append_nil] at hcarries'
      refine ⟨t, condition, rows, t', rows', ht, hcondition, hrows, ht', hcarries'.holds.rows_eq,
        hcarries'.same, hothers, ?_⟩
      cases herased with
      | all =>
        rw [Nat.zero_add]
        exact .inl ⟨rfl, rfl⟩
      | @rejected front back row child hfront hrow hreferenced =>
        rw [Nat.zero_add]
        rw [hkey] at hreferenced
        exact .inr ⟨front, row, back, child, hfront, hrow, rfl, hreferenced, rfl⟩
    · obtain ⟨hchanged, hsame⟩ := Prod.mk.inj hmade
      cases hchanged
      rw [← hsame]
      exact ⟨t, condition, [], t, [], ht, hcondition, hrows, ht, hrows, .inl rfl, fun _ _ => rfl, .inl ⟨rfl, rfl⟩⟩

/-! ## Links that are deleted -/

namespace Ring

open Database.Ring (moment schema declared)

/-- A database with one link. -/
def one : Database :=
  (((Database.empty none).addTable moment schema).2.insertRow moment "ring" (.cells ["a", "NULL"])).2

/-- A session on a database with three links, of which the second refers to the first. -/
def links : Session :=
  ofDatabase ((one.insertRow moment "ring" (.cells ["b", "a"])).2.insertRow moment "ring" (.cells ["c", "NULL"])).2

theorem links_reachable : links.database.Reachable := by
  have hone : one.Reachable :=
    ((Database.Reachable.empty none).move (.addTable moment declared ⟨rfl, by decide⟩)).move
      (.insertRow moment "ring" (.cells ["a", "NULL"]))
  exact (hone.move (.insertRow moment "ring" (.cells ["b", "a"]))).move
    (.insertRow moment "ring" (.cells ["c", "NULL"]))

/-- The definition of the table as it was written last. -/
def stored : Schema :=
  (storedTable schema [["a", "NULL"], ["b", "a"], ["c", "NULL"]] moment).schema

/-- The links that refer to no other are to go. -/
def loose : Sql.Delete :=
  ⟨"ring", some "next IS NULL"⟩

end Ring

/-- The last link goes, and the first one stays because the second refers to it. -/
theorem ring_deletion_stopped : ∃ condition front row back child,
    clauseCondition Ring.loose.condition = .ok condition ∧
      [["a", "NULL"], ["b", "a"], ["c", "NULL"]] = front ++ row :: back ∧
      back.countP (selects Database.Ring.moment Ring.stored condition) = 1 ∧
      (Ring.links.execute Database.Ring.moment (.delete Ring.loose)).2.database.rows "ring"
        = (front ++ row :: back.filter fun row => !selects Database.Ring.moment Ring.stored condition row).map
            Cell.ofTexts ∧
      (Ring.links.execute Database.Ring.moment (.delete Ring.loose)).2.database.Referenced "ring" Ring.stored row
        front.length none child := by
  have hstopped : (Ring.links.execute Database.Ring.moment (.delete Ring.loose)).1
      = .ok (.stopped 1 "FOREIGN KEY constraint violation: row referenced by table 'ring'") := by decide +kernel
  have htable : Ring.links.database.table? "ring" = some (storedTable Database.Ring.schema
      [["a", "NULL"], ["b", "a"], ["c", "NULL"]] Database.Ring.moment) := by decide +kernel
  obtain ⟨t, condition, rows, t', rows', ht, hcondition, hrows, ht', hrows', -, -, hends⟩ :=
    execute_delete Ring.links_reachable (Prod.ext hstopped rfl)
  obtain rfl := Option.some.inj (htable.symm.trans ht)
  obtain rfl : [["a", "NULL"], ["b", "a"], ["c", "NULL"]] = rows :=
    List.map_injective_iff.2 (fun _ _ => Cell.ofTexts_injective) hrows
  rcases hends with ⟨hall, -⟩ | ⟨front, row, back, child, hsplit, -, rfl, hreferenced, hresult⟩
  · cases hall
  · refine ⟨condition, front, row, back, child, hcondition, hsplit, ?_,
      (Database.rows_of_table? ht').trans hrows', hreferenced⟩
    have hcount : (1 : Int) = back.countP (selects Database.Ring.moment Ring.stored condition) :=
      congrArg Result.affectedRows hresult
    exact_mod_cast hcount.symm

end Session

end Relational
