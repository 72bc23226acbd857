import Relational.Proofs.Database.Run

/-!
# Keys stay apart

In every database that is reached from an empty one, two rows of a table have the same key only if a part of it is
NULL, for the primary key and every rule of uniqueness; and no part of a primary key is NULL.
-/

namespace Relational

/-- The cell counts as NULL. -/
def Cell.isNull : Cell → Bool
  | .text s => isNullText s
  | .other value => value == .null

theorem Cell.forall_isNull_eq_false_iff {key : List String} :
    (∀ cell ∈ Cell.ofTexts key, cell.isNull = false) ↔ Index.hasNull key = false := by
  simp [Cell.ofTexts, Cell.isNull, Index.hasNull]

namespace Schema

/-- Rows at different positions have no key in common. -/
def KeysApart (s : Schema) (rows : List (List String)) : Prop :=
  ∀ rule ∈ Database.keyRules s, ∀ (i j : Nat) (row other : List String), rows[i]? = some row →
    rows[j]? = some other → s.SameKey rule.2 row other → i = j

/-- Rows at different positions have no key in common in the columns. -/
def Apart (s : Schema) (columns : List String) (rows : List (List String)) : Prop :=
  ∀ (i j : Nat) (row other : List String), rows[i]? = some row → rows[j]? = some other →
    s.SameKey columns row other → i = j

theorem Apart.eraseIdx {s : Schema} {columns : List String} {rows : List (List String)} (h : s.Apart columns rows)
    (k : Nat) : s.Apart columns (rows.eraseIdx k) := by
  intro i j a b ha hb hsame
  rw [List.getElem?_eraseIdx] at ha hb
  -- a row before the one removed keeps its position, one after it moves up
  split at ha <;> split at hb
  · exact h i j a b ha hb hsame
  · have heq := h i (j + 1) a b ha hb hsame
    omega
  · have heq := h (i + 1) j a b ha hb hsame
    omega
  · have heq := h (i + 1) (j + 1) a b ha hb hsame
    omega

/-- Rows with equal keys at different positions have a NULL in the key. -/
theorem Apart.exists_isNull {s : Schema} {columns : List String} {rows : List (List String)} (h : s.Apart columns rows)
    {i j : Nat} (hne : i ≠ j) {row other : List Cell} (hrow : (rows.map Cell.ofTexts)[i]? = some row)
    (hother : (rows.map Cell.ofTexts)[j]? = some other) (hsame : s.cells columns row = s.cells columns other) :
    ∃ cell ∈ s.cells columns row, cell.isNull = true := by
  obtain ⟨a, ha, rfl⟩ := Table.getElem?_map_ofTexts.1 hrow
  obtain ⟨b, hb, rfl⟩ := Table.getElem?_map_ofTexts.1 hother
  rw [cells_ofTexts, cells_ofTexts] at hsame
  rw [cells_ofTexts]
  -- otherwise the two rows have a key in common, and stand at one position
  by_contra hnone
  simp only [not_exists, not_and, Bool.not_eq_true] at hnone
  have hkey : Index.hasNull (s.cells columns a) = false := Cell.forall_isNull_eq_false_iff.1 hnone
  exact hne (h i j a b ha hb ⟨(Cell.ofTexts_injective hsame).symm, hkey⟩)

/-- No part of the primary key of a row is NULL. -/
def KeysPresent (s : Schema) (rows : List (List String)) : Prop :=
  ∀ row ∈ rows, Index.hasNull (s.cells s.primaryKey row) = false

theorem SameKey.symm {s : Schema} {columns row other : List String} (h : s.SameKey columns row other) :
    s.SameKey columns other row :=
  ⟨h.1.symm, h.1.symm ▸ h.2⟩

end Schema

namespace Database

variable {db : Database} {key : String} {t : Table} {rows rows' : List (List String)}

/-! ## One row changes -/

theorem getElem?_concat_eq_some {α : Type} {as : List α} {a b : α} {i : Nat} :
    (as ++ [a])[i]? = some b ↔ as[i]? = some b ∨ (i = as.length ∧ b = a) := by
  rw [List.getElem?_append]
  split
  · rename_i hlt
    have hne : i ≠ as.length := Nat.ne_of_lt hlt
    simp [hne]
  · rename_i hge
    have hnone : as[i]? = none := List.getElem?_eq_none (Nat.not_lt.1 hge)
    rw [hnone, List.getElem?_singleton]
    by_cases hi : i = as.length
    · simp [hi, eq_comm]
    · have hpos : i - as.length ≠ 0 := by omega
      simp [hi, hpos]

theorem keysApart_insert {s : Schema} {row : List String} (h : s.KeysApart rows) (hfree : s.KeysFree rows none row) :
    s.KeysApart (rows ++ [row]) := by
  intro rule hrule i j a b ha hb hsame
  -- two old rows, an old one and the new one, or twice the new one
  rw [getElem?_concat_eq_some] at ha hb
  rcases ha with ha | ⟨rfl, rfl⟩
  · rcases hb with hb | ⟨rfl, rfl⟩
    · exact h rule hrule i j a b ha hb hsame
    · cases hfree rule hrule i a ha hsame.symm
  · rcases hb with hb | ⟨rfl, -⟩
    · cases hfree rule hrule j b hb hsame
    · rfl

theorem getElem?_set_eq_some {α : Type} {as : List α} {a b : α} {i k : Nat} (h : (as.set k a)[i]? = some b) :
    (i = k ∧ b = a) ∨ (i ≠ k ∧ as[i]? = some b) := by
  rw [List.getElem?_set] at h
  split at h
  · rename_i heq
    split at h
    · cases h
      exact .inl ⟨heq.symm, rfl⟩
    · cases h
  · rename_i hne
    exact .inr ⟨Ne.symm hne, h⟩

theorem keysApart_update {s : Schema} {row : List String} {k : Nat} (h : s.KeysApart rows)
    (hfree : s.KeysFree rows (some k) row) : s.KeysApart (rows.set k row) := by
  intro rule hrule i j a b ha hb hsame
  rcases getElem?_set_eq_some ha with ⟨rfl, rfl⟩ | ⟨-, haold⟩
  · rcases getElem?_set_eq_some hb with ⟨rfl, -⟩ | ⟨-, hbold⟩
    · rfl
    · exact (Option.some.inj (hfree rule hrule j b hbold hsame)).symm
  · rcases getElem?_set_eq_some hb with ⟨rfl, rfl⟩ | ⟨-, hbold⟩
    · exact Option.some.inj (hfree rule hrule i a haold hsame.symm)
    · exact h rule hrule i j a b haold hbold hsame

theorem keysApart_delete {s : Schema} (k : Nat) (h : s.KeysApart rows) : s.KeysApart (rows.eraseIdx k) :=
  fun rule hrule => Schema.Apart.eraseIdx (h rule hrule) k

theorem RowChange.keysApart (hchange : RowChange db key t rows rows') (h : t.schema.KeysApart rows) :
    t.schema.KeysApart rows' := by
  cases hchange with
  | inserted _ hkeys _ => exact keysApart_insert h hkeys
  | updated _ _ hkeys _ _ => exact keysApart_update h hkeys
  | deleted _ _ => exact keysApart_delete _ h

theorem RowChange.keysPresent (hchange : RowChange db key t rows rows') (hs : t.schema.WellFormed)
    (h : t.schema.KeysPresent rows) : t.schema.KeysPresent rows' :=
  hchange.forall_mem h fun _ _ _ => Schema.storedRow_key hs

end Database

/-! ## Any change -/

namespace Table

/-- The table holds rows whose keys are apart and present. -/
def HoldsKeys (t : Table) : Prop :=
  ∃ rows, t.Holds rows ∧ t.schema.KeysApart rows ∧ t.schema.KeysPresent rows

end Table

namespace Database

theorem Transition.holdsKeys {db db' : Database} {now : Timestamp} {New : Schema → Prop} (hsound : db.Sound)
    (h : ∀ entry ∈ db.tables, entry.2.HoldsKeys) (ht : Transition db now New db') :
    ∀ entry ∈ db'.tables, entry.2.HoldsKeys := by
  refine ht.forall_tables hsound h ?stamped ?added ?rewritten ?indexed
  case stamped =>
    rintro t cells - ⟨rows, hrows, hapart, hpresent⟩
    exact ⟨rows, ⟨hrows.content, hrows.wide⟩, hapart, hpresent⟩
  case added =>
    intro s _ _
    have hnone : ∀ row ∈ ([] : List (List String)), row.length = s.columns.length := fun _ hrow => by cases hrow
    exact ⟨[], storedTable_holds hnone now, fun _ _ _ _ _ _ hrow => by simp at hrow, fun _ hrow => by cases hrow⟩
  case rewritten =>
    rintro key t rows rows' hts hrows hchange ⟨rows₀, hrows₀, hapart, hpresent⟩
    obtain rfl := hrows.unique hrows₀
    exact ⟨rows', storedTable_holds (hchange.wide hrows.wide) now, hchange.keysApart hapart,
      hchange.keysPresent hts.wellFormed hpresent⟩
  case indexed =>
    rintro t s index columns unique rows hts hrows hindex ⟨rows₀, hrows₀, hapart, hpresent⟩
    obtain rfl := hrows.unique hrows₀
    obtain ⟨-, -, key, -, rfl⟩ := Schema.addIndex_eq_ok.1 hindex
    refine ⟨rows, storedTable_holds ?_ now, hapart, hpresent⟩
    exact hrows.wide

end Database

/-! ## What the rows show -/

theorem Schema.hasColumn_of_keyRules {s : Schema} (hs : s.WellFormed) {rule : Bool × List String}
    (hrule : rule ∈ Database.keyRules s) : ∀ name ∈ rule.2, s.hasColumn name = true := by
  intro name hname
  rw [Database.keyRules, List.mem_append] at hrule
  rcases hrule with hrule | hrule
  · split at hrule
    · cases hrule
    · rw [List.mem_singleton.1 hrule] at hname
      obtain ⟨c, hc, rfl, -⟩ := hs.key.marked name hname
      exact hasColumn_of_mem (List.mem_map_of_mem hc)
  · obtain ⟨⟨rulename, columns⟩, hmem, rfl⟩ := List.mem_map.1 hrule
    rw [uniqueKeys, List.mem_append] at hmem
    rcases hmem with hmem | hmem
    · exact (hs.uniques _ hmem).hasColumn name hname
    · obtain ⟨c, hc, heq⟩ := List.mem_map.1 hmem
      cases heq
      rw [List.mem_singleton.1 hname]
      exact hasColumn_of_mem (List.mem_map_of_mem (List.mem_of_mem_filter hc))

namespace Table

/-- For the primary key and every rule of uniqueness, each row has a cell in every column of the key, and rows at
different positions have equal keys only if a part of the key is NULL. No cell of the primary key is NULL. -/
structure KeysApart (t : Table) : Prop where
  whole : ∀ rule ∈ Database.keyRules t.schema, ∀ row ∈ t.rows, (t.schema.cells rule.2 row).length = rule.2.length
  apart : ∀ rule ∈ Database.keyRules t.schema, ∀ (i j : Nat) (row other : List Cell), i ≠ j →
    t.rows[i]? = some row → t.rows[j]? = some other → t.schema.cells rule.2 row = t.schema.cells rule.2 other →
    ∃ cell ∈ t.schema.cells rule.2 row, cell.isNull = true
  present : ∀ row ∈ t.rows, ∀ cell ∈ t.schema.cells t.schema.primaryKey row, cell.isNull = false

theorem HoldsKeys.keysApart {t : Table} (h : t.HoldsKeys) (hs : t.schema.WellFormed) : t.KeysApart := by
  obtain ⟨rows, hrows, hapart, hpresent⟩ := h
  refine ⟨?_, ?_, ?_⟩
  · intro rule hrule row hrow
    rw [hrows.rows_eq] at hrow
    obtain ⟨texts, htexts, rfl⟩ := List.mem_map.1 hrow
    refine Schema.length_cells (Schema.hasColumn_of_keyRules hs hrule) ?_
    rw [Cell.ofTexts, List.length_map]
    exact hrows.wide texts htexts
  · intro rule hrule i j row other hne hrow hother hsame
    rw [hrows.rows_eq] at hrow hother
    exact Schema.Apart.exists_isNull (hapart rule hrule) hne hrow hother hsame
  · intro row hrow
    rw [hrows.rows_eq] at hrow
    obtain ⟨texts, htexts, rfl⟩ := List.mem_map.1 hrow
    rw [Schema.cells_ofTexts]
    exact Cell.forall_isNull_eq_false_iff.2 (hpresent texts htexts)

end Table

namespace Database

/-- The keys of every table are apart. -/
def KeysApart (db : Database) : Prop :=
  ∀ entry ∈ db.tables, entry.2.KeysApart

/-- Whatever is asked of a database that starts without tables, and whatever of it fails, keys stay apart. -/
theorem run_keysApart (directory : Option Directory) (steps : List Step) :
    ((empty directory).run steps).KeysApart := by
  have hkeys := run_induction (P := fun tables => ∀ entry ∈ tables, entry.2.HoldsKeys)
    (fun _ _ _ _ hsound h ht => ht.holdsKeys hsound h) (fun _ h => by cases h) directory steps
  have hsound := run_sound directory steps
  exact fun entry hentry => (hkeys entry hentry).keysApart (hsound.tables entry hentry).wellFormed

end Database

end Relational
