import Mathlib.Data.List.DropRight
import Relational.Proofs.Schema.Standing

/-!
# Columns of a row by their names

The values of a row are kept under the names of the columns, alone and after the name of the table and a point. No
name has a point in it, so what follows the last point of a key is the name of one column: however a condition spells
a column, it gets the value of its cell.
-/

namespace Relational

open Text

/-! ## Names have no point -/

/-- The characters of a text after its last point. -/
def afterPoint (text : String) : List Char :=
  text.toList.rtakeWhile (· != '.')

namespace Name

theorem mem_of_isTail {cs : List Char} (h : isTail cs = true) : ∀ c ∈ cs, isRest c = true ∨ c = '\n' := by
  fun_induction isTail cs with
  | case1 => simp
  | case2 => simp
  | case3 c cs _ ih =>
    rw [Bool.and_eq_true] at h
    rw [List.forall_mem_cons]
    exact ⟨.inl h.1, ih h.2⟩

theorem isRest_of_isFirst {c : Char} (h : isFirst c = true) : isRest c = true := by
  simp only [isFirst, isRest, Char.isAlphanum, Bool.or_eq_true] at h ⊢
  exact h.imp_left .inl

/-- The characters of a name are of ASCII, and none is a point. -/
theorem plain_of_isRest {c : Char} (h : isRest c = true) : c.toNat < 0x80 ∧ c ≠ '.' := by
  constructor
  · unfold isRest Char.isAlphanum Char.isAlpha Char.isUpper Char.isLower Char.isDigit at h
    simp only [Bool.or_eq_true, Bool.and_eq_true, decide_eq_true_eq, beq_iff_eq, UInt32.le_iff_toNat_le,
      ge_iff_le] at h
    rcases h with ((h | h) | h) | rfl
    · exact Nat.lt_of_le_of_lt h.2 (by decide)
    · exact Nat.lt_of_le_of_lt h.2 (by decide)
    · exact Nat.lt_of_le_of_lt h.2 (by decide)
    · decide
  · rintro rfl
    exact absurd h (by decide)

theorem plain_of_checkName {name : String} (h : checkName name = .ok ()) :
    ∀ c ∈ name.toList, c.toNat < 0x80 ∧ c ≠ '.' := by
  have hformed : isFormed name.toList = true := by
    unfold checkName fault? at h
    split at h
    · simp at h
    · rename_i hnone
      split_ifs at hnone with _ _ _ hformed
      exact hformed
  cases hname : name.toList with
  | nil => simp
  | cons first cs =>
    rw [hname, isFormed, Bool.and_eq_true] at hformed
    rw [List.forall_mem_cons]
    refine ⟨plain_of_isRest (isRest_of_isFirst hformed.1), fun c hc => ?_⟩
    rcases mem_of_isTail hformed.2 c hc with hrest | rfl
    · exact plain_of_isRest hrest
    · decide

end Name

theorem toLower_ne_point {c : Char} (h : c ≠ '.') : c.toLower ≠ '.' := by
  unfold Char.toLower
  split
  · rename_i hupper
    intro hpoint
    have hval : c.val + 32 = 46 := congrArg Char.val hpoint
    have hcode : c.val = 46 - 32 := by rw [← hval]; simp
    rw [hcode] at hupper
    exact absurd hupper (by decide)
  · exact h

theorem ne_point_of_mem_lowerFrom {cs before : List Char} (h : ∀ c ∈ cs, c.toNat < 0x80 ∧ c ≠ '.') :
    ∀ c ∈ lowerFrom before cs, c ≠ '.' := by
  induction cs generalizing before with
  | nil => simp [lowerFrom]
  | cons c cs ih =>
    rw [List.forall_mem_cons] at h
    obtain ⟨⟨hascii, hpoint⟩, h⟩ := h
    have hsigma : c ≠ 'Σ' := by
      rintro rfl
      exact absurd hascii (by decide)
    simp only [lowerFrom, if_neg hsigma, lowerChar, if_pos hascii]
    rw [List.forall_mem_append, List.forall_mem_singleton]
    exact ⟨toLower_ne_point hpoint, ih h⟩

theorem ne_point_of_mem_lower {name : String} (h : checkName name = .ok ()) : ∀ c ∈ (lower name).toList, c ≠ '.' := by
  rw [lower, String.toList_ofList]
  exact ne_point_of_mem_lowerFrom (Name.plain_of_checkName h)

theorem afterPoint_lower {name : String} (h : checkName name = .ok ()) :
    afterPoint (lower name) = (lower name).toList := by
  rw [afterPoint, List.rtakeWhile_eq_self_iff]
  simpa using ne_point_of_mem_lower h

theorem afterPoint_qualified {name : String} (h : checkName name = .ok ()) (qualifier : String) :
    afterPoint (qualifier ++ "." ++ lower name) = (lower name).toList := by
  have hname : ∀ c ∈ (lower name).toList.reverse, (c != '.') = true := by
    simpa using ne_point_of_mem_lower h
  simp only [afterPoint, List.rtakeWhile, String.toList_append, List.reverse_append]
  rw [List.takeWhile_append_of_pos hname]
  simp

/-! ## Values of a row -/

/-- A name is found if it is kept alone, and nothing else is kept for it after the name of a table. -/
theorem Scope.lookup_eq_some {α : Type} {values : List (String × α)} {name : String} {v : α}
    (hplain : values.lookup (lower name) = some v)
    (hqualified : ∀ qualifier w, values.lookup (qualifier ++ "." ++ lower name) = some w → w = v)
    (table : Option String) : Scope.lookup values table name = some v := by
  unfold Scope.lookup
  rw [hplain]
  cases table with
  | none => rfl
  | some table =>
    dsimp only
    split
    · rfl
    · cases hfound : values.lookup (lower table ++ "." ++ lower name) with
      | none => rfl
      | some w => rw [hqualified _ w hfound, Option.some_or]

namespace Schema

variable {s : Schema} {row : List String}

/-- A value is kept under keys that end in the name of its column. -/
theorem mem_rowValues {entry : String × Value} (hs : s.WellFormed) (h : entry ∈ s.rowValues row) :
    ∃ i : Nat, ∃ column : Column, ∃ text, s.columns[i]? = some column ∧ row[i]? = some text ∧
      entry.2 = Value.ofText column.type text ∧ afterPoint entry.1 = (lower column.name).toList := by
  obtain ⟨⟨column, text⟩, hcell, hentry⟩ := List.mem_flatMap.1 h
  obtain ⟨i, hi⟩ := List.getElem?_of_mem hcell
  rw [List.getElem?_zip_eq_some] at hi
  have hname := (Column.declare_eq_ok.1 (hs.columns column (List.of_mem_zip hcell).1)).1
  refine ⟨i, column, text, hi.1, hi.2, ?_⟩
  simp only [List.mem_cons, List.not_mem_nil, or_false] at hentry
  rcases hentry with rfl | rfl
  · exact ⟨rfl, afterPoint_lower hname⟩
  · exact ⟨rfl, afterPoint_qualified hname _⟩

/-- What is found under a key that ends in the name of a column is the value of its cell. -/
theorem value_of_lookup (hs : s.WellFormed) {i : Nat} {column : Column} {text key : String} {v : Value}
    (hcolumn : s.columns[i]? = some column) (htext : row[i]? = some text)
    (hkey : afterPoint key = (lower column.name).toList) (hv : (s.rowValues row).lookup key = some v) :
    v = Value.ofText column.type text := by
  obtain ⟨j, other, text', hother, htext', hvalue, hname⟩ := mem_rowValues hs (mem_of_lookup_eq_some hv)
  have hlower : lower other.name = lower column.name := String.toList_injective (hname.symm.trans hkey)
  obtain rfl : other = column :=
    List.inj_on_of_nodup_map hs.columnsDiffer (List.mem_of_getElem? hother) (List.mem_of_getElem? hcolumn) hlower
  obtain ⟨hi, hcolumn⟩ := List.getElem?_eq_some_iff.1 hcolumn
  obtain ⟨hj, hother⟩ := List.getElem?_eq_some_iff.1 hother
  have hplace : j = i := by
    have hposition := hs.columnsDiffer.position?_eq hj
    rw [hother, ← hcolumn, hs.columnsDiffer.position?_eq hi] at hposition
    exact (Option.some.inj hposition).symm
  rw [hplace, htext, Option.some.injEq] at htext'
  rw [htext']
  exact hvalue

/-- A column has the value of its cell in the row, whatever stands before its name. -/
theorem rowScope_column (hs : s.WellFormed) (hwide : row.length = s.columns.length) {i : Nat} {name text : String}
    {column : Column} (hcolumn : s.columns[i]? = some column) (htext : row[i]? = some text)
    (hname : lower name = lower column.name) (now : Timestamp) (table : Option String) :
    (s.rowScope now row).column table name = .ok (Value.ofText column.type text) := by
  have hmem := List.mem_of_getElem? hcolumn
  have hnamed := (Column.declare_eq_ok.1 (hs.columns column hmem)).1
  have hplain : (s.rowValues row).lookup (lower column.name) = some (Value.ofText column.type text) := by
    obtain ⟨v, hv⟩ := Option.isSome_iff_exists.1 (isSome_lookup_rowValues hwide (List.mem_map_of_mem hmem))
    rw [hv, value_of_lookup hs hcolumn htext (afterPoint_lower hnamed) hv]
  have hfound : (s.rowScope now row).column? table name = some (Value.ofText column.type text) := by
    show Scope.lookup (s.rowValues row) table name = _
    apply Scope.lookup_eq_some
    · rw [hname, hplain]
    · intro qualifier v hv
      rw [hname] at hv
      exact value_of_lookup hs hcolumn htext (afterPoint_qualified hnamed qualifier) hv
  unfold Scope.column
  rw [hfound]

end Schema

end Relational
