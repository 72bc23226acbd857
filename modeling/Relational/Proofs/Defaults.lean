import Relational.Proofs.Clock
import Relational.Proofs.DeclaredBounds
import Relational.Proofs.Numbering

/-!
# Defaults of columns of texts

A default is kept as a text, in which a literal in quotes and a function can no longer be told apart. A new row has the
value of the clock for every text that is the name of a clock function, in any case and with or without a pair of
parentheses at its end, and every other text as it stands. So a literal is stored as it was written exactly if it is no
such name, and the value of a clock function exactly if nothing stands in the parentheses of the call.
-/

namespace Relational

open Text Decimal
open Database (Retains Step keyOf storedTable storedRow)
open Relation (ReflTransGen)

/-! ## Upper case -/

namespace Text

theorem upperChar_ne_nil (c : Char) : upperChar c ≠ [] := by
  unfold upperChar mapCase
  split
  · exact List.cons_ne_nil _ _
  · split
    · rename_i image hfound
      have hfull : ∀ entry ∈ Unicode.upperFull, entry.2 ≠ [] := by decide +kernel
      simpa using hfull _ (List.mem_of_find?_eq_some hfound)
    · split <;> exact List.cons_ne_nil _ _

theorem upperChar_of_isBlank {c : Char} (h : isBlank c = true) : upperChar c = [c] := by
  have hblanks : ∀ n ∈ List.range' 9 5 ++ List.range' 28 5 ++ [0x85, 0xa0, 0x1680] ++ List.range' 0x2000 11
      ++ [0x2028, 0x2029, 0x202f, 0x205f, 0x3000], upperChar (Char.ofNat n) = [Char.ofNat n] := by
    decide +kernel
  rw [← Char.ofNat_toNat c]
  refine hblanks _ ?_
  simp only [isBlank, Bool.or_eq_true, Bool.and_eq_true, decide_eq_true_eq, beq_iff_eq] at h
  simp only [List.mem_append, List.mem_range'_1, List.mem_cons, List.not_mem_nil, or_false]
  omega

theorem toList_upper (s : String) : (upper s).toList = s.toList.flatMap upperChar := by
  rw [upper, String.toList_ofList]

theorem upper_append (s t : String) : upper (s ++ t) = upper s ++ upper t := by
  rw [← String.toList_inj, String.toList_append]
  simp only [toList_upper, String.toList_append, List.flatMap_append]

end Text

/-- The word NULL in any case means NULL. -/
theorem isNullText_of_upper {text : String} (h : upper text = nullText) : isNullText text = true := by
  have hblank : ∀ c ∈ text.toList, isBlank c = false := by
    intro c hc
    rw [← Bool.not_eq_true]
    intro hblank
    have hmem : c ∈ nullText.toList := by
      rw [← h]
      exact mem_upper hc (by simp [upperChar_of_isBlank hblank])
    have hletters : nullText.toList.all (fun c => !isBlank c) = true := by decide
    simp only [List.all_eq_true, Bool.not_eq_true'] at hletters
    rw [hletters c hmem] at hblank
    cases hblank
  rw [isNullText, isNullWord, strip_eq_self hblank, h]
  simp

/-! ## Names of clock functions -/

/-- The name under which a default is looked up as a clock function: in upper case, without a pair of parentheses at its
end. -/
def clockName (text : String) : String :=
  let name := (upper text).toList
  String.ofList (if ['(', ')'].isSuffixOf name then name.take (name.length - 2) else name)

/-- A text that as a default is taken for a clock function. -/
def namesClock (text : String) : Bool :=
  isClock (clockName text)

theorem Column.defaultText_eq {column : Column} {text : String} (h : column.default = some text) (now : Timestamp) :
    column.defaultText now = (clockValue? now (clockName text)).elim text Value.toText := by
  rw [defaultText, h]
  dsimp only [clockName]
  split
  all_goals
    rename_i hclock
    rw [hclock]
    rfl

theorem isClock_cases {function : String} (h : isClock function = true) :
    function = "NOW" ∨ function = "CURRENT_TIMESTAMP" ∨ function = "CURRENT_DATE" ∨ function = "CURRENT_TIME" := by
  unfold isClock clockValue? at h
  split_ifs at h with hmoment hdate htime
  · simp only [Bool.or_eq_true, beq_iff_eq] at hmoment
    rcases hmoment with rfl | rfl <;> simp
  · simp [beq_iff_eq.1 hdate]
  · simp [beq_iff_eq.1 htime]
  · cases h

theorem isClock_of_clockValue? {now : Timestamp} {function : String} {v : Value}
    (h : clockValue? now function = some v) : isClock function = true := by
  cases hclock : isClock function with
  | true => rfl
  | false =>
    rw [clockValue?_eq_none hclock] at h
    cases h

/-- The name of a clock function begins with a letter, and has no parenthesis in it. -/
theorem isClock_shape {function : String} (h : isClock function = true) :
    upper function = function ∧ (∃ c ∈ function.toList.head?, isDecimalDigit c = false) ∧ '(' ∉ function.toList := by
  rcases isClock_cases h with rfl | rfl | rfl | rfl
  all_goals exact ⟨by decide +kernel, ⟨_, rfl, by decide⟩, by decide⟩

theorem clockValue?_of_isClock {function : String} (h : isClock function = true) (now : Timestamp) :
    ∃ v, clockValue? now function = some v := by
  rcases isClock_cases h with rfl | rfl | rfl | rfl <;> exact ⟨_, rfl⟩

/-! ## Values of the clock as texts -/

/-- The text begins with a decimal digit. -/
def BeginsWithDigit (text : String) : Prop :=
  ∃ c ∈ text.toList.head?, isDecimalDigit c = true

namespace BeginsWithDigit

theorem append {s : String} (h : BeginsWithDigit s) (t : String) : BeginsWithDigit (s ++ t) := by
  obtain ⟨c, hc, hdigit⟩ := h
  refine ⟨c, ?_, hdigit⟩
  rw [String.toList_append, List.head?_append, Option.mem_def.1 hc]
  rfl

theorem of_natText (n : Nat) : BeginsWithDigit (natText n) := by
  obtain ⟨c, cs, hdigits⟩ := List.exists_cons_of_ne_nil (natDigits_ne_nil n)
  refine ⟨c, ?_, isDecimalDigit_of_mem_natDigits (hdigits ▸ List.mem_cons_self)⟩
  rw [natText, String.toList_ofList, hdigits]
  rfl

theorem of_paddedText (n : Nat) : BeginsWithDigit (paddedText 2 n) := by
  unfold paddedText
  split
  · refine ⟨digitChar (n / 10), by rw [String.toList_ofList]; rfl, ?_⟩
    rw [isDecimalDigit, Calendar.digitValue?_digitChar]
    rfl
  · exact of_natText n

theorem of_date (d : Date) : BeginsWithDigit d.text :=
  ((((of_natText _).append _).append _).append _).append _

theorem of_time (t : TimeOfDay) : BeginsWithDigit t.text :=
  ((((of_paddedText _).append _).append _).append _).append _

/-- The value of a clock function is a day, a time of day or both. -/
theorem of_clock {now : Timestamp} {function : String} {v : Value} (h : clockValue? now function = some v) :
    BeginsWithDigit v.toText := by
  unfold clockValue? at h
  split_ifs at h
  · cases h
    exact ((of_date _).append _).append _
  · cases h
    exact of_date _
  · cases h
    exact of_time _

variable {text : String}

theorem present (h : BeginsWithDigit text) : isNullText text = false := by
  obtain ⟨c, hc, hdigit⟩ := h
  exact isNullText_eq_false_of_mem (List.mem_of_mem_head? hc) (foreignToNull_of_isDecimalDigit hdigit)

/-- It is no name of a clock function. -/
theorem not_clock (h : BeginsWithDigit text) : namesClock text = false := by
  obtain ⟨c, hc, hdigit⟩ := h
  rw [← Bool.not_eq_true]
  intro hclock
  obtain ⟨-, ⟨d, hd, hletter⟩, -⟩ := isClock_shape hclock
  obtain ⟨cs, hcs⟩ := List.head?_eq_some_iff.1 hc
  have hhead : (upper text).toList.head? = some c := by
    rw [toList_upper, hcs, List.flatMap_cons, upperChar_of_isDecimalDigit hdigit]
    rfl
  have hsame : d = c := by
    rw [clockName, String.toList_ofList] at hd
    split at hd
    · rw [List.head?_take] at hd
      split at hd
      · cases hd
      · exact Option.some.inj (hd.symm.trans hhead)
    · exact Option.some.inj (hd.symm.trans hhead)
  rw [hsame, hdigit] at hletter
  cases hletter

end BeginsWithDigit

/-! ## Calls of clock functions -/

section Calls

variable {name args : String}

theorem toList_upper_call (h : isClock name = true) (args : String) :
    (upper (name ++ "(" ++ args ++ ")")).toList = name.toList ++ '(' :: ((upper args).toList ++ [')']) := by
  have hleft : (upper "(").toList = ['('] := by decide
  have hright : (upper ")").toList = [')'] := by decide
  rw [upper_append, upper_append, upper_append, (isClock_shape h).1]
  simp only [String.toList_append, hleft, hright, List.append_assoc, List.cons_append, List.nil_append]

theorem clockName_of_isClock (h : isClock name = true) : clockName name = name := by
  obtain ⟨hupper, -, hparen⟩ := isClock_shape h
  rw [clockName, hupper, if_neg, String.ofList_toList]
  intro hsuffix
  exact hparen ((List.isSuffixOf_iff_suffix.1 hsuffix).subset List.mem_cons_self)

theorem not_beginsWithDigit (h : isClock name = true) (more : String) : ¬ BeginsWithDigit (name ++ more) := by
  rintro ⟨c, hc, hdigit⟩
  obtain ⟨-, ⟨d, hd, hletter⟩, -⟩ := isClock_shape h
  rw [String.toList_append, List.head?_append, Option.mem_def.1 hd] at hc
  cases hc
  rw [hdigit] at hletter
  cases hletter

/-- A call without arguments is taken for the name. -/
theorem clockName_call (h : isClock name = true) : clockName (name ++ "(" ++ "" ++ ")") = name := by
  have hempty : (upper "").toList = [] := by decide
  rw [clockName, toList_upper_call h, hempty, List.nil_append]
  have hsuffix : ['(', ')'].isSuffixOf (name.toList ++ ['(', ')']) = true :=
    List.isSuffixOf_iff_suffix.2 (List.suffix_append _ _)
  rw [if_pos hsuffix]
  simp

/-- In a call with arguments a parenthesis is left. -/
theorem not_clock_call (h : isClock name = true) (hargs : args ≠ "") :
    namesClock (name ++ "(" ++ args ++ ")") = false := by
  rw [← Bool.not_eq_true]
  intro hclock
  obtain ⟨-, -, hparen⟩ := isClock_shape hclock
  refine hparen ?_
  obtain ⟨c, cs, hcs⟩ : ∃ c cs, (upper args).toList = c :: cs := by
    refine List.exists_cons_of_ne_nil ?_
    rw [toList_upper, ne_eq, List.flatMap_eq_nil_iff]
    intro hnil
    obtain ⟨c, cs, hcs⟩ := List.exists_cons_of_ne_nil (mt String.toList_eq_nil_iff.1 hargs)
    exact upperChar_ne_nil c (hnil c (hcs ▸ List.mem_cons_self))
  rw [clockName, toList_upper_call h, hcs, String.toList_ofList]
  split
  · have hprefix : name.toList ++ ['('] <+: (name.toList ++ '(' :: (c :: cs ++ [')'])).take
        ((name.toList ++ '(' :: (c :: cs ++ [')'])).length - 2) := by
      rw [List.prefix_take_iff]
      refine ⟨⟨c :: cs ++ [')'], by simp⟩, ?_⟩
      simp only [List.length_append, List.length_cons, List.length_nil]
      omega
    exact hprefix.subset (by simp)
  · simp

end Calls

/-! ## What a default means -/

namespace Sql.WrittenDefault

/-- What a new row is to hold: a literal that does not mean NULL as it was written, and the value of a clock function. -/
def meaning? (now : Timestamp) : WrittenDefault → Option String
  | constant text => if isNullText text then none else some text
  | quoted text => if isNullText text then none else some text
  | function name _ => (clockValue? now (upper name)).map Value.toText
  | null => none

/-- The text of the default keeps its meaning: a literal is no name of a clock function, and a function is called
without arguments. -/
def keepsMeaning : WrittenDefault → Bool
  | constant text => !namesClock text
  | quoted text => !namesClock text
  | function _ args => args.getD "" == ""
  | null => true

end Sql.WrittenDefault

namespace Column

variable {column : Column} {now : Timestamp} {text value : String}

theorem defaultText_of_namesClock (h : column.default = some text) (hclock : namesClock text = true)
    (now : Timestamp) : ∃ v, clockValue? now (clockName text) = some v ∧ column.defaultText now = v.toText := by
  obtain ⟨v, hv⟩ := clockValue?_of_isClock hclock now
  refine ⟨v, hv, ?_⟩
  rw [defaultText_eq h, hv, Option.elim_some]

theorem defaultText_of_not_clock (h : column.default = some text) (hclock : namesClock text = false) :
    column.defaultText now = text := by
  rw [defaultText_eq h, clockValue?_eq_none hclock, Option.elim_none]

/-- A literal is stored as it is, unless it is the name of a clock function. -/
theorem defaultText_literal (h : column.default = some text) (hpresent : isNullText text = false) :
    isNullText (column.defaultText now) = false ∧ (column.defaultText now = text ↔ namesClock text = false) := by
  cases hclock : namesClock text with
  | false =>
    rw [defaultText_of_not_clock h hclock]
    exact ⟨hpresent, by simp⟩
  | true =>
    obtain ⟨v, hv, hdefault⟩ := defaultText_of_namesClock h hclock now
    have hdigit := BeginsWithDigit.of_clock hv
    rw [hdefault]
    refine ⟨hdigit.present, iff_of_false (fun heq => ?_) (by simp)⟩
    rw [heq] at hdigit
    rw [hdigit.not_clock] at hclock
    cases hclock

/-- A function of the clock is called, unless it is given something. -/
theorem defaultText_clock {name : String} {args : Option String} {v : Value}
    (h : column.default = (Sql.WrittenDefault.function name args).text?) (hv : clockValue? now (upper name) = some v) :
    isNullText (column.defaultText now) = false ∧ (column.defaultText now = v.toText ↔ args.getD "" = "") := by
  have hname := isClock_of_clockValue? hv
  have hcalled : ∀ {text}, column.default = some text → clockName text = upper name →
      column.defaultText now = v.toText := by
    intro text htext hclock
    rw [defaultText_eq htext, hclock, hv, Option.elim_some]
  cases args with
  | none =>
    rw [hcalled h (clockName_of_isClock hname)]
    exact ⟨(BeginsWithDigit.of_clock hv).present, by simp⟩
  | some args =>
    by_cases hargs : args = ""
    · subst hargs
      rw [hcalled h (clockName_call hname)]
      exact ⟨(BeginsWithDigit.of_clock hv).present, by simp⟩
    · rw [defaultText_of_not_clock h (not_clock_call hname hargs)]
      constructor
      case left =>
        have hparen : '(' ∈ (upper name ++ "(" ++ args ++ ")").toList := by simp
        exact isNullText_eq_false_of_mem hparen (by decide +kernel)
      case right =>
        refine iff_of_false (fun heq => ?_) (by simpa using hargs)
        have hdigit := BeginsWithDigit.of_clock hv
        rw [← heq, String.append_assoc, String.append_assoc] at hdigit
        exact not_beginsWithDigit hname _ hdigit

/-- The text of a new row means what the default means, unless the text of the default has lost it. -/
theorem defaultText_written {written : Sql.WrittenDefault} (h : column.default = written.text?)
    (hmeaning : written.meaning? now = some value) : isNullText (column.defaultText now) = false ∧
      (column.defaultText now = value ↔ written.keepsMeaning = true) := by
  cases written with
  | null => cases hmeaning
  | constant text | quoted text =>
    rw [Sql.WrittenDefault.meaning?] at hmeaning
    split at hmeaning
    · cases hmeaning
    · rename_i hpresent
      cases hmeaning
      simpa [Sql.WrittenDefault.keepsMeaning] using defaultText_literal h (Bool.eq_false_of_not_eq_true hpresent)
  | function name args =>
    obtain ⟨v, hv, rfl⟩ := Option.map_eq_some_iff.1 hmeaning
    simpa [Sql.WrittenDefault.keepsMeaning] using defaultText_clock h hv

end Column

/-! ## New rows -/

namespace Execution

variable {db db' : Database} {now : Timestamp} {s : Schema} {t : Table} {column : Column} {names : List String}
  {values : List Expr} {row : List String} {i : Nat}

/-- A new row has the default of a column that the tuple does not name. -/
theorem newRow_default (hs : s.ColumnsDiffer) (hcolumn : s.columns[i]? = some column)
    (hleft : ∀ other ∈ names, sameName other column.name = false)
    (hpresent : isNullText (column.defaultText now) = false) (h : newRow db now s names values = .ok row) :
    row[i]? = some (column.defaultText now) := by
  obtain ⟨-, filled, hfilled, hrow⟩ := newRow_eq_ok.1 h
  have hdefault : (s.columns.map (Column.defaultText now))[i]? = some (column.defaultText now) := by
    rw [List.getElem?_map, hcolumn, Option.map_some]
  have hi : i < (s.columns.map (Column.defaultText now)).length := (List.getElem?_eq_some_iff.1 hdefault).1
  have hcell : filled[i]? = some (column.defaultText now) := by
    rcases getElem?_fillCells hs hcolumn hi hfilled with ⟨-, hkept⟩ | ⟨e, -, hgiven, -⟩
    · rw [hkept, hdefault]
    · obtain ⟨cell, hmem, hname, -⟩ := mem_of_givenFor hgiven
      rw [hleft cell.1 (List.of_mem_zip hmem).1] at hname
      cases hname
  have hzip : (s.columns.zip filled)[i]? = some (column, column.defaultText now) :=
    List.getElem?_zip_eq_some.2 ⟨hcolumn, hcell⟩
  obtain ⟨text, htext, hnumber⟩ := exists_getElem?_of_forall₂ hrow hzip
  have hword : upper (column.defaultText now) ≠ nullText := by
    intro hword
    rw [isNullText_of_upper hword] at hpresent
    cases hpresent
  rw [numberCell, beq_eq_false_iff_ne.2 hword, Bool.and_false, if_neg Bool.false_ne_true] at hnumber
  obtain rfl := Except.ok.inj hnumber
  exact htext

/-- A column of texts stores a text as it is. -/
theorem storedRow_text {stored : List String} {text : String} (hkind : column.type.kind = .text)
    (hcolumn : s.columns[i]? = some column) (htext : row[i]? = some text) (hpresent : isNullText text = false)
    (h : storedRow s now row = .ok stored) : stored[i]? = some text := by
  obtain ⟨cell, hcell, hencode⟩ := Schema.getElem?_encodeRow (Schema.storedRow_ok h).2 hcolumn htext
  rcases encode_eq_ok.1 hencode with ⟨hnull, -⟩ | ⟨-, -, rfl⟩
  · rw [hpresent] at hnull
    cases hnull
  · rw [hcell, encodePresent, hkind]

/-- A row with a text in a column of texts is appended with it, or the rows stay as they are. -/
theorem insertRow_text {name text : String} (h : db.Reachable) (ht : db.table? name = some t)
    (hcolumn : t.schema.columns[i]? = some column) (hkind : column.type.kind = .text) (htext : row[i]? = some text)
    (hpresent : isNullText text = false) (now : Timestamp) :
    ((db.answer (.insertRow now name (.cells row))).1 = .ok () →
      ∃ t' cells, (db.answer (.insertRow now name (.cells row))).2.table? name = some t' ∧
        t'.schema.columns = t.schema.columns ∧
        (db.answer (.insertRow now name (.cells row))).2.rows name = db.rows name ++ [cells] ∧
        cells[i]? = some (.text text)) ∧
    ∀ failure, (db.answer (.insertRow now name (.cells row))).1 = .error failure →
      (db.answer (.insertRow now name (.cells row))).2.rows name = db.rows name := by
  have hstep : (Step.insertRow now name (.cells row)).OnRow := trivial
  refine ⟨fun hok => ?_, fun failure hfailed => ?_⟩
  · obtain ⟨t₁, rows, stored, ht₁, hrows, hstored, htables⟩ := insertRow_stores h hok
    obtain rfl : t = t₁ := Option.some.inj (ht.symm.trans ht₁)
    have hlookup := (htables name).trans (if_pos rfl)
    have hwide : ∀ row ∈ rows ++ [stored], row.length = t.schema.columns.length := by
      rw [List.forall_mem_append, List.forall_mem_singleton]
      exact ⟨hrows.wide, Schema.length_storedRow hstored⟩
    refine ⟨_, Cell.ofTexts stored, hlookup, rfl, ?_, ?_⟩
    · rw [Database.rows_of_table? hlookup, (Database.storedTable_holds hwide now).rows_eq, Database.rows_of_table? ht,
        hrows.rows_eq, List.map_append]
      rfl
    · exact Cell.getElem?_ofTexts.2 (storedRow_text hkind hcolumn htext hpresent hstored)
  · exact Database.rows_of_tables_eq (hstep.tables_of_error h.consistent hfailed) name

/-- How tuples of an INSERT end that all have a text at a place: rows with it are appended, one for each tuple if the
INSERT succeeds. -/
structure Appended (db db' : Database) (name : String) (i : Nat) (text : String) (tuples : Nat)
    (outcome : Except Failure Result) (new : List (List Cell)) : Prop where
  rows : db'.rows name = db.rows name ++ new
  cells : ∀ row ∈ new, row[i]? = some (.text text)
  all : ∀ answer, outcome = .ok answer → answer.success = true → new.length = tuples

section Appended

variable {name text : String} {tuples : Nat} {outcome : Except Failure Result}

/-- A failure, which may be told as a result, appends nothing. -/
theorem Appended.of_failed (hrows : db'.rows name = db.rows name)
    (hfailed : ∀ answer, outcome = .ok answer → answer.success = false) :
    Appended db db' name i text tuples outcome [] := by
  refine ⟨by rw [hrows, List.append_nil], by simp, fun answer hanswer hsuccess => ?_⟩
  rw [hfailed answer hanswer] at hsuccess
  cases hsuccess

/-- One row before those that are appended after it. -/
theorem Appended.cons {db₁ : Database} {cells : List Cell} {new : List (List Cell)}
    (hrows : db₁.rows name = db.rows name ++ [cells]) (hcell : cells[i]? = some (.text text))
    (h : Appended db₁ db' name i text tuples outcome new) :
    Appended db db' name i text (tuples + 1) outcome (cells :: new) := by
  refine ⟨?_, ?_, fun answer hanswer hsuccess => ?_⟩
  · rw [h.rows, hrows, List.append_assoc, List.singleton_append]
  · rw [List.forall_mem_cons]
    exact ⟨hcell, h.cells⟩
  · rw [List.length_cons, h.all answer hanswer hsuccess]

end Appended

/-- Every row that tuples append has the default of a column that they do not name. -/
theorem makeSteps_default (h : db.Reachable) (ht : db.table? s.name = some t) (hcolumns : t.schema.columns = s.columns)
    (hs : s.ColumnsDiffer) (hcolumn : s.columns[i]? = some column) (hkind : column.type.kind = .text)
    (hleft : ∀ other ∈ names, sameName other column.name = false)
    (hpresent : isNullText (column.defaultText now) = false) {tuples : List (List Expr)} {count : Nat}
    {outcome : Except Failure Result}
    (hmade : makeSteps count (tuples.map (insertion now s names)) db = (outcome, db')) :
    ∃ new, Appended db db' s.name i (column.defaultText now) tuples.length outcome new := by
  induction tuples generalizing db t count with
  | nil =>
    cases hmade
    exact ⟨[], (List.append_nil _).symm, by simp, by simp⟩
  | cons values tuples ih =>
    rw [List.map_cons, makeSteps, insertion] at hmade
    cases hnew : newRow db now s names values with
    | error failure =>
      rw [hnew] at hmade
      cases hmade
      exact ⟨[], .of_failed rfl (by simp)⟩
    | ok row =>
      have hcell := newRow_default hs hcolumn hleft hpresent hnew
      have hcolumn' : t.schema.columns[i]? = some column := by rw [hcolumns, hcolumn]
      have hstep : (Step.insertRow now s.name (.cells row)).OnRow := trivial
      have hreachable := hstep.reachable h
      obtain ⟨hdone, hfailed⟩ := insertRow_text h ht hcolumn' hkind hcell hpresent now
      rw [hnew] at hmade
      simp only [ok_bind, pure_eq_ok] at hmade
      generalize db.answer (.insertRow now s.name (.cells row)) = answered at hmade hreachable hdone hfailed
      obtain ⟨answer, db₁⟩ := answered
      cases answer with
      | ok =>
        obtain ⟨t₁, cells, ht₁, hsame, hrows, hstored⟩ := hdone rfl
        obtain ⟨new, hmore⟩ := ih hreachable ht₁ (hsame.trans hcolumns) hmade
        exact ⟨_, hmore.cons hrows hstored⟩
      | error failure =>
        have hrows := hfailed failure rfl
        cases failure with
        | rejection cause =>
          cases hmade
          refine ⟨[], .of_failed hrows fun answer hanswer => ?_⟩
          cases hanswer
          rfl
        | refusal | fault =>
          cases hmade
          exact ⟨[], .of_failed hrows (by simp)⟩

end Execution

/-! ## Statements -/

namespace Session

open Execution

variable {session later after : Session} {sql : String} {statement : Sql.CreateTable} {result : Result}
  {column : Sql.WrittenColumn} {type : DataType} {written : Sql.WrittenDefault} {now : Timestamp} {insert : Sql.Insert}
  {names : List String} {value : String} {outcome : Except Failure Result}

/-- When a CREATE TABLE has declared a new table with a column of texts and a default for it, then as long as the table
stands, whatever is asked of the database and happens to its files, an INSERT that does not name the column appends
rows, one for each of its tuples if it succeeds. At every time of the clock they hold what the default means exactly if
its text keeps this meaning: a literal in quotes is held as it was written, unless it is the name of a clock function in
any case, with or without a pair of parentheses at its end, and the value of a clock function is held, unless arguments
stand in its call. -/
theorem createTable_fills_default (hsession : session.database.Reachable) (moment : Moment)
    (hsql : Sql.parse sql = .ok (.createTable statement)) (hnew : session.database.hasTable statement.table = false)
    (hrun : (session.run moment.time sql).1 = .ok result) (hsuccess : result.success = true)
    (hcolumn : column ∈ Sql.writtenColumns sql) (htype : DataType.ofName? column.typeName = some type)
    (hkind : type.kind = .text) (hdefault : column.default = some written)
    (hlater : ReflTransGen (Retains statement.table) (session.run moment.time sql).2.database later.database)
    (htable : keyOf insert.table = keyOf statement.table) (hnames : insert.columns = some names)
    (hleft : ∀ other ∈ names, sameName other column.name = false)
    (hexecute : later.execute now (.insert insert) = (outcome, after))
    (hmeaning : written.meaning? now = some value) :
    ∃ t i new, later.database.table? statement.table = some t ∧ t.schema.position? column.name = some i ∧
      after.database.rows statement.table = t.rows ++ new ∧
      (∀ answer, outcome = .ok answer → answer.success = true → new.length = insert.values.length) ∧
      ∀ row ∈ new, row[i]? = some (.text value) ↔ written.keepsMeaning = true := by
  obtain ⟨hafter, answer, hdone⟩ := run_createTable hsql hrun hsuccess
  obtain ⟨declared, hdeclared, hadded, hstands⟩ := Execution.createTable_stands hnew hdone
  rw [hafter, hadded] at hlater
  have hreachable : (session.database.addTable moment.time declared).2.Reachable :=
    hsession.move (.addTable moment.time (Execution.schema_declared hdeclared)
      (Execution.schema_usual moment.valid hdeclared).regular)
  -- the column is in the table as long as the table stands
  obtain ⟨clause, hclause, hdefined⟩ := Sql.parse_createTable_columns hsql column hcolumn
  obtain ⟨c, hc, hdeclares⟩ := Execution.schema_covers hdeclared clause hclause
  obtain ⟨hreachable', t, ht⟩ := Database.stands_of_retains hreachable hstands hlater
  have hcolumns : t.schema.columns = declared.columns :=
    congrArg Schema.Demands.columns (Database.demands_of_retains hreachable hstands hlater ht)
  obtain ⟨i, hi⟩ := List.mem_iff_getElem?.1 hc
  have hat : t.schema.columns[i]? = some c := by rw [hcolumns, hi]
  have hs : t.schema.ColumnsDiffer :=
    (hreachable'.consistent.fit _ (Database.mem_of_table? ht.1)).wellFormed.columnsDiffer
  have hname : c.name = column.name := hdeclares.name.trans hdefined.name
  have hposition : t.schema.position? column.name = some i := by
    obtain ⟨hlt, rfl⟩ := List.getElem?_eq_some_iff.1 hat
    rw [← hname, hs.position?_eq hlt]
  have htext : c.type.kind = .text := by
    have hsame := hdeclares.type
    rw [hdefined.typeName, htype, Option.some.injEq] at hsame
    rw [← hsame, hkind]
  have hkept : c.default = written.text? := by
    rw [hdeclares.default, hdefined.default, hdefault, Option.bind_some]
  obtain ⟨hpresent, hmeant⟩ := Column.defaultText_written hkept hmeaning
  -- the tuples are inserted one after the other
  have hfound : later.database.table? insert.table = some t := by
    rw [Database.table?, htable]
    exact ht.1
  have hmade := makeSteps_of_execute hfound hexecute
  rw [hnames, Option.getD_some] at hmade
  rw [← hname] at hleft
  obtain ⟨new, hnew⟩ :=
    makeSteps_default hreachable' (table?_name hreachable' ht.1) rfl hs hat htext hleft hpresent hmade
  refine ⟨t, i, new, ht.1, hposition, ?_, hnew.all, fun row hrow => ?_⟩
  · have hrows := hnew.rows
    rwa [ht.2, Database.rows_of_table? ht.1] at hrows
  · rw [hnew.cells row hrow, Option.some.injEq, Cell.text.injEq]
    exact hmeant

/-! ## Notes -/

/-- Notes with a mark that is written out, and the time at which they are made. -/
def noteText : String :=
  "CREATE TABLE note (id INT, mark VARCHAR DEFAULT 'open', made VARCHAR DEFAULT Now())"

/-- The session after a text was run at the leap day. -/
def afterText (sql : String) : Session :=
  ((ofDatabase (.empty none)).run leapDay.time sql).2

/-- A note of which only the number is given. -/
def bareNote : Sql.Insert :=
  ⟨"note", some ["id"], [[.literal (.number "1")]]⟩

/-- A note gets its mark and the time. -/
theorem note_filled : ∃ row,
    ((afterText noteText).execute leapDay.time (.insert bareNote)).2.database.rows "note" = [row] ∧
      row[1]? = some (.text "open") ∧ row[2]? = some (.text "2024-02-29 12:34:56") := by
  obtain ⟨hread, hrun, htable, hexecute⟩ :
      (Sql.parse noteText).toOption.bind declared? = some (plainTable "note" [plainClause "id" "INT" [],
        { plainClause "mark" "VARCHAR" [] with default := some "open" },
        { plainClause "made" "VARCHAR" [] with default := some "NOW()" }]) ∧
      ((ofDatabase (.empty none)).run leapDay.time noteText).1 = .ok (.done "Table 'note' created") ∧
      ((afterText noteText).database.table? "note").map (fun t =>
        (t.rows, t.schema.position? "mark", t.schema.position? "made")) = some ([], some 1, some 2) ∧
      ((afterText noteText).execute leapDay.time (.insert bareNote)).1 = .ok (.changed 1) := by
    decide +kernel
  obtain ⟨t, ht, hshape⟩ := Option.map_eq_some_iff.1 htable
  obtain ⟨hrows, hmark, hmade⟩ : t.rows = [] ∧ t.schema.position? "mark" = some 1 ∧
      t.schema.position? "made" = some 2 := by simpa using hshape
  have hempty : (ofDatabase (.empty none)).database.Reachable := .empty none
  have hlater : ReflTransGen (Retains "note") ((ofDatabase (.empty none)).run leapDay.time noteText).2.database
      (afterText noteText).database := .refl
  have hafter : (afterText noteText).execute leapDay.time (.insert bareNote)
      = (.ok (.changed 1), ((afterText noteText).execute leapDay.time (.insert bareNote)).2) := Prod.ext hexecute rfl
  have hnames : bareNote.columns = some ["id"] := rfl
  have hfilled : ∀ (name value : String) (written : Sql.WrittenDefault) (i : Nat),
      ⟨name, "VARCHAR", some written⟩ ∈ Sql.writtenColumns noteText →
      t.schema.position? name = some i → sameName "id" name = false →
      written.meaning? leapDay.time = some value → written.keepsMeaning = true →
      ∃ row, ((afterText noteText).execute leapDay.time (.insert bareNote)).2.database.rows "note" = [row] ∧
        row[i]? = some (.text value) := by
    intro name value written i hcolumn hposition hleft hmeaning hkeeps
    have hleft' : ∀ other ∈ ["id"], sameName other name = false := by simpa using hleft
    have htype : DataType.ofName? "VARCHAR" = some .varchar := by decide +kernel
    obtain ⟨t', i', new, ht', hposition', hrows', hall, hcells⟩ :=
      createTable_fills_default hempty leapDay (parse_of_declared? hread) rfl hrun rfl hcolumn htype rfl rfl hlater rfl
        hnames hleft' hafter hmeaning
    obtain rfl : t = t' := Option.some.inj (ht.symm.trans ht')
    obtain rfl : i = i' := Option.some.inj (hposition.symm.trans hposition')
    obtain ⟨row, rfl⟩ := List.length_eq_one_iff.1 (hall _ rfl rfl)
    rw [hrows, List.nil_append] at hrows'
    exact ⟨row, hrows', (hcells row (List.mem_singleton_self row)).2 hkeeps⟩
  have hcolumns : Sql.writtenColumns noteText = [⟨"id", "INT", none⟩, ⟨"mark", "VARCHAR", some (.quoted "open")⟩,
      ⟨"made", "VARCHAR", some (.function "Now" (some ""))⟩] := by decide +kernel
  obtain ⟨row, hrow, hopen⟩ := hfilled "mark" "open" (.quoted "open") 1 (hcolumns ▸ .tail _ (.head _)) hmark
    (by decide +kernel) (by decide +kernel) (by decide +kernel)
  obtain ⟨row', hrow', htime⟩ := hfilled "made" "2024-02-29 12:34:56" (.function "Now" (some "")) 2
    (hcolumns ▸ .tail _ (.tail _ (.head _))) hmade (by decide +kernel) (by decide +kernel) (by decide +kernel)
  obtain rfl : row = row' := List.singleton_injective (hrow.symm.trans hrow')
  exact ⟨row, hrow, hopen, htime⟩

/-- A text in which the mark is the name of a clock function in quotes, and a clock function has an argument. -/
def clockText : String :=
  "CREATE TABLE note (id INT, mark VARCHAR DEFAULT 'now', made VARCHAR DEFAULT NOW(3))"

/-- The mark of a note is the time and no literal, and the time at which it was made is a text and no time. -/
theorem quoted_clock_called :
    Sql.writtenColumns clockText = [⟨"id", "INT", none⟩, ⟨"mark", "VARCHAR", some (.quoted "now")⟩,
      ⟨"made", "VARCHAR", some (.function "NOW" (some "3"))⟩] ∧ isNullText "now" = false ∧
    ((ofDatabase (.empty none)).run leapDay.time clockText).1 = .ok (.done "Table 'note' created") ∧
    ((afterText clockText).execute leapDay.time (.insert bareNote)).1 = .ok (.changed 1) ∧
    ((afterText clockText).execute leapDay.time (.insert bareNote)).2.database.rows "note"
      = [[.text "1", .text "2024-02-29 12:34:56", .text "NOW(3)"]] := by
  decide +kernel

end Session

end Relational
