import Relational.Plan
import Relational.Proofs.Value

/-!
# Equality with a literal

A stored text that is equal to a literal, compared as values, is the stored form of the literal, if the literal is
written like the texts of the type and the type is not one of real numbers. Truth values may be compared with numbers
and integers may be written in many ways, but there is one stored form for each.
-/

namespace Relational

open Text Decimal

namespace Value

/-! ## Equal values -/

/-- Two values are equal after alignment, in one order or the other. -/
def Meets (v w : Value) : Prop :=
  alignedOrder v w = .ok .eq ∨ alignedOrder w v = .ok .eq

variable {v w : Value}

/-- Data of one kind is compared as it is. -/
theorem alignedOrder_same {p q : Payload} (hv : v.payload = some p) (hw : w.payload = some q)
    (hkind : p.kind = q.kind) : alignedOrder v w = payloadOrder p q := by
  have halign : align v w = (v, w) := by
    unfold align
    rw [hv, hw]
    cases p <;> cases q <;> simp_all [Payload.kind, kind?]
  rw [alignedOrder, halign]
  simp only [order, hv, hw]

theorem text_of_meets {s t : String} (hv : v.payload = some (.text s)) (hw : w.payload = some (.text t))
    (h : v.Meets w) : s = t := by
  rw [Meets, alignedOrder_same hv hw rfl, alignedOrder_same hw hv rfl] at h
  simp only [payloadOrder, payloadText, textOrder, Except.ok.injEq, Std.LawfulEqCmp.compare_eq_iff_eq] at h
  exact h.elim id Eq.symm

theorem integer_of_meets {m n : Int} (hv : v.payload = some (.integer m)) (hw : w.payload = some (.integer n))
    (h : v.Meets w) : m = n := by
  rw [Meets, alignedOrder_same hv hw rfl, alignedOrder_same hw hv rfl] at h
  simp only [payloadOrder, Except.ok.injEq, Std.LawfulEqCmp.compare_eq_iff_eq] at h
  exact h.elim id Eq.symm

theorem bool_of_meets {a b : Bool} (hv : v.payload = some (.bool a)) (hw : w.payload = some (.bool b))
    (h : v.Meets w) : a = b := by
  rw [Meets, alignedOrder_same hv hw rfl, alignedOrder_same hw hv rfl] at h
  simp only [payloadOrder, payloadText, textOrder, Except.ok.injEq, Std.LawfulEqCmp.compare_eq_iff_eq] at h
  have htext : boolText a = boolText b := h.elim id Eq.symm
  revert htext
  cases a <;> cases b <;> decide

/-- Beside a truth value an integer is true unless it is zero. -/
theorem bool_of_meets_integer {b : Bool} {n : Int} (hv : v.payload = some (.bool b))
    (hw : w.payload = some (.integer n)) (h : v.Meets w) : b = (n != 0) := by
  have halign : align v w = (.ofBool? (some b), .ofBool? (some (n != 0))) := by
    simp [align, toBool?, kind?, Payload.kind, hv, hw]
  have halign' : align w v = (.ofBool? (some (n != 0)), .ofBool? (some b)) := by
    simp [align, toBool?, kind?, Payload.kind, hv, hw]
  have hsame : ∀ a a' : Bool, alignedOrder (.ofBool? (some a)) (.ofBool? (some a'))
      = payloadOrder (.bool a) (.bool a') :=
    fun _ _ => alignedOrder_same rfl rfl rfl
  refine bool_of_meets (v := .ofBool? (some b)) (w := .ofBool? (some (n != 0))) rfl rfl ?_
  rw [Meets, hsame, hsame]
  rw [Meets, alignedOrder, alignedOrder, halign, halign'] at h
  exact h

/-- Beside a truth value a text is the truth value that it reads as. -/
theorem bool_of_meets_text {b b' : Bool} {s : String} (hv : v.payload = some (.bool b))
    (hw : w.payload = some (.text s)) (hread : (ofText v.type s).payload = some (.bool b')) (h : v.Meets w) :
    b = b' := by
  have hpresent : (ofText v.type s).isNull = false := by rw [isNull, hread]; rfl
  have halign : align v w = (v, ofText v.type s) := by simp [align, hv, hw, hpresent]
  have halign' : align w v = (ofText v.type s, v) := by simp [align, hv, hw, hpresent]
  refine bool_of_meets hv hread ?_
  rw [Meets, alignedOrder_same hv hread rfl, alignedOrder_same hread hv rfl]
  rw [Meets, alignedOrder, alignedOrder, halign, halign'] at h
  simpa only [order, hv, hread] using h

/-- The data of a text. -/
theorem payload_ofText {type : DataType} {kind : Kind} (hkind : type.kind = kind) {text : String}
    (hnull : isNullText text = false) : (ofText type text).payload = (readData? text kind).map Subtype.val := by
  subst hkind
  rw [ofText_of_isNullText hnull]
  rfl

theorem type_ofText (type : DataType) (text : String) : (ofText type text).type = type := by
  unfold ofText
  split <;> rfl

end Value

/-! ## Numbers as they are written -/

/-- A point or the mark of an exponent stands in the text, and not in the blanks around it. -/
theorem exists_mem_strip_of_isRealNumeral {text : String} (h : isRealNumeral text = true) :
    ∃ c ∈ (strip text).toList, c = '.' ∨ c = 'e' ∨ c = 'E' := by
  obtain ⟨c, hc, hmark⟩ := List.any_eq_true.1 h
  simp only [Bool.or_eq_true, beq_iff_eq, or_assoc] at hmark
  refine ⟨c, mem_strip hc ?_, hmark⟩
  rcases hmark with rfl | rfl | rfl <;> decide

/-- A number is a real one, a text that is none, or an integer. -/
theorem numberValue_cases {text : String} {w : Value} (h : numberValue text = .ok w) :
    (isRealNumeral text = true ∧ ((∃ x, readFloat? text = some x) ∨ w = .ofString text)) ∨
      ∃ n, readInteger? text = some n ∧ w.payload = some (.integer n) := by
  unfold numberValue at h
  split at h
  · rename_i hreal
    left
    refine ⟨hreal, ?_⟩
    split at h
    · rename_i x hread
      exact .inl ⟨x, hread⟩
    · cases h
      exact .inr rfl
  · right
    split at h
    · rename_i n hread
      cases h
      refine ⟨n, hread, ?_⟩
      unfold Value.ofInteger
      split <;> rfl
    · cases h

theorem isNullText_of_isRealNumeral {text : String} (h : isRealNumeral text = true) : isNullText text = false := by
  obtain ⟨c, hc, hmark⟩ := exists_mem_strip_of_isRealNumeral h
  rw [← isNullText_strip]
  refine isNullText_eq_false_of_mem hc ?_
  rcases hmark with rfl | rfl | rfl <;> decide

theorem isNullText_of_readInteger? {text : String} {n : Int} (h : readInteger? text = some n) :
    isNullText text = false := by
  obtain ⟨c, hc, hdigit⟩ := (chars_of_readInteger? h).digit
  rw [← isNullText_strip]
  exact isNullText_eq_false_of_mem hc (foreignToNull_of_isDecimalDigit hdigit)

theorem isNullText_of_numberValue {text : String} {w : Value} (h : numberValue text = .ok w) :
    isNullText text = false := by
  rcases numberValue_cases h with ⟨hreal, -⟩ | ⟨n, hread, -⟩
  · exact isNullText_of_isRealNumeral hreal
  · exact isNullText_of_readInteger? hread

theorem mem_of_isIntegerShape {cs : List Char} (h : isIntegerShape cs = true) {c : Char} (hc : c ∈ cs) :
    isDecimalDigit c = true ∨ c = '+' ∨ c = '-' := by
  rw [isIntegerShape, isDigits, Bool.and_eq_true, List.all_eq_true] at h
  cases cs with
  | nil => cases hc
  | cons sign cs =>
    rw [dropSign] at h
    split at h
    · rename_i hsign
      rcases List.mem_cons.1 hc with rfl | hc
      · exact .inr (by simpa using hsign)
      · exact .inl (h.2 c hc)
    · exact .inl (h.2 c hc)

/-! ## Words for truth values -/

/-- A number that is a word for a truth value is zero or one. -/
theorem bool_of_readInteger? {text : String} {b : Bool} {n : Int} (hb : readBool? text = some b)
    (hn : readInteger? text = some n) : b = (n != 0) := by
  have hword := word_of_readBool? hb
  rw [upper_strip_of_readInteger? hn] at hword
  have hread := readInteger?_strip hn
  have hwords : ∀ b, readInteger? (boolText b) = none ∧
      readInteger? (if b then "1" else "0") = some (if b then 1 else 0) := by
    decide +kernel
  rcases hword with hword | hword
  · rw [hword, (hwords b).1] at hread
    cases hread
  · rw [hword, (hwords b).2] at hread
    cases hread
    cases b <;> rfl

/-- A word for a truth value that is written like a real number reads as none. -/
theorem readFloat?_of_readBool? {text : String} {b : Bool} (hb : readBool? text = some b)
    (hreal : isRealNumeral text = true) : readFloat? text = none := by
  have hupper : ∀ {c u}, c ∈ text.toList → isBlank c = false → u ∈ upperChar c → u ∈ (upper (strip text)).toList :=
    fun hc hblank hu => mem_upper (mem_strip hc hblank) hu
  rw [readFloat?, Option.map_eq_none_iff, Option.eq_none_iff_forall_ne_some]
  intro numeral hnumeral
  rcases word_of_readBool? hb with hword | hword
  · -- no letter of the words is a digit or an N
    have hletters : ∀ b, (boolText b).toList.all (fun c => !isDecimalDigit c && c != 'N') = true := by decide
    simp only [List.all_eq_true, Bool.and_eq_true, Bool.not_eq_true', bne_iff_ne] at hletters
    rw [hword] at hupper
    obtain ⟨c, hc, hdigit | hn⟩ := exists_mem_of_readReal? hnumeral
    · have hself : c ∈ upperChar c := by
        rw [upperChar_of_isDecimalDigit hdigit]
        exact .head _
      have hnone := (hletters b c (hupper hc (isBlank_of_isDecimalDigit hdigit) hself)).1
      rw [hdigit] at hnone
      cases hnone
    · rcases eq_of_toLower_n hn with rfl | rfl
      · exact (hletters b 'N' (hupper hc (by decide) (by decide))).2 rfl
      · exact (hletters b 'N' (hupper hc (by decide) (by decide))).2 rfl
  · -- a single digit has neither a point nor an exponent
    have hdigits : ∀ b : Bool, ∀ u ∈ (if b then "1" else "0" : String).toList, u ≠ '.' ∧ u ≠ 'E' := by
      simp
    obtain ⟨c, hc, hmark⟩ := exists_mem_strip_of_isRealNumeral hreal
    have hmem : ∀ u ∈ upperChar c, u ≠ '.' ∧ u ≠ 'E' := fun u hu => hdigits b u (hword ▸ mem_upper hc hu)
    rcases hmark with rfl | rfl | rfl
    · exact (hmem '.' (by decide)).1 rfl
    · exact (hmem 'E' (by decide)).2 rfl
    · exact (hmem 'E' (by decide)).2 rfl

/-! ## Literals that no day and no time is written like -/

/-- A number does not fill places of which none takes a point or the mark of an exponent, and one after the first
takes only a dash or a colon. -/
theorem fillsPlaces_number {places : List (Char → Bool)} {fixed : Char → Bool} {i : Nat}
    (hmarks : (places.all fun place => !place '.' && !place 'e' && !place 'E') = true)
    (hplace : places[i + 1]? = some fixed) (hfixed : ∀ c, fixed c = true → c = '-' ∨ c = ':') {text : String}
    {w : Value} (hw : numberValue text = .ok w) : fillsPlaces places (strip text).toList = false := by
  rw [← Bool.not_eq_true]
  intro hplaces
  rcases numberValue_cases hw with ⟨hreal, -⟩ | ⟨n, hn, -⟩
  · obtain ⟨c, hc, hmark⟩ := exists_mem_strip_of_isRealNumeral hreal
    obtain ⟨place, hmem, htakes⟩ := exists_place_of_fillsPlaces hplaces hc
    have hnone := List.all_eq_true.1 hmarks place hmem
    rcases hmark with rfl | rfl | rfl <;> simp [htakes] at hnone
  · obtain ⟨c, hc, htakes⟩ := exists_char_of_fillsPlaces hplaces hplace
    rw [← List.getElem?_tail] at hc
    have hchar := (chars_of_readInteger? hn).tail c (List.mem_of_getElem? hc)
    rcases hfixed c htakes with rfl | rfl <;> exact absurd hchar (by decide)

/-! ## Stored forms of literals -/

section Literal

variable {type : DataType} {choices : List String} {cell text key : String} {w : Value}

theorem isNullText_of_present (hcell : encode type choices cell = .ok cell)
    (hpresent : (Value.ofText type cell).isNull = false) : isNullText cell = false := by
  rcases encode_eq_ok.1 hcell with ⟨-, rfl⟩ | ⟨hnull, -⟩
  · rw [Value.isNull_ofText_nullText] at hpresent
    cases hpresent
  · exact hnull

theorem key_of_string (hkind : type.kind = .text) (hcell : encode type choices cell = .ok cell)
    (hnull : isNullText cell = false) (hkey : encode type choices text = .ok key)
    (hmeets : (Value.ofText type cell).Meets (.ofString text)) : key = cell := by
  have hsame : cell = text := Value.text_of_meets (Value.payload_ofText hkind hnull) rfl hmeets
  rw [← hsame, hcell] at hkey
  exact (Except.ok.inj hkey).symm

/-- Integers are equal only if their stored forms are. -/
theorem key_of_integer (hkind : type.kind = .integer) (hcell : encode type choices cell = .ok cell)
    (hnull : isNullText cell = false) (hkey : encode type choices text = .ok key) (hw : numberValue text = .ok w)
    (hmeets : (Value.ofText type cell).Meets w) : key = cell := by
  obtain ⟨-, m, hm, -, hcell'⟩ := encode_integer hkind hcell hnull
  obtain ⟨hshape, n, hn, -, rfl⟩ := encode_integer hkind hkey (isNullText_of_numberValue hw)
  have hpayload : (Value.ofText type cell).payload = some (.integer m) := by
    rw [Value.payload_ofText hkind hnull, Value.readData?, hm]
    rfl
  rcases numberValue_cases hw with ⟨hreal, -⟩ | ⟨k, hk, hw⟩
  · -- an integer has no point and no exponent
    obtain ⟨c, hc, hmark⟩ := exists_mem_strip_of_isRealNumeral hreal
    have hchar := mem_of_isIntegerShape hshape hc
    rcases hmark with rfl | rfl | rfl <;> exact absurd hchar (by decide)
  · have hk' := readInteger?_strip hk
    rw [hn] at hk'
    cases hk'
    rw [hcell', Value.integer_of_meets hpayload hw hmeets]

theorem payload_bool (hkind : type.kind = .bool) (hnull : isNullText cell = false) {b : Bool}
    (hb : readBool? cell = some b) : (Value.ofText type cell).payload = some (.bool b) := by
  rw [Value.payload_ofText hkind hnull, Value.readData?, hb]
  rfl

/-- Truth values are equal to literals only if their stored forms are. -/
theorem key_of_bool (hkind : type.kind = .bool) (hcell : encode type choices cell = .ok cell)
    (hnull : isNullText cell = false) (hkey : encode type choices text = .ok key) (hw : numberValue text = .ok w)
    (hmeets : (Value.ofText type cell).Meets w) : key = cell := by
  have htext := isNullText_of_numberValue hw
  obtain ⟨a, ha, hcell'⟩ := encode_bool hkind hcell hnull
  obtain ⟨b, hb, rfl⟩ := encode_bool hkind hkey htext
  have hpayload := payload_bool hkind hnull ha
  suffices hsame : a = b by rw [hcell', hsame]
  rcases numberValue_cases hw with ⟨hreal, ⟨x, hx⟩ | rfl⟩ | ⟨n, hn, hw⟩
  · rw [readFloat?_of_readBool? hb hreal] at hx
    cases hx
  · refine Value.bool_of_meets_text hpayload rfl ?_ hmeets
    rw [Value.type_ofText]
    exact payload_bool hkind htext hb
  · rw [bool_of_readInteger? hb hn]
    exact Value.bool_of_meets_integer hpayload hw hmeets

theorem acceptsPresent_number (hkind : type.kind = .date ∨ type.kind = .time ∨ type.kind = .timestamp)
    (hw : numberValue text = .ok w) : acceptsPresent type choices text = false := by
  rw [← Bool.not_eq_true]
  intro haccepts
  rcases hkind with hkind | hkind | hkind
  · have hplaces := ((acceptsPresent_date hkind).1 haccepts).1
    rw [fillsPlaces_number (i := 3) (by decide) rfl (by simp) hw] at hplaces
    cases hplaces
  · have hplaces := ((acceptsPresent_time hkind).1 haccepts).1
    rw [fillsPlaces_number (i := 1) (by decide) rfl (by simp) hw] at hplaces
    cases hplaces
  · have hplaces := ((acceptsPresent_timestamp hkind).1 haccepts).1
    rw [fillsPlaces_number (i := 3) (by decide) rfl (by simp) hw] at hplaces
    cases hplaces

/-- A word for a truth value is a value of few types. -/
theorem acceptsPresent_boolText (b : Bool) (h : acceptsPresent type choices (boolText b) = true) :
    type.kind = .text ∨ type.kind = .bool := by
  cases type <;> simp only [acceptsPresent, Bool.and_eq_true] at h <;> first
    | exact .inl rfl
    | exact .inr rfl
    | exfalso; revert h; cases b <;> decide

/-- If a stored text is equal to a literal that suits its type, the stored form of the literal is the text. -/
theorem key_of_meets {value : Literal} (hsuits : Plan.suits type value = true)
    (hexact : (type.isFloating || type.isDecimal) = false) (htext : value.text? = some text)
    (hkey : encode type choices text = .ok key) (hcell : encode type choices cell = .ok cell)
    (hw : value.evaluate = .ok w) (hpresent : (Value.ofText type cell).isNull = false)
    (hmeets : (Value.ofText type cell).Meets w) : key = cell ∧ isNullText cell = false := by
  have hnull := isNullText_of_present hcell hpresent
  refine ⟨?_, hnull⟩
  cases value with
  | null => cases htext
  | string s =>
    cases htext
    cases hw
    exact key_of_string (DataType.isString_iff.1 hsuits) hcell hnull hkey hmeets
  | number s =>
    cases htext
    have hw' : numberValue text = .ok w := hw
    have haccepts : acceptsPresent type choices text = true := by
      rcases encode_eq_ok.1 hkey with ⟨hnone, -⟩ | ⟨-, haccepts, -⟩
      · rw [isNullText_of_numberValue hw'] at hnone
        cases hnone
      · exact haccepts
    have hplaced : ¬ (type.kind = .date ∨ type.kind = .time ∨ type.kind = .timestamp) := by
      intro hkind
      rw [acceptsPresent_number hkind hw'] at haccepts
      cases haccepts
    cases hkind : type.kind with
    | integer => exact key_of_integer hkind hcell hnull hkey hw' hmeets
    | bool => exact key_of_bool hkind hcell hnull hkey hw' hmeets
    | text =>
      have hother : (!type.isString) = true := hsuits
      rw [DataType.isString_iff.2 hkind] at hother
      cases hother
    | real =>
      rw [DataType.isReal_iff.2 hkind] at hexact
      cases hexact
    | date | time | timestamp => simp [hkind] at hplaced
  | bool b =>
    cases htext
    cases hw
    rcases encode_eq_ok.1 hkey with ⟨hnone, -⟩ | ⟨-, haccepts, -⟩
    · rw [isNullText_boolText] at hnone
      cases hnone
    · rcases acceptsPresent_boolText b haccepts with hkind | hkind
      · have hother : (!type.isString) = true := hsuits
        rw [DataType.isString_iff.2 hkind] at hother
        cases hother
      · obtain ⟨a, ha, hcell'⟩ := encode_bool hkind hcell hnull
        obtain ⟨b', hb', rfl⟩ := encode_bool hkind hkey (isNullText_boolText b)
        rw [readBool?_boolText] at hb'
        cases hb'
        rw [hcell', Value.bool_of_meets (payload_bool hkind hnull ha) rfl hmeets]

end Literal

end Relational
