import Relational.Proofs.Calendar.Places
import Relational.Proofs.Encoding
import Relational.Proofs.Value

/-!
# Stored texts and what they say

A text of a column says an integer, a truth value, a date or time, or a rational number. What is stored for the text
says the same. For an integer or a truth value there is one text that is stored, and so there is for a date or time if
it is given in digits of ASCII: then comparing what is stored is comparing what it says. Decimal numbers are stored as
they are spelled, so that `1.0` and `1.00` are stored as different texts.
-/

namespace Relational

open Text Decimal Calendar

/-! ## What a text says -/

/-- A finite number as a quotient of integers. -/
def Decimal.RealNumeral.toRat? : RealNumeral → Option Rat
  | .finite negative coefficient exponent =>
    let magnitude : Int := coefficient * tenTo exponent.toNat
    some (mkRat (if negative then -magnitude else magnitude) (tenTo (-exponent).toNat))
  | .infinite _ | .nan => none

/-- What a text other than NULL says where it does not stand for itself. -/
inductive Meaning where
  | integer (n : Int)
  | rational (q : Rat)
  | bool (b : Bool)
  | date (d : Date)
  | time (t : TimeOfDay)
  | timestamp (t : Timestamp)
  deriving DecidableEq

/-- What a text says in a column of a type. Nothing is rounded. -/
def meaning? (type : DataType) (text : String) : Option Meaning :=
  match type.kind with
  | .text => none
  | .integer => (readInteger? (strip text)).map .integer
  | .real => ((readReal? (strip text)).bind RealNumeral.toRat?).map .rational
  | .bool => (readBool? text).map .bool
  | .date => (Date.read (strip text)).toOption.map .date
  | .time => (TimeOfDay.read (strip text)).toOption.map .time
  | .timestamp => (Timestamp.read (blankForT (strip text))).toOption.map .timestamp

/-- The characters that are stored for what is said. A number with a point has no fixed ones. -/
def Meaning.spelled? : Meaning → Option (List Char)
  | .integer n => some (intText n).toList
  | .rational _ => none
  | .bool b => some (boolText b).toList
  | .date d => some d.spelled
  | .time t => some t.spelled
  | .timestamp t => some (t.date.spelled ++ ' ' :: t.time.spelled)

/-! ## Digits of ASCII -/

/-- All decimal digits in the text are those of ASCII. -/
def PlainDigits (text : String) : Prop :=
  ∀ c ∈ text.toList, isDecimalDigit c = true → c.toNat < 0x80

instance (text : String) : Decidable (PlainDigits text) :=
  List.decidableBAll (fun c : Char => isDecimalDigit c = true → c.toNat < 0x80) text.toList

section PlainDigits

variable {text : String}

theorem PlainDigits.map_plainDigit (h : PlainDigits text) : text.toList.map plainDigit = text.toList := by
  refine (List.map_congr_left fun c hc => ?_).trans (List.map_id _)
  cases hdigit : isDecimalDigit c with
  | true => exact plainDigit_of_lt (h c hc hdigit)
  | false => exact plainDigit_of_not_digit hdigit

theorem PlainDigits.strip (h : PlainDigits text) : PlainDigits (strip text) := by
  intro c hc
  obtain ⟨before, after, -, -, htext⟩ := exists_trimWhile isBlank text.toList
  rw [Text.strip, String.toList_ofList] at hc
  refine h c ?_
  rw [htext]
  exact List.mem_append_left _ (List.mem_append_right _ hc)

theorem PlainDigits.blankForT (h : PlainDigits text) : PlainDigits (blankForT text) := by
  intro c hc hdigit
  rw [toList_blankForT] at hc
  obtain ⟨d, hd, rfl⟩ := List.mem_map.1 hc
  unfold untee at hdigit ⊢
  split
  · decide
  · rename_i htee
    rw [if_neg htee] at hdigit
    exact h d hd hdigit

end PlainDigits

/-! ## What is stored -/

theorem DataType.isTemporal_iff {type : DataType} :
    type.isTemporal = true ↔ type.kind = .date ∨ type.kind = .time ∨ type.kind = .timestamp := by
  cases type <;> simp [isTemporal, kind]

/-- A text that is stored as another, where both say the same. Decimal numbers apart, what is stored is given by what
it says, if there are only digits of ASCII in a date or time. -/
structure StoredAs (type : DataType) (choices : List String) (text stored : String) (value : Meaning) : Prop where
  encode : encode type choices text = .ok stored
  said : meaning? type text = some value
  kept : meaning? type stored = some value
  form : type.isDecimal = false → (type.isTemporal = true → PlainDigits text) →
    value.spelled? = some stored.toList

section Stored

variable {type : DataType} {choices : List String} {text text' stored stored' : String} {value value' : Meaning}

theorem encode_present (haccepts : accepts type choices text = true) (hpresent : isNullText text = false) :
    acceptsPresent type choices text = true ∧ encode type choices text = .ok (encodePresent type text) := by
  rw [accepts, hpresent, Bool.false_or] at haccepts
  exact ⟨haccepts, encode_eq_ok.2 (.inr ⟨hpresent, haccepts, rfl⟩)⟩

theorem exists_storedAs_integer (hkind : type.kind = .integer) (h : encode type choices text = .ok stored)
    (hpresent : isNullText text = false) : ∃ value, StoredAs type choices text stored value := by
  obtain ⟨-, n, hread, -, rfl⟩ := encode_integer hkind h hpresent
  refine ⟨.integer n, h, ?_, ?_, fun _ _ => rfl⟩
  · simp only [meaning?, hkind, hread, Option.map_some]
  · simp only [meaning?, hkind, strip_intText, readInteger?_intText, Option.map_some]

theorem exists_storedAs_bool (hkind : type.kind = .bool) (h : encode type choices text = .ok stored)
    (hpresent : isNullText text = false) : ∃ value, StoredAs type choices text stored value := by
  obtain ⟨b, hread, rfl⟩ := encode_bool hkind h hpresent
  refine ⟨.bool b, h, ?_, ?_, fun _ _ => rfl⟩
  · simp only [meaning?, hkind, hread, Option.map_some]
  · simp only [meaning?, hkind, readBool?_boolText, Option.map_some]

theorem exists_storedAs_decimal (htype : type.isDecimal = true) (haccepts : acceptsPresent type choices text = true)
    (h : encode type choices text = .ok (encodePresent type text)) :
    ∃ value, StoredAs type choices text (encodePresent type text) value := by
  have hkind : type.kind = .real := DataType.isReal_iff.1 (by rw [htype, Bool.or_true])
  have hshape : isDecimalShape (strip text).toList = true := by
    cases type <;> simp only [DataType.isDecimal, Bool.false_eq_true] at htype <;> exact haccepts
  obtain ⟨negative, c, e, hread⟩ := finite_of_isDecimalShape hshape
  have hstored : encodePresent type text = strip text := by simp only [encodePresent, hkind]
  obtain ⟨q, hq⟩ : ∃ q, (RealNumeral.finite negative c e).toRat? = some q := ⟨_, rfl⟩
  refine ⟨.rational q, h, ?_, ?_, fun hdecimal _ => ?_⟩
  · simp only [meaning?, hkind, hread, Option.bind_some, hq, Option.map_some]
  · simp only [meaning?, hkind, hstored, strip_strip, hread, Option.bind_some, hq, Option.map_some]
  · rw [htype] at hdecimal
    cases hdecimal

/-- The word of a date or time is read, and the word is stored. -/
theorem exists_storedAs_temporal {ε α : Type} {read : String → Except ε α} {word : String → String}
    {say : α → Meaning} (htemporal : type.isTemporal = true)
    (hsaid : ∀ text, meaning? type text = (read (word text)).toOption.map say)
    (hstored : encodePresent type text = word text) (hword : word (word text) = word text)
    (hread : (read (word text)).isOk = true)
    (hspelled : ∀ x, read (word text) = .ok x → (say x).spelled? = some ((word text).toList.map plainDigit))
    (hplain : PlainDigits text → PlainDigits (word text))
    (h : encode type choices text = .ok (encodePresent type text)) :
    ∃ value, StoredAs type choices text (encodePresent type text) value := by
  obtain ⟨x, hx⟩ := Value.exists_of_isOk hread
  refine ⟨say x, h, ?_, ?_, fun _ hdigits => ?_⟩
  · rw [hsaid, hx]
    rfl
  · rw [hsaid, hstored, hword, hx]
    rfl
  · rw [hspelled x hx, hstored, (hplain (hdigits htemporal)).map_plainDigit]

theorem exists_storedAs_date (hkind : type.kind = .date) (haccepts : acceptsPresent type choices text = true)
    (h : encode type choices text = .ok (encodePresent type text)) :
    ∃ value, StoredAs type choices text (encodePresent type text) value := by
  obtain ⟨hplaces, hread⟩ := (acceptsPresent_date hkind).1 haccepts
  have hsaid : ∀ text, meaning? type text = (Date.read (strip text)).toOption.map .date := fun text => by
    simp only [meaning?, hkind]
  refine exists_storedAs_temporal (DataType.isTemporal_iff.2 (by simp [hkind])) hsaid
    (by simp only [encodePresent, hkind]) (strip_strip text) hread (fun d hd => ?_) PlainDigits.strip h
  rw [Meaning.spelled?, (Date.spelled_of_read hplaces hd).1]

theorem exists_storedAs_time (hkind : type.kind = .time) (haccepts : acceptsPresent type choices text = true)
    (h : encode type choices text = .ok (encodePresent type text)) :
    ∃ value, StoredAs type choices text (encodePresent type text) value := by
  obtain ⟨hplaces, hread⟩ := (acceptsPresent_time hkind).1 haccepts
  have hsaid : ∀ text, meaning? type text = (TimeOfDay.read (strip text)).toOption.map .time := fun text => by
    simp only [meaning?, hkind]
  refine exists_storedAs_temporal (DataType.isTemporal_iff.2 (by simp [hkind])) hsaid
    (by simp only [encodePresent, hkind]) (strip_strip text) hread (fun t ht => ?_) PlainDigits.strip h
  rw [Meaning.spelled?, (TimeOfDay.spelled_of_read hplaces ht).1]

theorem exists_storedAs_timestamp (hkind : type.kind = .timestamp)
    (haccepts : acceptsPresent type choices text = true)
    (h : encode type choices text = .ok (encodePresent type text)) :
    ∃ value, StoredAs type choices text (encodePresent type text) value := by
  obtain ⟨hplaces, hread⟩ := (acceptsPresent_timestamp hkind).1 haccepts
  have hfills := fillsPlaces_blankForT hplaces
  have hsaid : ∀ text, meaning? type text = (Timestamp.read (blankForT (strip text))).toOption.map .timestamp :=
    fun text => by simp only [meaning?, hkind]
  have hword : blankForT (strip (blankForT (strip text))) = blankForT (strip text) := by
    rw [strip_of_fillsPlaces hfills, blankForT_blankForT]
  refine exists_storedAs_temporal (DataType.isTemporal_iff.2 (by simp [hkind])) hsaid
    (by simp only [encodePresent, hkind]) hword hread (fun t ht => ?_) (fun h => h.strip.blankForT) h
  rw [Meaning.spelled?, (Timestamp.spelled_of_read hfills ht).1]

/-- Every text that a type takes says something, and what is stored for it says the same. -/
theorem exists_storedAs (hstring : type.isString = false) (hfloating : type.isFloating = false)
    (haccepts : accepts type choices text = true) (hpresent : isNullText text = false) :
    ∃ value, StoredAs type choices text (encodePresent type text) value := by
  obtain ⟨haccepts, h⟩ := encode_present haccepts hpresent
  cases hkind : type.kind with
  | text =>
    rw [DataType.isString_iff.2 hkind] at hstring
    cases hstring
  | integer => exact exists_storedAs_integer hkind h hpresent
  | real =>
    have hdecimal := DataType.isReal_iff.2 hkind
    rw [hfloating, Bool.false_or] at hdecimal
    exact exists_storedAs_decimal hdecimal haccepts h
  | bool => exact exists_storedAs_bool hkind h hpresent
  | date => exact exists_storedAs_date hkind haccepts h
  | time => exact exists_storedAs_time hkind haccepts h
  | timestamp => exact exists_storedAs_timestamp hkind haccepts h

/-- Texts that are stored alike say the same. -/
theorem StoredAs.value_eq (h : StoredAs type choices text stored value)
    (h' : StoredAs type choices text' stored value') : value = value' :=
  Option.some.inj (h.kept.symm.trans h'.kept)

/-- Texts that say the same are stored alike, where what is said gives what is stored. -/
theorem StoredAs.stored_eq (h : StoredAs type choices text stored value)
    (h' : StoredAs type choices text' stored' value) (hdecimal : type.isDecimal = false)
    (hplain : type.isTemporal = true → PlainDigits text ∧ PlainDigits text') : stored = stored' := by
  have hform := h.form hdecimal fun htemporal => (hplain htemporal).1
  have hform' := h'.form hdecimal fun htemporal => (hplain htemporal).2
  exact String.toList_inj.1 (Option.some.inj (hform.symm.trans hform'))

/-! ## Comparing what is stored -/

/-- Two texts of a type say something each, and are stored. If they are stored alike, they say the same. If they say
the same they are stored alike, where they are integers, truth values, or dates and times with digits of ASCII only.
Decimal numbers are stored alike exactly if they are spelled alike. -/
theorem stored_eq_iff_value_eq (hstring : type.isString = false) (hfloating : type.isFloating = false)
    (haccepts : accepts type choices text = true) (hpresent : isNullText text = false)
    (haccepts' : accepts type choices text' = true) (hpresent' : isNullText text' = false) :
    ∃ stored stored' value value', StoredAs type choices text stored value ∧
      StoredAs type choices text' stored' value' ∧ (stored = stored' → value = value') ∧
        (type.isDecimal = false → (type.isTemporal = true → PlainDigits text ∧ PlainDigits text') →
          (stored = stored' ↔ value = value')) ∧
        (type.isDecimal = true → (stored = stored' ↔ strip text = strip text')) := by
  obtain ⟨value, h⟩ := exists_storedAs hstring hfloating haccepts hpresent
  obtain ⟨value', h'⟩ := exists_storedAs hstring hfloating haccepts' hpresent'
  have hvalue : encodePresent type text = encodePresent type text' → value = value' := by
    intro heq
    rw [← heq] at h'
    exact h.value_eq h'
  refine ⟨_, _, value, value', h, h', hvalue, fun hdecimal hplain => ⟨hvalue, ?_⟩, fun hdecimal => ?_⟩
  · rintro rfl
    exact h.stored_eq h' hdecimal hplain
  · have hkind : type.kind = .real := DataType.isReal_iff.1 (by rw [hdecimal, Bool.or_true])
    simp only [encodePresent, hkind]

end Stored

/-- A moment may be given with a `T` in it and with blanks around it, and is stored once. -/
theorem moment_stored_alike :
    encode .datetime [] " 2024-02-29T12:34:56" = encode .datetime [] "2024-02-29 12:34:56 " := by
  have haccepts : accepts .datetime [] " 2024-02-29T12:34:56" = true := by decide +kernel
  have haccepts' : accepts .datetime [] "2024-02-29 12:34:56 " = true := by decide +kernel
  obtain ⟨stored, stored', value, value', h, h', -, hiff, -⟩ :=
    stored_eq_iff_value_eq rfl rfl haccepts (by decide +kernel) haccepts' (by decide +kernel)
  have hsame : meaning? .datetime " 2024-02-29T12:34:56" = meaning? .datetime "2024-02-29 12:34:56 " := by
    decide +kernel
  rw [h.said, h'.said, Option.some.injEq] at hsame
  rw [h.encode, h'.encode, (hiff rfl fun _ => ⟨by decide, by decide⟩).2 hsame]

/-- There are two stored texts for the number one, and two for a day with digits of two scripts. -/
theorem one_stored_twice :
    (accepts .decimal [] "1.0" = true ∧ isNullText "1.0" = false ∧
      accepts .decimal [] "1.00" = true ∧ isNullText "1.00" = false ∧
      meaning? .decimal "1.0" = some (.rational 1) ∧ meaning? .decimal "1.00" = some (.rational 1) ∧
      encode .decimal [] "1.0" = .ok "1.0" ∧ encode .decimal [] "1.00" = .ok "1.00") ∧
    accepts .date [] "2024-02-29" = true ∧ isNullText "2024-02-29" = false ∧
      accepts .date [] "\u0662024-02-29" = true ∧ isNullText "\u0662024-02-29" = false ∧
      meaning? .date "2024-02-29" = some (.date ⟨2024, 2, 29⟩) ∧
      meaning? .date "\u0662024-02-29" = some (.date ⟨2024, 2, 29⟩) ∧
      encode .date [] "2024-02-29" = .ok "2024-02-29" ∧
      encode .date [] "\u0662024-02-29" = .ok "\u0662024-02-29" := by
  decide +kernel

end Relational
