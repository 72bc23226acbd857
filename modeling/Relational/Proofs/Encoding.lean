import Relational.Proofs.Encoding.Shapes
import Relational.Proofs.Failure

/-!
# Stored forms

The stored form of a text means NULL exactly if the text does. It is a value of the same type, and is stored as it is.
-/

namespace Relational

open Text Decimal

/-! ## Texts that mean NULL -/

/-- A character that is not blank and has no place in the word NULL, in no case. -/
def ForeignToNull (c : Char) : Prop :=
  isBlank c = false ∧ ∃ u ∈ upperChar c, u ∉ nullText.toList

instance (c : Char) : Decidable (ForeignToNull c) :=
  decidable_of_iff (isBlank c = false ∧ (upperChar c).any (fun u => !nullText.toList.contains u) = true)
    (by simp [ForeignToNull])

theorem foreignToNull_digitChar (n : Nat) : ForeignToNull (digitChar n) :=
  digitChar_induction ForeignToNull (by decide) n

theorem foreignToNull_of_isDecimalDigit {c : Char} (h : isDecimalDigit c = true) : ForeignToNull c := by
  refine ⟨isBlank_of_isDecimalDigit h, c, ?_, fun hmem => ?_⟩
  · rw [upperChar_of_isDecimalDigit h]
    exact List.mem_singleton_self c
  · have hletters : nullText.toList.all (fun c => !isDecimalDigit c) = true := by decide
    simp only [List.all_eq_true, Bool.not_eq_true'] at hletters
    rw [hletters c hmem] at h
    cases h

theorem isNullText_eq_false_of_mem {text : String} {c : Char} (hc : c ∈ text.toList) (h : ForeignToNull c) :
    isNullText text = false := by
  obtain ⟨hblank, u, hu, hnull⟩ := h
  have hmem := mem_strip hc hblank
  have hempty : strip text ≠ "" := by
    intro heq
    simp [heq] at hmem
  have hword : upper (strip text) ≠ nullText := by
    intro heq
    apply hnull
    rw [← heq]
    exact mem_upper hmem hu
  simp [isNullText, isNullWord, hempty, hword]

theorem isNullText_strip (text : String) : isNullText (strip text) = isNullText text := by
  simp only [isNullText, isNullWord, strip_strip]

theorem isNullText_nullText : isNullText nullText = true := by
  decide

/-! ## The stored form of a text -/

/-- A day and a time have a dash between year and month. -/
theorem dash_mem_of_fillsPlaces {cs : List Char} (h : fillsPlaces timestampPlaces cs = true) : '-' ∈ cs := by
  rcases cs with _ | ⟨a, _ | ⟨b, _ | ⟨c, _ | ⟨d, _ | ⟨e, cs⟩⟩⟩⟩⟩ <;>
    simp only [timestampPlaces, datePlaces, List.cons_append, fillsPlaces, Bool.and_eq_true, beq_iff_eq,
      Bool.and_false, reduceCtorEq] at h
  simp [h.2.2.2.2.1]

theorem isNullText_boolText (b : Bool) : isNullText (boolText b) = false := by
  cases b <;> decide

theorem isNullText_intText (n : Int) : isNullText (intText n) = false := by
  obtain ⟨m, hm⟩ := exists_digitChar_mem_intText n
  exact isNullText_eq_false_of_mem hm (foreignToNull_digitChar m)

theorem isNullText_blankForT {text : String} (h : fillsPlaces timestampPlaces text.toList = true) :
    isNullText (blankForT text) = false := by
  have hdash : '-' ∈ (blankForT text).toList := by
    rw [blankForT, String.toList_ofList, List.mem_map]
    exact ⟨'-', dash_mem_of_fillsPlaces h, by decide⟩
  exact isNullText_eq_false_of_mem hdash (by decide)

theorem isNullText_encodePresent {type : DataType} {choices : List String} {text : String}
    (haccepts : acceptsPresent type choices text = true) (hnull : isNullText text = false) :
    isNullText (encodePresent type text) = false := by
  have hword : isNullText (strip text) = false := (isNullText_strip text).trans hnull
  cases hkind : type.kind with
  | text => simpa only [encodePresent, hkind] using hnull
  | integer =>
    simp only [encodePresent, hkind]
    generalize readInteger? (strip text) = number
    cases number with
    | none => exact hword
    | some n => exact isNullText_intText n
  | bool =>
    simp only [encodePresent, hkind]
    exact isNullText_boolText _
  | timestamp =>
    simp only [encodePresent, hkind]
    cases type <;> simp only [DataType.kind, reduceCtorEq] at hkind
    all_goals
      simp only [acceptsPresent, Bool.and_eq_true] at haccepts
      -- what fills the places of a moment has a dash in it
      exact isNullText_blankForT haccepts.1
  | real | date | time => simpa only [encodePresent, hkind] using hword

/-- What is stored means NULL exactly if the text given does. -/
theorem isNullText_encode {type : DataType} {choices : List String} {text stored : String}
    (h : encode type choices text = .ok stored) : isNullText stored = isNullText text := by
  unfold encode at h
  split at h
  · rename_i hnull
    cases h
    rw [hnull]
    exact isNullText_nullText
  · rename_i hnull
    split at h
    · rename_i haccepts
      cases h
      rw [isNullText_encodePresent haccepts (by simpa using hnull)]
      simpa using hnull
    · simp at h

/-! ## What the types take -/

theorem DataType.isString_iff {type : DataType} : type.isString = true ↔ type.kind = .text := by
  cases type <;> simp [isString, kind]

theorem DataType.isInteger_iff {type : DataType} : type.isInteger = true ↔ type.kind = .integer := by
  cases type <;> simp [isInteger, kind]

theorem DataType.isReal_iff {type : DataType} : (type.isFloating || type.isDecimal) = true ↔ type.kind = .real := by
  cases type <;> simp [isFloating, isDecimal, kind]

section Present

variable {type : DataType} {choices : List String} {text stored : String}

theorem acceptsPresent_integer (hkind : type.kind = .integer) : acceptsPresent type choices text = true ↔
    isIntegerShape (strip text).toList = true ∧ ∃ n, readInteger? (strip text) = some n ∧ type.holds n = true := by
  cases type <;> simp only [DataType.kind, reduceCtorEq] at hkind <;>
    simp only [acceptsPresent, Bool.and_eq_true, Option.any_eq_true]

theorem acceptsPresent_real (hkind : type.kind = .real) (h : acceptsPresent type choices text = true) :
    isFloatingShape (strip text).toList = true := by
  cases type <;> simp only [DataType.kind, reduceCtorEq] at hkind
  case decimal | numeric => exact isFloatingShape_of_isDecimalShape h
  case float | double => exact h

theorem acceptsPresent_bool (hkind : type.kind = .bool) :
    acceptsPresent type choices text = true ↔ ∃ b, readBool? text = some b := by
  cases type <;> simp only [DataType.kind, reduceCtorEq] at hkind
  rw [← Option.isSome_iff_exists, acceptsPresent, readBool?, readBool?, strip_strip]

theorem acceptsPresent_date (hkind : type.kind = .date) : acceptsPresent type choices text = true ↔
    fillsPlaces datePlaces (strip text).toList = true ∧ (Date.read (strip text)).isOk = true := by
  cases type <;> simp only [DataType.kind, reduceCtorEq] at hkind
  rw [acceptsPresent, Bool.and_eq_true]

theorem acceptsPresent_time (hkind : type.kind = .time) : acceptsPresent type choices text = true ↔
    fillsPlaces timePlaces (strip text).toList = true ∧ (TimeOfDay.read (strip text)).isOk = true := by
  cases type <;> simp only [DataType.kind, reduceCtorEq] at hkind
  rw [acceptsPresent, Bool.and_eq_true]

theorem acceptsPresent_timestamp (hkind : type.kind = .timestamp) : acceptsPresent type choices text = true ↔
    fillsPlaces timestampPlaces (strip text).toList = true ∧
      (Timestamp.read (blankForT (strip text))).isOk = true := by
  cases type <;> simp only [DataType.kind, reduceCtorEq] at hkind <;> rw [acceptsPresent, Bool.and_eq_true]

/-- But for texts themselves, blanks around a text do not matter. -/
theorem acceptsPresent_strip (hkind : type.kind ≠ .text) :
    acceptsPresent type choices (strip text) = acceptsPresent type choices text := by
  cases type <;> simp only [DataType.kind, ne_eq, not_true_eq_false] at hkind <;>
    simp only [acceptsPresent, strip_strip]

/-! ## Storing again -/

/-- The stored form of a text is a value of the type again, and its own stored form. -/
theorem encodePresent_stable (h : acceptsPresent type choices text = true) :
    acceptsPresent type choices (encodePresent type text) = true ∧
      encodePresent type (encodePresent type text) = encodePresent type text := by
  cases hkind : type.kind with
  | text =>
    simp only [encodePresent, hkind]
    exact ⟨h, trivial⟩
  | integer =>
    obtain ⟨-, n, hread, hholds⟩ := (acceptsPresent_integer hkind).1 h
    have hstored : encodePresent type text = intText n := by simp only [encodePresent, hkind, hread, Option.elim_some]
    rw [hstored]
    constructor
    · rw [acceptsPresent_integer hkind, strip_intText]
      exact ⟨isIntegerShape_intText n, n, readInteger?_intText n, hholds⟩
    · simp only [encodePresent, hkind, strip_intText, readInteger?_intText, Option.elim_some]
  | bool =>
    obtain ⟨b, hread⟩ := (acceptsPresent_bool hkind).1 h
    simp only [encodePresent, hkind]
    generalize (readBool? (strip text)).getD false = b
    constructor
    · exact (acceptsPresent_bool hkind).2 ⟨b, readBool?_boolText b⟩
    · cases b <;> decide
  | timestamp =>
    obtain ⟨hplaces, hread⟩ := (acceptsPresent_timestamp hkind).1 h
    have hstrip : strip (blankForT (strip text)) = blankForT (strip text) :=
      strip_of_fillsPlaces (fillsPlaces_blankForT hplaces)
    simp only [encodePresent, hkind]
    constructor
    · rw [acceptsPresent_timestamp hkind, hstrip, blankForT_blankForT]
      exact ⟨fillsPlaces_blankForT hplaces, hread⟩
    · rw [hstrip, blankForT_blankForT]
  | real | date | time =>
    simp only [encodePresent, hkind]
    rw [acceptsPresent_strip (by simp [hkind])]
    exact ⟨h, strip_strip text⟩

theorem encode_eq_ok : encode type choices text = .ok stored ↔
    isNullText text = true ∧ stored = nullText ∨
      isNullText text = false ∧ acceptsPresent type choices text = true ∧ stored = encodePresent type text := by
  unfold encode
  cases isNullText text with
  | true =>
    simp only [if_true, Except.ok.injEq, true_and, reduceCtorEq, false_and, or_false]
    exact eq_comm
  | false =>
    cases acceptsPresent type choices text with
    | true =>
      simp only [if_true, Bool.false_eq_true, if_false, Except.ok.injEq, true_and, false_and, false_or]
      exact eq_comm
    | false => simp

/-- Integers are stored in the usual form. -/
theorem encode_integer (hkind : type.kind = .integer) (h : encode type choices text = .ok stored)
    (hnull : isNullText text = false) : isIntegerShape (strip text).toList = true ∧
      ∃ n, readInteger? (strip text) = some n ∧ type.holds n = true ∧ stored = intText n := by
  rcases encode_eq_ok.1 h with ⟨hnull', -⟩ | ⟨-, haccepts, rfl⟩
  · rw [hnull] at hnull'
    cases hnull'
  · obtain ⟨hshape, n, hread, hholds⟩ := (acceptsPresent_integer hkind).1 haccepts
    refine ⟨hshape, n, hread, hholds, ?_⟩
    simp only [encodePresent, hkind, hread, Option.elim_some]

/-- Truth values are stored as words. -/
theorem encode_bool (hkind : type.kind = .bool) (h : encode type choices text = .ok stored)
    (hnull : isNullText text = false) : ∃ b, readBool? text = some b ∧ stored = boolText b := by
  rcases encode_eq_ok.1 h with ⟨hnull', -⟩ | ⟨-, haccepts, rfl⟩
  · rw [hnull] at hnull'
    cases hnull'
  · obtain ⟨b, hread⟩ := (acceptsPresent_bool hkind).1 haccepts
    refine ⟨b, hread, ?_⟩
    have hstrip : readBool? (strip text) = some b := by rw [← hread, readBool?, readBool?, strip_strip]
    simp only [encodePresent, hkind, hstrip, Option.getD_some]

/-- What is stored is stored in the form that it has. -/
theorem encode_encode (h : encode type choices text = .ok stored) : encode type choices stored = .ok stored := by
  rcases encode_eq_ok.1 h with ⟨-, rfl⟩ | ⟨hnull, haccepts, rfl⟩
  · exact encode_eq_ok.2 (.inl ⟨isNullText_nullText, rfl⟩)
  · obtain ⟨haccepts', hsame⟩ := encodePresent_stable haccepts
    exact encode_eq_ok.2 (.inr ⟨isNullText_encodePresent haccepts hnull, haccepts', hsame.symm⟩)

end Present

end Relational
