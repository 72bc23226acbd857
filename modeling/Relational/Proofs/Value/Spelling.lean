import Relational.Proofs.Calendar.Places
import Relational.Proofs.Value

/-!
# Values written as they were stored

A stored text that is no real number is read as a value and written again. Integers, truth values and texts come back
as they were. A date or time comes back in digits of ASCII, and its year without zeros in front, so one comes back as it
was exactly if it was stored like that.
-/

namespace Relational

open Text Decimal Calendar

/-- A date or time is in ASCII, and its year does not start with a zero. -/
def SpelledPlainly (type : DataType) (text : String) : Prop :=
  match type.kind with
  | .date | .timestamp => IsPlain text ∧ text.toList.head? ≠ some '0'
  | .time => IsPlain text
  | .integer | .real | .text | .bool => True

instance (type : DataType) (text : String) : Decidable (SpelledPlainly type text) := by
  unfold SpelledPlainly
  split <;> infer_instance

namespace Value

variable {type : DataType} {choices : List String} {text stored : String}

/-- A value with data is written as the data. -/
theorem toText_ofText {kind : Kind} {p : Data kind} (hkind : type.kind = kind) (hnull : isNullText text = false)
    (hread : readData? text kind = some p) : (ofText type text).toText = payloadText p.val := by
  subst hkind
  rw [ofText_of_isNullText hnull, toText, ofData?, hread]
  rfl

theorem toText_of_integer (hkind : type.kind = .integer) (h : encode type choices text = .ok stored)
    (hpresent : isNullText text = false) : (ofText type stored).toText = stored := by
  obtain ⟨-, n, -, -, rfl⟩ := encode_integer hkind h hpresent
  have hread : readData? (intText n) .integer = some ⟨.integer n, rfl⟩ := by
    rw [readData?, strip_intText, readInteger?_intText, Option.map_some]
  rw [toText_ofText hkind (isNullText_intText n) hread]
  rfl

theorem toText_of_bool (hkind : type.kind = .bool) (h : encode type choices text = .ok stored)
    (hpresent : isNullText text = false) : (ofText type stored).toText = stored := by
  obtain ⟨b, -, rfl⟩ := encode_bool hkind h hpresent
  have hread : readData? (boolText b) .bool = some ⟨.bool b, rfl⟩ := by
    rw [readData?, readBool?_boolText, Option.map_some]
  rw [toText_ofText hkind (isNullText_boolText b) hread]
  rfl

theorem toText_date_iff (hkind : type.kind = .date) (hnull : isNullText stored = false)
    (haccepts : acceptsPresent type choices stored = true) (hsame : encodePresent type stored = stored) :
    (ofText type stored).toText = stored ↔ IsPlain stored ∧ stored.toList.head? ≠ some '0' := by
  have hstrip : strip stored = stored := by simpa only [encodePresent, hkind] using hsame
  obtain ⟨hplaces, hread⟩ := (acceptsPresent_date hkind).1 haccepts
  rw [hstrip] at hplaces hread
  obtain ⟨d, hd⟩ := exists_of_isOk hread
  have hdata : readData? stored .date = some ⟨.date d, rfl⟩ := by
    rw [readData?, hstrip, hd]
    rfl
  rw [toText_ofText hkind hnull hdata]
  exact Date.text_eq_iff hplaces hd

theorem toText_time_iff (hkind : type.kind = .time) (hnull : isNullText stored = false)
    (haccepts : acceptsPresent type choices stored = true) (hsame : encodePresent type stored = stored) :
    (ofText type stored).toText = stored ↔ IsPlain stored := by
  have hstrip : strip stored = stored := by simpa only [encodePresent, hkind] using hsame
  obtain ⟨hplaces, hread⟩ := (acceptsPresent_time hkind).1 haccepts
  rw [hstrip] at hplaces hread
  obtain ⟨t, ht⟩ := exists_of_isOk hread
  have hdata : readData? stored .time = some ⟨.time t, rfl⟩ := by
    rw [readData?, hstrip, ht]
    rfl
  rw [toText_ofText hkind hnull hdata]
  exact TimeOfDay.text_eq_iff hplaces ht

theorem toText_timestamp_iff (hkind : type.kind = .timestamp) (hnull : isNullText stored = false)
    (haccepts : acceptsPresent type choices stored = true) (hsame : encodePresent type stored = stored) :
    (ofText type stored).toText = stored ↔ IsPlain stored ∧ stored.toList.head? ≠ some '0' := by
  obtain ⟨hplaces, hread⟩ := (acceptsPresent_timestamp hkind).1 haccepts
  -- a stored moment has a blank in the middle
  have hblank : blankForT (strip stored) = stored := by simpa only [encodePresent, hkind] using hsame
  have hfills := fillsPlaces_blankForT hplaces
  rw [hblank] at hfills hread
  obtain ⟨t, ht⟩ := exists_of_isOk hread
  have hdata : readData? stored .timestamp = some ⟨.timestamp t, rfl⟩ := by
    rw [readData?, hblank, ht]
    rfl
  rw [toText_ofText hkind hnull hdata]
  exact Timestamp.text_eq_iff hfills ht

/-- A stored text that is no real number is written as it is exactly if it is spelled plainly. -/
theorem toText_stored_iff (hreal : type.kind ≠ .real) (h : encode type choices text = .ok stored)
    (hpresent : isNullText text = false) : (ofText type stored).toText = stored ↔ SpelledPlainly type stored := by
  have hnull : isNullText stored = false := (isNullText_encode h).trans hpresent
  obtain ⟨haccepts, hsame⟩ : acceptsPresent type choices stored = true ∧ encodePresent type stored = stored := by
    rcases encode_eq_ok.1 (encode_encode h) with ⟨hnull', -⟩ | ⟨-, haccepts, hsame⟩
    · rw [hnull] at hnull'
      cases hnull'
    · exact ⟨haccepts, hsame.symm⟩
  unfold SpelledPlainly
  cases hkind : type.kind with
  | real => exact absurd hkind hreal
  | text =>
    rw [toText_ofText hkind hnull rfl]
    exact iff_of_true rfl trivial
  | integer => exact iff_of_true (toText_of_integer hkind h hpresent) trivial
  | bool => exact iff_of_true (toText_of_bool hkind h hpresent) trivial
  | date => exact toText_date_iff hkind hnull haccepts hsame
  | time => exact toText_time_iff hkind hnull haccepts hsame
  | timestamp => exact toText_timestamp_iff hkind hnull haccepts hsame

end Value

end Relational
