import Relational.Proofs.Encoding
import Relational.Value

/-!
# Values of stored texts

A text that a type takes reads as a value other than NULL, and its stored form reads as the same value.
-/

namespace Relational

open Text Decimal

namespace Value

variable {type : DataType} {choices : List String} {text stored : String}

theorem readsAsNull_of_isNullText {kind : Kind} (h : isNullText text = false) : readsAsNull kind text = false := by
  rw [isNullText, Bool.or_eq_false_iff] at h
  unfold readsAsNull
  split
  · exact h.2
  · rw [isNullText, h.1, h.2]
    rfl

theorem ofText_of_isNullText (h : isNullText text = false) :
    ofText type text = ofData? type (readData? text type.kind) := by
  rw [ofText, if_neg]
  rw [readsAsNull_of_isNullText h]
  exact Bool.false_ne_true

theorem isNull_ofText_nullText (type : DataType) : (ofText type nullText).isNull = true := by
  have hreads : readsAsNull type.kind nullText = true := by cases type <;> decide
  rw [ofText, if_pos hreads]
  rfl

/-- The stored form of a text has the data of the text. -/
theorem readData?_encodePresent (h : acceptsPresent type choices text = true) {kind : Kind} (hkind : type.kind = kind) :
    readData? (encodePresent type text) kind = readData? text kind := by
  simp only [encodePresent, hkind]
  cases kind with
  | text => rfl
  | integer =>
    obtain ⟨-, n, hread, -⟩ := (acceptsPresent_integer hkind).1 h
    simp only [readData?, hread, Option.elim_some, strip_intText, readInteger?_intText]
  | bool =>
    obtain ⟨b, hread⟩ := (acceptsPresent_bool hkind).1 h
    have hstrip : readBool? (strip text) = some b := by
      rw [← hread, readBool?, readBool?, strip_strip]
    simp only [readData?, hread, hstrip, Option.getD_some, readBool?_boolText]
  | timestamp =>
    obtain ⟨hplaces, -⟩ := (acceptsPresent_timestamp hkind).1 h
    simp only [readData?, strip_of_fillsPlaces (fillsPlaces_blankForT hplaces), blankForT_blankForT]
  | real | date | time => simp only [readData?, strip_strip]

theorem exists_of_isOk {ε α : Type} {x : Except ε α} (h : x.isOk = true) : ∃ a, x = .ok a := by
  cases x with
  | ok a => exact ⟨a, rfl⟩
  | error e => cases h

theorem isSome_toOption {ε α : Type} {x : Except ε α} (h : x.isOk = true) : x.toOption.isSome = true := by
  obtain ⟨a, rfl⟩ := exists_of_isOk h
  rfl

/-- A text that the type takes has data of the type. -/
theorem isSome_readData? (h : acceptsPresent type choices text = true) {kind : Kind} (hkind : type.kind = kind) :
    (readData? text kind).isSome = true := by
  cases kind with
  | text => rfl
  | integer =>
    obtain ⟨-, n, hread, -⟩ := (acceptsPresent_integer hkind).1 h
    rw [readData?, Option.isSome_map, hread]
    rfl
  | real =>
    rw [readData?, Option.isSome_map, readFloat?, Option.isSome_map]
    exact isSome_readReal?_strip (acceptsPresent_real hkind h)
  | bool =>
    obtain ⟨b, hread⟩ := (acceptsPresent_bool hkind).1 h
    rw [readData?, Option.isSome_map, hread]
    rfl
  | date =>
    rw [readData?, Option.isSome_map]
    exact isSome_toOption ((acceptsPresent_date hkind).1 h).2
  | time =>
    rw [readData?, Option.isSome_map]
    exact isSome_toOption ((acceptsPresent_time hkind).1 h).2
  | timestamp =>
    rw [readData?, Option.isSome_map]
    exact isSome_toOption ((acceptsPresent_timestamp hkind).1 h).2

/-- A text that the type takes is a value other than NULL. -/
theorem isNull_ofText (hnull : isNullText text = false) (h : acceptsPresent type choices text = true) :
    (ofText type text).isNull = false := by
  rw [ofText_of_isNullText hnull, isNull, ofData?, Option.isNone_map]
  simpa using isSome_readData? h rfl

/-- The stored form of a text is the value that the text is; what means NULL is NULL. -/
theorem ofText_encode (h : encode type choices text = .ok stored) (hnull : isNullText text = false) :
    ofText type stored = ofText type text := by
  rcases encode_eq_ok.1 h with ⟨hnull', -⟩ | ⟨-, haccepts, rfl⟩
  · rw [hnull] at hnull'
    cases hnull'
  · rw [ofText_of_isNullText hnull, ofText_of_isNullText (isNullText_encodePresent haccepts hnull),
      readData?_encodePresent haccepts rfl]

/-- A stored form is a value of the type, is stored as it is, and has the data of the text it was made from, unless the
text means NULL. -/
theorem encode_keeps_payload (h : encode type choices text = .ok stored) :
    accepts type choices stored = true ∧ encode type choices stored = .ok stored ∧
      (isNullText text = false → isNullText stored = false ∧
        ∃ p, (ofText type text).payload = some p ∧ (ofText type stored).payload = some p) := by
  have hagain : encode type choices stored = .ok stored := encode_encode h
  refine ⟨?_, hagain, fun hnull => ⟨(isNullText_encode h).trans hnull, ?_⟩⟩
  · rw [accepts, Bool.or_eq_true]
    rcases encode_eq_ok.1 hagain with ⟨hnull, -⟩ | ⟨-, haccepts, -⟩
    · exact .inl hnull
    · exact .inr haccepts
  · rcases encode_eq_ok.1 h with ⟨hnull', -⟩ | ⟨-, haccepts, -⟩
    · rw [hnull] at hnull'
      cases hnull'
    · obtain ⟨p, hp⟩ := Option.isSome_iff_exists.1 (Option.isNone_eq_false_iff.1 (isNull_ofText hnull haccepts))
      exact ⟨p, hp, by rw [ofText_encode h hnull, hp]⟩

/-- An integer with a sign, zeros in front and blanks around it. -/
theorem seven_keeps_payload : encode .int [] " +007 " = .ok "7" ∧ isNullText " +007 " = false ∧
    accepts .int [] "7" = true ∧ encode .int [] "7" = .ok "7" ∧ isNullText "7" = false ∧
      ∃ p, (ofText .int " +007 ").payload = some p ∧ (ofText .int "7").payload = some p := by
  have h : encode .int [] " +007 " = .ok "7" := by decide +kernel
  have hpresent : isNullText " +007 " = false := by decide +kernel
  obtain ⟨haccepts, hagain, hpayload⟩ := encode_keeps_payload h
  exact ⟨h, hpresent, haccepts, hagain, hpayload hpresent⟩

end Value

end Relational
