import Relational.Proofs.Calendar.Places
import Relational.Proofs.Equality

/-!
# Casts to integers

A value is cast to an integer type by reading its text, and its reading as an integer goes by its data. Both agree: an
integer reads back from its text, a text reads as an integer or does not, and no day or time is written like an
integer. Only a truth value differs: it counts as zero or one, but its text is a word, so that the cast gives NULL.
-/

namespace Relational

open Text Decimal

/-! ## Texts that are no integers -/

/-- A text with a character that is in no integer and is not white space. -/
theorem readInteger?_eq_none_of_mem {text : String} {c : Char} (hc : c ∈ text.toList) (hblank : isBlank c = false)
    (hother : ¬ InNumeral c) : readInteger? (strip text) = none := by
  rw [Option.eq_none_iff_forall_ne_some]
  intro n hn
  have hchars := chars_of_readInteger? hn
  rw [strip_strip] at hchars
  exact hother (hchars.all c (mem_strip hc hblank))

/-- A text with a dash behind a digit. -/
theorem readInteger?_eq_none_of_dash {text : String} {digit : Char} {before after : List Char}
    (htext : text.toList = digit :: before ++ '-' :: after) (hdigit : isDecimalDigit digit = true) :
    readInteger? (strip text) = none := by
  rw [Option.eq_none_iff_forall_ne_some]
  intro n hn
  have hchars := chars_of_readInteger? hn
  rw [strip_strip] at hchars
  have hblank : isBlank digit = false := isBlank_of_isDecimalDigit hdigit
  have hmem : '-' ∈ (strip text).toList.tail := by
    obtain ⟨front, back, hfront, hback, hsplit⟩ := exists_trimWhile isBlank text.toList
    rw [strip, String.toList_ofList, stripChars]
    generalize trimWhile isBlank text.toList = cs at hsplit ⊢
    rw [htext, List.append_assoc] at hsplit
    -- the digit stands in front of the blanks at the end, and so does the dash
    cases front with
    | cons c front =>
      obtain ⟨rfl, -⟩ := List.cons.inj hsplit
      rw [hfront digit (.head _)] at hblank
      cases hblank
    | nil =>
      cases cs with
      | nil =>
        have hdigit : digit ∈ [] ++ ([] ++ back) := hsplit ▸ List.mem_cons_self
        rw [hback digit hdigit] at hblank
        cases hblank
      | cons c cs =>
        have hrest : before ++ '-' :: after = cs ++ back := (List.cons.inj hsplit).2
        have hdash : '-' ∈ cs ++ back := hrest ▸ List.mem_append_right _ (.head _)
        refine (List.mem_append.1 hdash).resolve_right fun h => ?_
        exact absurd (hback '-' h) (by decide)
  rcases hchars.tail '-' hmem with h | h <;> exact absurd h (by decide)

theorem readInteger?_date (d : Date) : readInteger? (strip d.text) = none := by
  obtain ⟨digit, digits, hdigits⟩ := List.exists_cons_of_ne_nil (natDigits_ne_nil d.year)
  have hdash : "-".toList = ['-'] := rfl
  have htext : d.text.toList =
      digit :: digits ++ '-' :: ((paddedText 2 d.month).toList ++ '-' :: (paddedText 2 d.day).toList) := by
    simp only [Date.text, natText, String.toList_append, String.toList_ofList, hdigits, hdash, List.append_assoc,
      List.cons_append, List.nil_append]
  have hdigit : isDecimalDigit digit = true :=
    isDecimalDigit_of_mem_natDigits (n := d.year) (hdigits ▸ List.mem_cons_self)
  exact readInteger?_eq_none_of_dash htext hdigit

theorem not_inNumeral_colon : ¬ InNumeral ':' := by
  unfold InNumeral
  decide

theorem colon_mem_time (t : TimeOfDay) : ':' ∈ t.text.toList := by
  simp [TimeOfDay.text]

theorem readInteger?_time (t : TimeOfDay) : readInteger? (strip t.text) = none :=
  readInteger?_eq_none_of_mem (colon_mem_time t) (by decide) not_inNumeral_colon

theorem readInteger?_timestamp (t : Timestamp) : readInteger? (strip t.text) = none := by
  refine readInteger?_eq_none_of_mem (c := ':') ?_ (by decide) not_inNumeral_colon
  rw [Timestamp.text, String.toList_append]
  exact List.mem_append_right _ (colon_mem_time t.time)

theorem readInteger?_boolText (b : Bool) : readInteger? (strip (boolText b)) = none := by
  revert b
  decide +kernel

namespace Value

variable {v : Value} {p : Payload} {target : DataType}

/-- The text of a value other than a truth value or a real number reads as the integer that the value does. -/
theorem toInteger?_eq (hp : v.payload = some p) (hreal : p.kind ≠ .real) (hbool : p.kind ≠ .bool) :
    v.toInteger? = .ok (readInteger? (strip v.toText)) := by
  rw [toInteger?, toText, hp]
  dsimp only [Option.elim_some]
  cases p with
  | integer n => rw [payloadText, strip_intText, readInteger?_intText]
  | real x => exact absurd rfl hreal
  | text s => rfl
  | bool b => exact absurd rfl hbool
  | date d => rw [payloadText, readInteger?_date]
  | time t => rw [payloadText, readInteger?_time]
  | timestamp t => rw [payloadText, readInteger?_timestamp]

/-- A text read as a value of an integer type. -/
theorem payload_ofText_integer (hkind : target.kind = .integer) (text : String) :
    (ofText target text).payload = (readInteger? (strip text)).map .integer := by
  cases hnull : isNullText text with
  | false =>
    rw [payload_ofText hkind hnull, readData?, Option.map_map]
    rfl
  | true =>
    have hread : readInteger? (strip text) = none := by
      rw [Option.eq_none_iff_forall_ne_some]
      intro n hn
      rw [← isNullText_strip, isNullText_of_readInteger? hn] at hnull
      cases hnull
    have hnone : readsAsNull target.kind text = true := by
      rw [hkind]
      exact hnull
    rw [hread, ofText, if_pos hnone]
    rfl

/-- A cast to another type, to integers. -/
theorem convert_eq_ofText (hp : v.payload = some p) (hreal : p.kind ≠ .real) (hkind : target.kind = .integer)
    (hne : target ≠ v.type) (hcast : v.type.casts target = true) :
    v.convert target = .ok (ofText target v.toText) := by
  rw [convert, if_neg (by simpa using hne), if_neg (by simp [hcast]), hp, hkind]
  cases p with
  | real x => exact absurd rfl hreal
  | _ => rfl

/-- A truth value counts as zero or one, but its text is no integer. -/
theorem convert_bool {b : Bool} (hp : v.payload = some (.bool b)) (hkind : target.kind = .integer)
    (hcast : v.type.casts target = true) :
    v.toInteger? = .ok (some (if b then 1 else 0)) ∧
      ∃ w, v.convert target = .ok w ∧ w.type = target ∧ w.isNull = true := by
  have hne : target ≠ v.type := by
    rintro rfl
    have hfits := v.fits _ hp
    rw [hkind] at hfits
    cases hfits
  have htext : v.toText = boolText b := by
    rw [toText, hp]
    rfl
  refine ⟨by rw [toInteger?, hp], ofText target v.toText,
    convert_eq_ofText hp Kind.noConfusion hkind hne hcast, type_ofText _ _, ?_⟩
  rw [isNull, payload_ofText_integer hkind, htext, readInteger?_boolText]
  rfl

/-- Any other value is cast to the integer that its text reads as. -/
theorem convert_other (hp : v.payload = some p) (hreal : p.kind ≠ .real) (hkind : target.kind = .integer)
    (hcast : v.type.casts target = true) (hbool : p.kind ≠ .bool) :
    ∃ w, v.convert target = .ok w ∧ w.type = target ∧ w.payload = (readInteger? (strip v.toText)).map .integer := by
  by_cases hsame : target = v.type
  · refine ⟨v, by rw [convert, if_pos (by simpa using hsame)], hsame.symm, ?_⟩
    have hinteger : p.kind = .integer := by rw [v.fits p hp, ← hsame, hkind]
    cases p with
    | integer n =>
      rw [toText, hp, Option.elim_some, payloadText, strip_intText, readInteger?_intText]
      rfl
    | _ => cases hinteger
  · exact ⟨ofText target v.toText, convert_eq_ofText hp hreal hkind hsame hcast, type_ofText _ _,
      payload_ofText_integer hkind _⟩

/-- The cast of a present value other than a real number to an integer type succeeds. It gives the integer that the
value reads as, or NULL if it reads as none, unless the value is a truth value: that is cast to NULL. -/
theorem convert_integer_iff (hpresent : v.isNull = false) (hexact : v.kind? ≠ some .real)
    (htarget : target.isInteger = true) (hcast : v.type.casts target = true) :
    ∃ n? w, v.toInteger? = .ok n? ∧ v.convert target = .ok w ∧ w.type = target ∧
      (w.payload = n?.map .integer ↔ v.kind? ≠ some .bool) ∧ (v.kind? = some .bool → w.isNull = true) := by
  obtain ⟨p, hp⟩ := Option.isSome_iff_exists.1 (Option.isNone_eq_false_iff.1 hpresent)
  have hkind : target.kind = .integer := DataType.isInteger_iff.1 htarget
  have hv : v.kind? = some p.kind := by rw [kind?, hp, Option.map_some]
  rw [hv, ne_eq, Option.some_inj] at hexact
  rw [hv, Option.some_inj, ne_eq, Option.some_inj]
  by_cases hbool : p.kind = .bool
  · cases p with
    | bool b =>
      obtain ⟨hinteger, w, hw, htype, hnull⟩ := convert_bool hp hkind hcast
      refine ⟨_, w, hinteger, hw, htype, iff_of_false ?_ (not_not_intro hbool), fun _ => hnull⟩
      rw [isNull, Option.isNone_iff_eq_none] at hnull
      simp [hnull]
    | _ => cases hbool
  · obtain ⟨w, hw, htype, hpayload⟩ := convert_other hp hexact hkind hcast hbool
    exact ⟨_, w, toInteger?_eq hp hexact hbool, hw, htype, iff_of_true hpayload hbool, fun h => absurd h hbool⟩

/-- A number with blanks around it, as a text. -/
theorem padded_number_cast :
    ∃ n? w, (ofString " 12 ").toInteger? = .ok n? ∧ (ofString " 12 ").convert .int = .ok w ∧ w.type = .int ∧
      (w.payload = n?.map .integer ↔ (ofString " 12 ").kind? ≠ some .bool) ∧
      ((ofString " 12 ").kind? = some .bool → w.isNull = true) :=
  convert_integer_iff rfl (by decide) rfl (by decide)

/-- True counts as one, and is cast to NULL. -/
theorem truth_cast_to_null :
    (ofBool? (some true)).type.casts .int = true ∧ (ofBool? (some true)).toInteger? = .ok (some 1) ∧
      ∃ w, (ofBool? (some true)).convert .int = .ok w ∧ w.payload = none :=
  ⟨rfl, rfl, null .int, rfl, rfl⟩

end Value

end Relational
