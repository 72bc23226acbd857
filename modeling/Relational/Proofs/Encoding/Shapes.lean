import Relational.Encoding
import Relational.Proofs.Decimal.Reading

/-!
# Shapes of stored texts

The texts that are stored for integers, truth values and moments have the shape that their types ask for, and every
text in the shape of a real number reads as one.
-/

namespace Relational

open Text Decimal

/-! ## Numbers -/

theorem spanSign_snd (cs : List Char) : (spanSign cs).2 = dropSign cs := by
  unfold spanSign
  split
  · rfl
  · rfl
  · rename_i hminus hplus
    cases cs with
    | nil => rfl
    | cons c cs =>
      have hsign : ¬ (decide (c = '+') || decide (c = '-')) = true := by
        simp only [Bool.or_eq_true, decide_eq_true_eq, not_or]
        exact ⟨fun h => hplus cs (by rw [h]), fun h => hminus cs (by rw [h])⟩
      rw [dropSign, if_neg hsign]

theorem isIntegerShape_intText (n : Int) : isIntegerShape (intText n).toList = true := by
  have hshape : dropSign (intText n).toList = natDigits n.natAbs := by
    rw [← spanSign_snd, toList_intText]
    split
    · rfl
    · rw [spanSign_natDigits]
  rw [isIntegerShape, hshape, isDigits, Bool.and_eq_true, List.all_eq_true]
  exact ⟨by simpa using natDigits_ne_nil _, fun _ hc => isDecimalDigit_of_mem_natDigits hc⟩

/-- The digits of a text without anything else in it. -/
theorem spanDigits_of_isDigits {cs : List Char} (h : isDigits cs = true) :
    spanDigits cs = (cs.filterMap digitValue?, []) ∧ cs.filterMap digitValue? ≠ [] := by
  rw [isDigits, Bool.and_eq_true, List.all_eq_true] at h
  obtain ⟨hne, hdigits⟩ := h
  constructor
  · rw [spanDigits]
    nth_rewrite 1 [← List.append_nil cs]
    exact spanDigitsFrom_append hdigits (by simp) false
  · cases cs with
    | nil => simp at hne
    | cons c cs =>
      obtain ⟨d, hd⟩ := Option.isSome_iff_exists.1 (hdigits c (by simp))
      rw [List.filterMap_cons_some hd]
      exact List.cons_ne_nil _ _

theorem isSome_readExponent? {cs : List Char} (hmark : ∀ c ∈ cs.head?, c = 'e' ∨ c = 'E')
    (h : isExponent cs = true) : (readExponent? cs).isSome = true := by
  cases cs with
  | nil => rfl
  | cons c cs =>
    have hc : (decide (c = 'e') || decide (c = 'E')) = true := by simpa using hmark c rfl
    obtain ⟨hspan, hne⟩ : spanDigits (dropSign cs) = ((dropSign cs).filterMap digitValue?, []) ∧
        (dropSign cs).filterMap digitValue? ≠ [] := spanDigits_of_isDigits h
    rw [← spanSign_snd] at hspan hne
    rw [readExponent?, if_pos hc]
    generalize List.filterMap digitValue? (spanSign cs).2 = values at hspan hne
    cases values with
    | nil => exact absurd rfl hne
    | cons d ds =>
      dsimp only
      rw [hspan]
      rfl

/-- A mantissa with a digit in it, and the mark of an exponent or nothing after it. -/
theorem isSome_readFinite? {mantissa exponent : List Char} (hmantissa : isPointed mantissa = true)
    (hmark : ∀ c ∈ exponent.head?, c = 'e' ∨ c = 'E') (hexponent : isExponent exponent = true) (negative : Bool) :
    (readFinite? negative (mantissa ++ exponent)).isSome = true := by
  have hread := isSome_readExponent? hmark hexponent
  have hends : ∀ c ∈ exponent.head?, isDecimalDigit c = false ∧ c ≠ '_' := by
    intro c hc
    rcases hmark c hc with rfl | rfl <;> decide
  have hvalues : ∀ {digits : List Char}, (∀ c ∈ digits, isDecimalDigit c = true) →
      (digits.filterMap digitValue?).isEmpty = digits.isEmpty := by
    intro digits hdigits
    cases digits with
    | nil => rfl
    | cons c digits =>
      obtain ⟨d, hd⟩ := Option.isSome_iff_exists.1 (hdigits c (by simp))
      rw [List.filterMap_cons_some hd]
      rfl
  have hwhole : ∀ c ∈ mantissa.takeWhile isDecimalDigit, isDecimalDigit c = true :=
    fun c hc => List.mem_takeWhile_imp hc
  have hsplit := List.takeWhile_append_dropWhile (p := isDecimalDigit) (l := mantissa)
  unfold isPointed at hmantissa
  generalize mantissa.takeWhile isDecimalDigit = whole at hwhole hsplit hmantissa
  generalize mantissa.dropWhile isDecimalDigit = rest at hsplit hmantissa
  subst hsplit
  dsimp only at hmantissa
  split at hmantissa
  · -- no point
    rw [Bool.not_eq_true'] at hmantissa
    have hspan := spanDigitsFrom_append hwhole hends false
    rw [List.append_nil, readFinite?, spanDigits, hspan]
    dsimp only
    have hpoint : ∀ rest, exponent ≠ '.' :: rest := by
      rintro rest rfl
      rcases hmark '.' rfl with h | h <;> revert h <;> decide
    split
    · exact absurd rfl (hpoint _)
    · simp [hvalues hwhole, hmantissa, hread]
  · rename_i fraction
    rw [Bool.and_eq_true, List.all_eq_true] at hmantissa
    obtain ⟨hfraction, hne⟩ := hmantissa
    have hspan : spanDigits (whole ++ '.' :: (fraction ++ exponent))
        = (whole.filterMap digitValue?, '.' :: (fraction ++ exponent)) :=
      spanDigitsFrom_append hwhole (by rintro c ⟨⟩; decide) false
    have hspan' : spanDigits (fraction ++ exponent) = (fraction.filterMap digitValue?, exponent) :=
      spanDigitsFrom_append hfraction hends false
    rw [List.append_assoc, List.cons_append]
    simp only [readFinite?, hspan, hspan', hvalues hwhole, hvalues hfraction]
    rw [if_neg (by simpa only [Bool.not_eq_true', Bool.not_eq_true] using hne), Option.isSome_map]
    exact hread
  · cases hmantissa

theorem exponentMark_of_mem_head? {cs : List Char} {c : Char}
    (h : c ∈ (cs.dropWhile (fun c => c != 'e' && c != 'E')).head?) : c = 'e' ∨ c = 'E' := by
  have hnot := List.head?_dropWhile_not (fun c => c != 'e' && c != 'E') cs
  rw [Option.mem_def.1 h] at hnot
  simpa only [Bool.and_eq_false_iff, bne_eq_false_iff_eq] using hnot

/-- There is no white space around a stripped text. -/
theorem trimWhile_isMargin_strip (text : String) : trimWhile isMargin (strip text).toList = (strip text).toList := by
  rw [strip, String.toList_ofList]
  exact trimWhile_of_imp isBlank_of_isMargin _

theorem isSome_readReal?_strip {text : String} (h : isFloatingShape (strip text).toList = true) :
    (readReal? (strip text)).isSome = true := by
  unfold isFloatingShape splitExponent at h
  rw [Bool.and_eq_true] at h
  have hsplit := List.takeWhile_append_dropWhile (p := fun c => c != 'e' && c != 'E')
    (l := dropSign (strip text).toList)
  unfold readReal?
  rw [trimWhile_isMargin_strip]
  dsimp only
  split
  · rfl
  · rfl
  · rfl
  · rw [spanSign_snd, ← hsplit]
    exact isSome_readFinite? h.1 (fun c hc => exponentMark_of_mem_head? hc) h.2 _

theorem mem_of_isPointed {cs : List Char} (h : isPointed cs = true) {c : Char} (hc : c ∈ cs) :
    isDecimalDigit c = true ∨ c = '.' := by
  rw [← List.takeWhile_append_dropWhile (p := isDecimalDigit) (l := cs)] at hc
  unfold isPointed at h
  dsimp only at h
  rcases List.mem_append.1 hc with hc | hc
  · exact .inl (List.mem_takeWhile_imp hc)
  · split at h
    · rename_i hrest
      rw [hrest] at hc
      cases hc
    · rename_i fraction hrest
      rw [Bool.and_eq_true, List.all_eq_true] at h
      rw [hrest] at hc
      rcases List.mem_cons.1 hc with rfl | hc
      · exact .inr rfl
      · exact .inl (h.1 c hc)
    · cases h

theorem isFloatingShape_of_isDecimalShape {cs : List Char} (h : isDecimalShape cs = true) :
    isFloatingShape cs = true := by
  have hchars : ∀ c ∈ dropSign cs, (c != 'e' && c != 'E') = true := by
    intro c hc
    rw [Bool.and_eq_true, bne_iff_ne, bne_iff_ne]
    constructor
    all_goals
      rintro rfl
      rcases mem_of_isPointed h hc with hdigit | hpoint
      · exact absurd hdigit (by decide)
      · exact absurd hpoint (by decide)
  have hmantissa : (dropSign cs).takeWhile (fun c => c != 'e' && c != 'E') = dropSign cs :=
    List.takeWhile_eq_self_iff.2 hchars
  have hexponent : (dropSign cs).dropWhile (fun c => c != 'e' && c != 'E') = [] :=
    List.dropWhile_eq_nil_iff.2 hchars
  unfold isFloatingShape splitExponent
  dsimp only
  rw [hmantissa, hexponent, Bool.and_eq_true]
  exact ⟨h, rfl⟩

/-- A decimal number without an exponent is read as a finite number. -/
theorem finite_of_isDecimalShape {text : String} (h : isDecimalShape (strip text).toList = true) :
    ∃ negative c e, readReal? (strip text) = some (.finite negative c e) := by
  have hword : ∀ c ∈ (spanSign (trimWhile isMargin (strip text).toList)).2, c.toLower ≠ 'n' := by
    rw [trimWhile_isMargin_strip, spanSign_snd]
    intro c hc hn
    rcases mem_of_isPointed h hc with hdigit | rfl
    · rcases eq_of_toLower_n hn with rfl | rfl <;> exact absurd hdigit (by decide)
    · exact absurd hn (by decide)
  obtain ⟨numeral, hread⟩ :=
    Option.isSome_iff_exists.1 (isSome_readReal?_strip (isFloatingShape_of_isDecimalShape h))
  obtain ⟨c, e, rfl⟩ := finite_of_readFinite? ((readReal?_eq_readFinite? hword).symm.trans hread)
  exact ⟨_, c, e, hread⟩

/-! ## Truth values -/

theorem readBool?_boolText (b : Bool) : readBool? (boolText b) = some b := by
  cases b <;> decide

/-- The words for truth values. -/
theorem word_of_readBool? {text : String} {b : Bool} (h : readBool? text = some b) :
    upper (strip text) = boolText b ∨ upper (strip text) = if b then "1" else "0" := by
  simp only [readBool?, Bool.or_eq_true, beq_iff_eq] at h
  split at h
  · cases h
    assumption
  · split at h
    · cases h
      assumption
    · cases h

/-! ## Dates and times -/

theorem fillsPlaces_cons {place : Char → Bool} {places : List (Char → Bool)} {cs : List Char} :
    fillsPlaces (place :: places) cs = true ↔
      ∃ c rest, cs = c :: rest ∧ place c = true ∧ fillsPlaces places rest = true := by
  cases cs with
  | nil => simp [fillsPlaces]
  | cons c cs => simp [fillsPlaces]

/-- Every character stands at a place that takes it. -/
theorem exists_place_of_fillsPlaces {places : List (Char → Bool)} {cs : List Char} (h : fillsPlaces places cs = true)
    {c : Char} (hc : c ∈ cs) : ∃ place ∈ places, place c = true := by
  induction places generalizing cs with
  | nil =>
    cases cs with
    | nil => cases hc
    | cons d cs => cases h
  | cons place places ih =>
    obtain ⟨d, rest, rfl, hd, hrest⟩ := fillsPlaces_cons.1 h
    rcases List.mem_cons.1 hc with rfl | hc
    · exact ⟨place, .head _, hd⟩
    · obtain ⟨other, hother, htakes⟩ := ih hrest hc
      exact ⟨other, .tail _ hother, htakes⟩

/-- Every place has a character that it takes. -/
theorem exists_char_of_fillsPlaces {places : List (Char → Bool)} {cs : List Char} (h : fillsPlaces places cs = true)
    {i : Nat} {place : Char → Bool} (hplace : places[i]? = some place) : ∃ c, cs[i]? = some c ∧ place c = true := by
  induction places generalizing cs i with
  | nil => cases hplace
  | cons first places ih =>
    obtain ⟨c, rest, rfl, hc, hrest⟩ := fillsPlaces_cons.1 h
    cases i with
    | zero =>
      cases hplace
      exact ⟨c, rfl, hc⟩
    | succ i => exact ih hrest hplace

theorem fillsPlaces_concat {places : List (Char → Bool)} {last : Char → Bool} {cs : List Char}
    (h : fillsPlaces (places ++ [last]) cs = true) : ∃ before c, cs = before ++ [c] ∧ last c = true := by
  induction places generalizing cs with
  | nil =>
    obtain ⟨c, rest, rfl, hc, hrest⟩ := fillsPlaces_cons.1 h
    cases rest with
    | nil => exact ⟨[], c, rfl, hc⟩
    | cons d rest => cases hrest
  | cons place places ih =>
    obtain ⟨c, rest, rfl, -, hrest⟩ := fillsPlaces_cons.1 h
    obtain ⟨before, d, rfl, hd⟩ := ih hrest
    exact ⟨c :: before, d, rfl, hd⟩

/-- Characters may change where their places take the new ones. -/
theorem fillsPlaces_map {f : Char → Char} {places : List (Char → Bool)} {cs : List Char}
    (hf : ∀ place ∈ places, ∀ c, place c = true → place (f c) = true) (h : fillsPlaces places cs = true) :
    fillsPlaces places (cs.map f) = true := by
  induction places generalizing cs with
  | nil =>
    cases cs with
    | nil => rfl
    | cons c cs => cases h
  | cons place places ih =>
    rw [List.forall_mem_cons] at hf
    obtain ⟨c, rest, rfl, hc, hrest⟩ := fillsPlaces_cons.1 h
    rw [List.map_cons, fillsPlaces, Bool.and_eq_true]
    exact ⟨hf.1 c hc, ih hf.2 hrest⟩

/-- A blank for `T`. -/
def untee (c : Char) : Char :=
  if c = 'T' then ' ' else c

theorem toList_blankForT (text : String) : (blankForT text).toList = text.toList.map untee :=
  String.toList_ofList

theorem blankForT_blankForT (text : String) : blankForT (blankForT text) = blankForT text := by
  have huntee : untee ∘ untee = untee := by
    funext c
    unfold untee
    rw [Function.comp_apply]
    split
    · decide
    · rfl
  rw [← String.toList_inj, toList_blankForT, toList_blankForT, List.map_map, huntee]

theorem timestampPlaces_untee : ∀ place ∈ timestampPlaces, ∀ c, place c = true → place (untee c) = true := by
  have hdigit : ∀ c, isDecimalDigit c = true → isDecimalDigit (untee c) = true := by
    intro c hc
    rw [untee, if_neg]
    · exact hc
    · rintro rfl
      revert hc
      decide
  have hmark : ∀ m : Char, m ≠ 'T' → ∀ c, (c == m) = true → (untee c == m) = true := by
    intro m hm c hc
    rw [beq_iff_eq] at hc
    rw [hc, untee, if_neg hm, beq_self_eq_true]
  have hblank : ∀ c, (c == ' ' || c == 'T') = true → (untee c == ' ' || untee c == 'T') = true := by
    intro c hc
    simp only [Bool.or_eq_true, beq_iff_eq] at hc
    rcases hc with rfl | rfl <;> decide
  simp only [timestampPlaces, datePlaces, timePlaces, List.cons_append, List.nil_append, List.forall_mem_cons]
  exact ⟨hdigit, hdigit, hdigit, hdigit, hmark _ (by decide), hdigit, hdigit, hmark _ (by decide), hdigit, hdigit,
    hblank, hdigit, hdigit, hmark _ (by decide), hdigit, hdigit, hmark _ (by decide), hdigit, hdigit, by simp⟩

theorem fillsPlaces_blankForT {text : String} (h : fillsPlaces timestampPlaces text.toList = true) :
    fillsPlaces timestampPlaces (blankForT text).toList = true := by
  rw [toList_blankForT]
  exact fillsPlaces_map timestampPlaces_untee h

/-- A moment starts and ends with a digit, so nothing of it is trimmed. -/
theorem strip_of_fillsPlaces {text : String} (h : fillsPlaces timestampPlaces text.toList = true) :
    strip text = text := by
  obtain ⟨c, rest, htext, hc, hrest⟩ := fillsPlaces_cons.1 h
  -- the last place is that of a digit too
  have hlast : fillsPlaces (datePlaces.tail ++ (fun c => c == ' ' || c == 'T') :: timePlaces.dropLast
      ++ [isDecimalDigit]) rest = true := hrest
  obtain ⟨before, d, rfl, hd⟩ := fillsPlaces_concat hlast
  rw [strip, stripChars, htext, trimWhile_eq_self_of_ends (isBlank_of_isDecimalDigit hc) (isBlank_of_isDecimalDigit hd),
    ← htext, String.ofList_toList]

end Relational
