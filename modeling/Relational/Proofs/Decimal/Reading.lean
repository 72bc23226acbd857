import Relational.Decimal.Binary
import Relational.Proofs.Decimal
import Relational.Proofs.Text.Blank
import Relational.Proofs.Text.Letter

/-!
# Reading numerals

The text of an integer reads back as the integer. Every text that reads as an integer is made of digits, single
underscores and a sign, so nothing but the white space around it is lost when it is stripped, and it has no other
upper case. Every text that reads as a real number has a digit or an N in it.
-/

namespace Relational.Decimal

open Text

/-! ## Digits -/

/-- The characters before the rest are digits and underscores, and the digits are the values found. -/
theorem spanDigitsFrom_split (inside : Bool) (cs : List Char) : ∃ before,
    cs = before ++ (spanDigitsFrom inside cs).2 ∧ (∀ c ∈ before, isDecimalDigit c = true ∨ c = '_') ∧
      (spanDigitsFrom inside cs).1 = before.filterMap digitValue? := by
  induction cs generalizing inside with
  | nil => exact ⟨[], rfl, by simp, rfl⟩
  | cons c cs ih =>
    rw [spanDigitsFrom]
    cases hvalue : digitValue? c with
    | some d =>
      obtain ⟨before, hcs, hchars, hvalues⟩ := ih true
      refine ⟨c :: before, by rw [List.cons_append, ← hcs], ?_, ?_⟩
      · rw [List.forall_mem_cons]
        exact ⟨.inl (by rw [isDecimalDigit, hvalue]; rfl), hchars⟩
      · rw [List.filterMap_cons_some hvalue, ← hvalues]
    | none =>
      dsimp only
      split
      · rename_i hunderscore
        obtain ⟨before, hcs, hchars, hvalues⟩ := ih false
        simp only [Bool.and_eq_true, beq_iff_eq] at hunderscore
        refine ⟨c :: before, by rw [List.cons_append, ← hcs], ?_, ?_⟩
        · rw [List.forall_mem_cons]
          exact ⟨.inr hunderscore.1.2, hchars⟩
        · rw [List.filterMap_cons_none hvalue, ← hvalues]
      · exact ⟨[], rfl, by simp, rfl⟩

/-- Digits are read up to a character that is neither a digit nor an underscore. -/
theorem spanDigitsFrom_append {digits rest : List Char} (hdigits : ∀ c ∈ digits, isDecimalDigit c = true)
    (hrest : ∀ c ∈ rest.head?, isDecimalDigit c = false ∧ c ≠ '_') (inside : Bool) :
    spanDigitsFrom inside (digits ++ rest) = (digits.filterMap digitValue?, rest) := by
  induction digits generalizing inside with
  | nil =>
    cases rest with
    | nil => rfl
    | cons c rest =>
      obtain ⟨hdigit, hunderscore⟩ := hrest c rfl
      have hvalue : digitValue? c = none := by simpa [isDecimalDigit] using hdigit
      simp [spanDigitsFrom, hvalue, hunderscore]
  | cons c digits ih =>
    rw [List.forall_mem_cons] at hdigits
    obtain ⟨d, hvalue⟩ := Option.isSome_iff_exists.1 hdigits.1
    rw [List.cons_append, spanDigitsFrom, hvalue]
    dsimp only
    rw [ih hdigits.2, List.filterMap_cons_some hvalue]

theorem filterMap_digitValue?_natDigits (n : Nat) :
    (natDigits n).filterMap digitValue? = (natDigits n).map fun c => c.toNat - '0'.toNat := by
  rw [← List.filterMap_eq_map]
  apply List.filterMap_congr
  intro c hc
  have hdigit := isDigit_of_mem_natDigits hc
  have hascii : c.toNat < 0x80 := by
    simp only [Char.isDigit, Bool.and_eq_true, decide_eq_true_eq] at hdigit
    have : c.toNat ≤ 57 := hdigit.2
    omega
  rw [digitValue?, if_pos hascii, if_pos hdigit]
  rfl

/-! ## Integers -/

/-- The characters of an integer. -/
def InNumeral (c : Char) : Prop :=
  isDecimalDigit c = true ∨ c = '_' ∨ c = '-' ∨ c = '+'

theorem InNumeral.isBlank {c : Char} (h : InNumeral c) : isBlank c = false := by
  rcases h with h | rfl | rfl | rfl
  · exact isBlank_of_isDecimalDigit h
  all_goals decide

theorem InNumeral.upperChar {c : Char} (h : InNumeral c) : upperChar c = [c] := by
  rcases h with h | rfl | rfl | rfl
  · exact upperChar_of_isDecimalDigit h
  all_goals decide

theorem isBlank_of_isMargin (c : Char) (h : isMargin c = true) : isBlank c = true := by
  rw [isMargin, Bool.and_eq_true] at h
  exact h.1

/-- After the sign nothing but the sign is missing. -/
theorem spanSign_split (cs : List Char) :
    (spanSign cs).2 = cs ∨ ∃ c, (c = '-' ∨ c = '+') ∧ cs = c :: (spanSign cs).2 := by
  unfold spanSign
  split
  · exact .inr ⟨_, .inl rfl, rfl⟩
  · exact .inr ⟨_, .inr rfl, rfl⟩
  · exact .inl rfl

/-- What the text of an integer is made of, but for the white space around it. -/
structure IntegerChars (cs : List Char) : Prop where
  all : ∀ c ∈ cs, InNumeral c
  digit : ∃ c ∈ cs, isDecimalDigit c = true
  tail : ∀ c ∈ cs.tail, isDecimalDigit c = true ∨ c = '_'

theorem readInteger?_chars {text : String} {n : Int} (h : readInteger? text = some n) :
    IntegerChars (trimWhile isMargin text.toList) := by
  unfold readInteger? at h
  generalize trimWhile isMargin text.toList = cs at h ⊢
  obtain ⟨before, hbefore, hchars, hvalues⟩ := spanDigitsFrom_split false (spanSign cs).2
  dsimp only [spanDigits] at h
  split at h
  · rename_i d ds hspan
    rw [hspan] at hbefore hvalues
    rw [List.append_nil] at hbefore
    -- the sign is followed by digits and underscores alone, at least one of them a digit
    obtain ⟨c, hc, hvalue⟩ : ∃ c ∈ before, digitValue? c = some d :=
      List.mem_filterMap.1 (hvalues ▸ List.mem_cons_self)
    have hdigit : isDecimalDigit c = true := by rw [isDecimalDigit, hvalue]; rfl
    rcases spanSign_split cs with hsame | ⟨sign, hsign, hsplit⟩
    · have hcs : cs = before := hsame.symm.trans hbefore
      subst hcs
      exact ⟨fun c hc => (hchars c hc).imp_right .inl, ⟨c, hc, hdigit⟩, fun c hc => hchars c (List.mem_of_mem_tail hc)⟩
    · rw [hbefore] at hsplit
      subst hsplit
      refine ⟨?_, ⟨c, List.mem_cons_of_mem _ hc, hdigit⟩, hchars⟩
      rw [List.forall_mem_cons]
      exact ⟨.inr (.inr hsign), fun c hc => (hchars c hc).imp_right .inl⟩
  · cases h

theorem stripChars_of_readInteger? {text : String} {n : Int} (h : readInteger? text = some n) :
    stripChars text.toList = trimWhile isMargin text.toList :=
  trimWhile_eq_of_imp isBlank_of_isMargin fun _ hc => ((readInteger?_chars h).all _ hc).isBlank

theorem readInteger?_strip {text : String} {n : Int} (h : readInteger? text = some n) :
    readInteger? (strip text) = some n := by
  have hmargin : trimWhile isMargin (strip text).toList = trimWhile isMargin text.toList := by
    rw [strip, String.toList_ofList, stripChars_of_readInteger? h, trimWhile_trimWhile]
  rw [← h, readInteger?, readInteger?, hmargin]

theorem chars_of_readInteger? {text : String} {n : Int} (h : readInteger? text = some n) :
    IntegerChars (strip text).toList := by
  rw [strip, String.toList_ofList, stripChars_of_readInteger? h]
  exact readInteger?_chars h

theorem upper_strip_of_readInteger? {text : String} {n : Int} (h : readInteger? text = some n) :
    upper (strip text) = strip text :=
  upper_eq_self fun c hc => ((chars_of_readInteger? h).all c hc).upperChar

theorem isDecimalDigit_of_mem_natDigits {n : Nat} {c : Char} (h : c ∈ natDigits n) : isDecimalDigit c = true := by
  have hdigit := isDigit_of_mem_natDigits h
  have hascii : c.toNat < 0x80 := by
    simp only [Char.isDigit, Bool.and_eq_true, decide_eq_true_eq] at hdigit
    have : c.toNat ≤ 57 := hdigit.2
    omega
  rw [isDecimalDigit, digitValue?, if_pos hascii, if_pos hdigit]
  rfl

theorem spanSign_of_digit {c : Char} (h : isDecimalDigit c = true) (cs : List Char) :
    spanSign (c :: cs) = (false, c :: cs) := by
  have hminus : c ≠ '-' := by rintro rfl; revert h; decide
  have hplus : c ≠ '+' := by rintro rfl; revert h; decide
  unfold spanSign
  split <;> simp_all

theorem spanSign_natDigits (n : Nat) : spanSign (natDigits n) = (false, natDigits n) := by
  cases hdigits : natDigits n with
  | nil => exact absurd hdigits (natDigits_ne_nil n)
  | cons c cs => exact spanSign_of_digit (isDecimalDigit_of_mem_natDigits (n := n) (by simp [hdigits])) cs

theorem spanDigits_natDigits (n : Nat) : spanDigits (natDigits n) = ((natDigits n).filterMap digitValue?, []) := by
  rw [spanDigits]
  nth_rewrite 1 [← List.append_nil (natDigits n)]
  exact spanDigitsFrom_append (fun _ hc => isDecimalDigit_of_mem_natDigits hc) (by simp) false

theorem toList_intText (n : Int) :
    (intText n).toList = if n < 0 then '-' :: natDigits n.natAbs else natDigits n.natAbs := by
  rw [intText]
  split
  · simp [natText]
  · rw [natText, String.toList_ofList]

theorem inNumeral_intText (n : Int) : ∀ c ∈ (intText n).toList, InNumeral c := by
  intro c hc
  rw [toList_intText] at hc
  split at hc
  · rcases List.mem_cons.1 hc with rfl | hc
    · exact .inr (.inr (.inl rfl))
    · exact .inl (isDecimalDigit_of_mem_natDigits hc)
  · exact .inl (isDecimalDigit_of_mem_natDigits hc)

theorem readInteger?_eq {text : String} {negative : Bool} {cs : List Char} {values : List Nat}
    (hsign : spanSign (trimWhile isMargin text.toList) = (negative, cs)) (hdigits : spanDigits cs = (values, []))
    (hne : values ≠ []) :
    readInteger? text = some (if negative then -(ofDigits values : Int) else ofDigits values) := by
  cases values with
  | nil => exact absurd rfl hne
  | cons d ds =>
    rw [readInteger?, hsign]
    dsimp only
    rw [hdigits]

/-- An integer reads back from its text. -/
theorem readInteger?_intText (n : Int) : readInteger? (intText n) = some n := by
  have hmargin : trimWhile isMargin (intText n).toList = (intText n).toList := by
    refine trimWhile_eq_self fun c hc => ?_
    rw [isMargin, (inNumeral_intText n c hc).isBlank]
    rfl
  have hvalues := filterMap_digitValue?_natDigits n.natAbs
  have hne : (natDigits n.natAbs).filterMap digitValue? ≠ [] := by
    rw [hvalues, ne_eq, List.map_eq_nil_iff]
    exact natDigits_ne_nil _
  have hsign : spanSign (trimWhile isMargin (intText n).toList) = (decide (n < 0), natDigits n.natAbs) := by
    rw [hmargin, toList_intText]
    split
    · rename_i hnegative
      rw [decide_eq_true hnegative]
      rfl
    · rename_i hnegative
      rw [decide_eq_false hnegative, spanSign_natDigits]
  rw [readInteger?_eq hsign (spanDigits_natDigits _) hne, hvalues, ofDigits_natDigits]
  congr 1
  by_cases hnegative : n < 0
  · rw [if_pos (by simpa using hnegative)]
    omega
  · rw [if_neg (by simpa using hnegative)]
    omega

theorem strip_intText (n : Int) : strip (intText n) = intText n :=
  strip_eq_self fun c hc => (inNumeral_intText n c hc).isBlank

/-! ## Real numbers -/

theorem exists_digit_of_spanDigits {cs : List Char} (h : (spanDigits cs).1 ≠ []) :
    ∃ c ∈ cs, isDecimalDigit c = true := by
  obtain ⟨before, hcs, -, hvalues⟩ := spanDigitsFrom_split false cs
  obtain ⟨d, hd⟩ := List.exists_mem_of_ne_nil _ h
  obtain ⟨c, hc, hvalue⟩ := List.mem_filterMap.1 (hvalues ▸ hd : d ∈ before.filterMap digitValue?)
  exact ⟨c, hcs ▸ List.mem_append_left _ hc, by rw [isDecimalDigit, hvalue]; rfl⟩

theorem exists_digit_of_readFinite? {negative : Bool} {cs : List Char} {numeral : RealNumeral}
    (h : readFinite? negative cs = some numeral) : ∃ c ∈ cs, isDecimalDigit c = true := by
  obtain ⟨before, hcs, -, -⟩ := spanDigitsFrom_split false cs
  rw [← spanDigits] at hcs
  unfold readFinite? at h
  by_cases hwhole : (spanDigits cs).1 = []
  · -- then the digits stand after the point
    dsimp only at h
    split at h
    · rename_i rest hrest
      by_cases hfraction : (spanDigits rest).1 = []
      · simp [hwhole, hfraction] at h
      · obtain ⟨c, hc, hdigit⟩ := exists_digit_of_spanDigits hfraction
        refine ⟨c, ?_, hdigit⟩
        rw [hcs, hrest]
        exact List.mem_append_right _ (List.mem_cons_of_mem _ hc)
    · simp [hwhole] at h
  · exact exists_digit_of_spanDigits hwhole

/-- Digits with a point and an exponent are a finite number. -/
theorem finite_of_readFinite? {negative : Bool} {cs : List Char} {numeral : RealNumeral}
    (h : readFinite? negative cs = some numeral) : ∃ c e, numeral = .finite negative c e := by
  unfold readFinite? at h
  dsimp only at h
  split at h
  all_goals
    -- with a point and without one
    split at h
    · cases h
    · obtain ⟨e, -, rfl⟩ := Option.map_eq_some_iff.1 h
      exact ⟨_, _, rfl⟩

/-- What has no N in it is none of the words. -/
theorem readReal?_eq_readFinite? {text : String}
    (h : ∀ c ∈ (spanSign (trimWhile isMargin text.toList)).2, c.toLower ≠ 'n') :
    readReal? text = readFinite? (spanSign (trimWhile isMargin text.toList)).1
      (spanSign (trimWhile isMargin text.toList)).2 := by
  unfold readReal?
  generalize spanSign (trimWhile isMargin text.toList) = split at h
  obtain ⟨negative, cs⟩ := split
  have hword : ∀ word : String, 'n' ∈ word.toList → String.ofList (cs.map Char.toLower) ≠ word := by
    rintro word hn rfl
    rw [String.toList_ofList] at hn
    obtain ⟨c, hc, hlower⟩ := List.mem_map.1 hn
    exact h c hc hlower
  dsimp only
  split
  · exact absurd ‹_› (hword _ (by decide))
  · exact absurd ‹_› (hword _ (by decide))
  · exact absurd ‹_› (hword _ (by decide))
  · rfl

/-- A real numeral has a digit in it, or it is a word with an N in it. -/
theorem exists_mem_of_readReal? {text : String} {numeral : RealNumeral} (h : readReal? text = some numeral) :
    ∃ c ∈ text.toList, isDecimalDigit c = true ∨ c.toLower = 'n' := by
  have hmem : ∀ c ∈ (spanSign (trimWhile isMargin text.toList)).2, c ∈ text.toList := by
    intro c hc
    obtain ⟨before, after, -, -, htext⟩ := exists_trimWhile isMargin text.toList
    rw [htext]
    refine List.mem_append_left _ (List.mem_append_right _ ?_)
    rcases spanSign_split (trimWhile isMargin text.toList) with hsame | ⟨sign, -, hsplit⟩
    · rwa [hsame] at hc
    · rw [hsplit]
      exact List.mem_cons_of_mem _ hc
  by_cases hword : ∃ c ∈ (spanSign (trimWhile isMargin text.toList)).2, c.toLower = 'n'
  · obtain ⟨c, hc, hn⟩ := hword
    exact ⟨c, hmem c hc, .inr hn⟩
  · rw [readReal?_eq_readFinite? fun c hc hn => hword ⟨c, hc, hn⟩] at h
    obtain ⟨c, hc, hdigit⟩ := exists_digit_of_readFinite? h
    exact ⟨c, hmem c hc, .inl hdigit⟩

theorem eq_of_toLower_n {c : Char} (h : c.toLower = 'n') : c = 'n' ∨ c = 'N' := by
  unfold Char.toLower at h
  split at h
  · right
    have hval : c.val + 32 = 'n'.val := congrArg Char.val h
    have hcode : c.val = 'n'.val - 32 := by rw [← hval]; simp
    rw [Char.ext_iff, hcode]
    rfl
  · exact .inl h

end Relational.Decimal
