import Mathlib.Data.List.Chain
import Mathlib.Data.List.TakeWhile
import Relational.Text.Blank
import Relational.Text.Case
import Relational.Text.Letter

/-!
# Letters and digits of every script

No letter is a decimal digit, no digit is blank, and no decimal digit has an upper case other than itself. In ASCII
this can be seen from the code points; beyond it the ranges of the digits are held against the letters, the blanks and
the case mappings. All of these are in order, so one walk along both lists is enough.
-/

namespace Relational

namespace Unicode.Ranges

/-- The ranges come in the order of their first code points. -/
def Ordered (rs : Ranges) : Prop :=
  (rs.map Prod.fst).IsChain (· ≤ ·)

/-- They do, as a walk along them shows. -/
def goesUp : Ranges → Bool
  | r :: r' :: rs => Nat.ble r.1 r'.1 && goesUp (r' :: rs)
  | _ => true

theorem ordered_of_goesUp {rs : Ranges} (h : rs.goesUp = true) : rs.Ordered := by
  fun_induction goesUp rs with
  | case1 r r' rs ih =>
    rw [Bool.and_eq_true, Nat.ble_eq] at h
    exact .cons_cons h.1 (ih h.2)
  | case2 rs hshort =>
    cases rs with
    | nil => exact .nil
    | cons r rs =>
      cases rs with
      | nil => exact .singleton _
      | cons r' rs => exact absurd rfl (hshort r r' rs)

/-- Each range of the first list ends before the second goes on, once that has passed over what ends before the
range. -/
def goesBetween : Ranges → Ranges → Bool
  | [], _ => true
  | r :: rs, others =>
    let next := others.dropWhile fun other => Nat.blt other.2 r.1
    next.head?.all (fun other => Nat.blt r.2 other.1) && goesBetween rs next

/-- No range of one list meets one of the other, which one walk along both shows. -/
def Apart (rs others : Ranges) : Prop :=
  (rs.Ordered ∧ others.Ordered) ∧ rs.goesBetween others = true

theorem Apart.of_walks {rs others : Ranges} (hrs : rs.goesUp = true) (hothers : others.goesUp = true)
    (h : rs.goesBetween others = true) : rs.Apart others :=
  ⟨⟨ordered_of_goesUp hrs, ordered_of_goesUp hothers⟩, h⟩

theorem Ordered.pairwise {rs : Ranges} (h : rs.Ordered) : rs.Pairwise fun r r' => r.1 ≤ r'.1 :=
  List.pairwise_map.1 (List.isChain_iff_pairwise.1 h)

theorem goesBetween_apart {rs others : Ranges} (hrs : rs.Pairwise fun r r' => r.1 ≤ r'.1)
    (hothers : others.Pairwise fun r r' => r.1 ≤ r'.1) (h : rs.goesBetween others = true) {r other : Nat × Nat}
    (hr : r ∈ rs) (hother : other ∈ others) : other.2 < r.1 ∨ r.2 < other.1 := by
  induction rs generalizing others with
  | nil => cases hr
  | cons first rs ih =>
    rw [goesBetween, Bool.and_eq_true] at h
    obtain ⟨hfirst, hrest⟩ := h
    rw [List.pairwise_cons] at hrs
    have hsplit := @List.takeWhile_append_dropWhile _ (fun other : Nat × Nat => Nat.blt other.2 first.1) others
    have hordered := hothers.sublist (List.dropWhile_sublist fun other => Nat.blt other.2 first.1)
    rw [← hsplit, List.mem_append] at hother
    generalize others.dropWhile _ = next at hfirst hrest hordered hother
    rcases hother with hpassed | hnext
    · -- what was passed over ends before this range, and so before all later ones
      have hpasses := List.mem_takeWhile_imp hpassed
      have hbefore : other.2 < first.1 := Nat.blt_eq.mp hpasses
      rcases List.mem_cons.1 hr with rfl | hr
      · exact .inl hbefore
      · exact .inl (Nat.lt_of_lt_of_le hbefore (hrs.1 r hr))
    · rcases List.mem_cons.1 hr with rfl | hr
      · cases next with
        | nil => cases hnext
        | cons head tail =>
          have hhead : r.2 < head.1 := Nat.blt_eq.mp hfirst
          rcases List.mem_cons.1 hnext with rfl | htail
          · exact .inr hhead
          · exact .inr (Nat.lt_of_lt_of_le hhead ((List.pairwise_cons.1 hordered).1 other htail))
      · exact ih hrs.2 hordered hrest hr hnext

/-- What a range of one list covers is outside of all ranges of the other. -/
theorem Apart.outside {rs others : Ranges} (h : rs.Apart others) {r : Nat × Nat} (hr : r ∈ rs) {n : Nat}
    (hlow : r.1 ≤ n) (hhigh : n ≤ r.2) : ∀ other ∈ others, other.2 < n ∨ n < other.1 := by
  intro other hother
  have hapart := goesBetween_apart h.1.1.pairwise h.1.2.pairwise h.2 hr hother
  omega

/-- Each range of the first list lies within the one that the second has come to, once that has passed over what ends
before the range. -/
def goesWithin : Ranges → Ranges → Bool
  | [], _ => true
  | r :: rs, others =>
    let next := others.dropWhile fun other => Nat.blt other.2 r.1
    next.head?.any (fun other => Nat.ble other.1 r.1 && Nat.ble r.2 other.2) && goesWithin rs next

theorem goesWithin_covers {rs others : Ranges} (h : rs.goesWithin others = true) {r : Nat × Nat} (hr : r ∈ rs) {n : Nat}
    (hlow : r.1 ≤ n) (hhigh : n ≤ r.2) : others.covers n = true := by
  induction rs generalizing others with
  | nil => cases hr
  | cons first rs ih =>
    rw [goesWithin, Bool.and_eq_true] at h
    obtain ⟨hfirst, hrest⟩ := h
    have hsub := List.dropWhile_subset (l := others) fun other => Nat.blt other.2 first.1
    generalize others.dropWhile _ = next at hfirst hrest hsub
    rcases List.mem_cons.1 hr with rfl | hr
    · obtain ⟨other, hhead, hwithin⟩ := (Option.any_eq_true _ _).1 hfirst
      rw [Bool.and_eq_true, Nat.ble_eq, Nat.ble_eq] at hwithin
      refine List.any_eq_true.2 ⟨other, hsub (List.mem_of_head? hhead), ?_⟩
      rw [Bool.and_eq_true, decide_eq_true_eq, decide_eq_true_eq]
      omega
    · obtain ⟨other, hother, hcovers⟩ := List.any_eq_true.1 (ih hrest hr)
      exact List.any_eq_true.2 ⟨other, hsub hother, hcovers⟩

end Unicode.Ranges

namespace Text

open Unicode

/-! ## Blanks and case mappings -/

/-- The blanks as ranges. -/
def blankRanges : Ranges :=
  [(9, 13), (28, 32), (0x85, 0x85), (0xa0, 0xa0), (0x1680, 0x1680), (0x2000, 0x200a), (0x2028, 0x2028),
    (0x2029, 0x2029), (0x202f, 0x202f), (0x205f, 0x205f), (0x3000, 0x3000)]

theorem isBlank_of_outside {c : Char} (h : ∀ range ∈ blankRanges, range.2 < c.toNat ∨ c.toNat < range.1) :
    isBlank c = false := by
  simp only [blankRanges, List.forall_mem_cons] at h
  simp [isBlank]
  omega

theorem isBlank_of_covers {rs : Ranges} {c : Char} (hapart : rs.Apart blankRanges) (h : rs.covers c.toNat = true) :
    isBlank c = false := by
  obtain ⟨range, hrange, hcovers⟩ := List.any_eq_true.1 h
  rw [Bool.and_eq_true, decide_eq_true_eq, decide_eq_true_eq] at hcovers
  exact isBlank_of_outside (hapart.outside hrange hcovers.1 hcovers.2)

/-- The code points that have an upper case of their own. -/
def fullRanges : Ranges :=
  upperFull.map fun entry => (entry.1, entry.1)

/-- The runs of code points that have an upper case by one rule. -/
def runRanges : Ranges :=
  upperRuns.map fun run => (run.first, run.last)

theorem mapCase_of_outside {c : Char} (hfull : ∀ range ∈ fullRanges, range.2 < c.toNat ∨ c.toNat < range.1)
    (hruns : ∀ range ∈ runRanges, range.2 < c.toNat ∨ c.toNat < range.1) :
    mapCase upperFull upperRuns c = [c] := by
  have hnone : upperFull.find? (fun entry => entry.1 == c.toNat) = none := by
    rw [List.find?_eq_none]
    intro entry hentry heq
    rw [beq_iff_eq] at heq
    have houtside := hfull _ (List.mem_map_of_mem hentry)
    omega
  have hrun : upperRuns.findSome? (fun run => run.image? c.toNat) = none := by
    rw [List.findSome?_eq_none_iff]
    intro run hrun
    have houtside := hruns _ (List.mem_map_of_mem hrun)
    rw [CaseRun.image?, if_neg]
    simp only [Bool.and_eq_true, decide_eq_true_eq]
    omega
  rw [mapCase, hnone, hrun]

/-! ## Ranges of digits -/

/-- Where the ranges of the digits lie. -/
structure DigitsFit : Prop where
  blank : digitRanges.Apart blankRanges
  letter : digitRanges.Apart letterRanges
  numeric : digitRanges.goesWithin numericRanges = true
  decimalDigit : decimalRanges.goesWithin digitRanges = true
  decimalFull : decimalRanges.Apart fullRanges
  decimalRun : decimalRanges.Apart runRanges

-- as deep as the list of the letters is long
set_option maxRecDepth 10000 in
theorem letterRanges_goesUp : letterRanges.goesUp = true := rfl

set_option maxRecDepth 10000 in
theorem digitsFit : DigitsFit where
  blank := .of_walks rfl rfl rfl
  letter := .of_walks rfl letterRanges_goesUp rfl
  numeric := rfl
  decimalDigit := rfl
  decimalFull := .of_walks rfl rfl rfl
  decimalRun := .of_walks rfl rfl rfl

/-! ## Letters -/

theorem isAlpha_range {c : Char} (h : c.isAlpha = true) :
    (65 ≤ c.toNat ∧ c.toNat ≤ 90) ∨ (97 ≤ c.toNat ∧ c.toNat ≤ 122) := by
  unfold Char.isAlpha Char.isUpper Char.isLower at h
  simp only [Bool.or_eq_true, Bool.and_eq_true, decide_eq_true_eq, ge_iff_le, UInt32.le_iff_toNat_le] at h
  exact h

theorem isLetter_of_isAlpha {c : Char} (h : c.isAlpha = true) : isLetter c = true := by
  have hrange := isAlpha_range h
  rw [isLetter, if_pos (by omega), h]

theorem isLetterOrNumber_of_isLetter {c : Char} (h : isLetter c = true) : isLetterOrNumber c = true := by
  unfold isLetter at h
  unfold isLetterOrNumber
  split at h
  · rename_i hascii
    rw [if_pos hascii, Char.isAlphanum, h, Bool.true_or]
  · rename_i hascii
    rw [if_neg hascii, h, Bool.true_or]

/-! ## Decimal digits -/

/-- A digit is one of ASCII, or in a range beyond it. -/
theorem isDecimalDigit_cases {c : Char} (h : isDecimalDigit c = true) :
    (48 ≤ c.toNat ∧ c.toNat ≤ 57) ∨
      ¬ c.toNat < 0x80 ∧ ∃ range ∈ decimalRanges, range.1 ≤ c.toNat ∧ c.toNat ≤ range.2 := by
  unfold isDecimalDigit digitValue? at h
  split at h
  · split at h
    · rename_i hdigit
      simp only [Char.isDigit, Bool.and_eq_true, decide_eq_true_eq] at hdigit
      exact .inl hdigit
    · cases h
  · rename_i hascii
    rw [Option.isSome_map] at h
    obtain ⟨range, hrange⟩ := Option.isSome_iff_exists.1 h
    have hcovers := List.find?_some hrange
    rw [Bool.and_eq_true, decide_eq_true_eq, decide_eq_true_eq] at hcovers
    exact .inr ⟨hascii, range, List.mem_of_find?_eq_some hrange, hcovers⟩

/-! ## Digits that may have no decimal value -/

theorem isDigitLike_of_isDecimalDigit {c : Char} (h : isDecimalDigit c = true) : isDigitLike c = true := by
  rcases isDecimalDigit_cases h with ⟨hlow, hhigh⟩ | ⟨hascii, range, hrange, hlow, hhigh⟩
  · have hdigit : c.isDigit = true := by
      simp only [Char.isDigit, Bool.and_eq_true, decide_eq_true_eq, UInt32.le_iff_toNat_le, ge_iff_le]
      exact ⟨hlow, hhigh⟩
    rw [isDigitLike, if_pos (by omega), hdigit]
  · rw [isDigitLike, if_neg hascii]
    exact Ranges.goesWithin_covers digitsFit.decimalDigit hrange hlow hhigh

theorem isWordChar_of_isDigitLike {c : Char} (h : isDigitLike c = true) : isWordChar c = true := by
  rw [isWordChar, Bool.or_eq_true]
  right
  unfold isDigitLike at h
  unfold isLetterOrNumber
  split at h
  · rename_i hascii
    rw [if_pos hascii, Char.isAlphanum, h, Bool.or_true]
  · rename_i hascii
    obtain ⟨digits, hdigits, hcovers⟩ := List.any_eq_true.1 h
    rw [Bool.and_eq_true, decide_eq_true_eq, decide_eq_true_eq] at hcovers
    have hnumeric : numericRanges.covers c.toNat = true :=
      Ranges.goesWithin_covers digitsFit.numeric hdigits hcovers.1 hcovers.2
    rw [if_neg hascii, hnumeric, Bool.or_true]

theorem isBlank_of_isDigitLike {c : Char} (h : isDigitLike c = true) : isBlank c = false := by
  unfold isDigitLike at h
  split at h
  · simp only [Char.isDigit, Bool.and_eq_true, decide_eq_true_eq] at h
    have hlow : 48 ≤ c.toNat := h.1
    have hhigh : c.toNat ≤ 57 := h.2
    simp [isBlank]
    omega
  · exact isBlank_of_covers digitsFit.blank h

theorem isLetter_of_isDigitLike {c : Char} (h : isDigitLike c = true) : isLetter c = false := by
  unfold isDigitLike at h
  unfold isLetter
  split at h
  · rename_i hascii
    simp only [Char.isDigit, Bool.and_eq_true, decide_eq_true_eq] at h
    have hhigh : c.toNat ≤ 57 := h.2
    rw [if_pos hascii, ← Bool.not_eq_true]
    intro halpha
    have hrange := isAlpha_range halpha
    omega
  · rename_i hascii
    rw [if_neg hascii, ← Bool.not_eq_true]
    intro hcovers
    obtain ⟨digits, hdigits, hdigit⟩ := List.any_eq_true.1 h
    obtain ⟨letters, hletters, hletter⟩ := List.any_eq_true.1 hcovers
    simp only [Bool.and_eq_true, decide_eq_true_eq] at hdigit hletter
    have houtside := digitsFit.letter.outside hdigits hdigit.1 hdigit.2 letters hletters
    omega

theorem isBlank_of_isDecimalDigit {c : Char} (h : isDecimalDigit c = true) : isBlank c = false :=
  isBlank_of_isDigitLike (isDigitLike_of_isDecimalDigit h)

theorem isLetter_of_isDecimalDigit {c : Char} (h : isDecimalDigit c = true) : isLetter c = false :=
  isLetter_of_isDigitLike (isDigitLike_of_isDecimalDigit h)

set_option maxRecDepth 10000 in
/-- No letter and no number is a blank. -/
theorem wordsFit : letterRanges.Apart blankRanges ∧ numericRanges.Apart blankRanges :=
  ⟨.of_walks letterRanges_goesUp rfl rfl, .of_walks rfl rfl rfl⟩

theorem isBlank_of_isWordChar {c : Char} (h : isWordChar c = true) : isBlank c = false := by
  rw [isWordChar, Bool.or_eq_true, beq_iff_eq] at h
  rcases h with rfl | h
  · rfl
  · unfold isLetterOrNumber at h
    split at h
    · rename_i hascii
      rw [Char.isAlphanum, Bool.or_eq_true] at h
      rcases h with hletter | hdigit
      · have hrange := isAlpha_range hletter
        simp [isBlank]
        omega
      · exact isBlank_of_isDigitLike (by rw [isDigitLike, if_pos hascii, hdigit])
    · rw [Bool.or_eq_true] at h
      rcases h with h | h
      · exact isBlank_of_covers wordsFit.1 h
      · exact isBlank_of_covers wordsFit.2 h

/-! ## Upper case -/

theorem upperChar_of_isDecimalDigit {c : Char} (h : isDecimalDigit c = true) : upperChar c = [c] := by
  rcases isDecimalDigit_cases h with ⟨hlow, hhigh⟩ | ⟨hascii, range, hrange, hlow, hhigh⟩
  · rw [upperChar, if_pos (by omega)]
    unfold Char.toUpper
    rw [dif_neg]
    intro hlower
    have : 97 ≤ c.toNat := hlower.1
    omega
  · rw [upperChar, if_neg hascii]
    exact mapCase_of_outside (digitsFit.decimalFull.outside hrange hlow hhigh)
      (digitsFit.decimalRun.outside hrange hlow hhigh)

theorem mem_upper {c u : Char} {s : String} (hc : c ∈ s.toList) (hu : u ∈ upperChar c) : u ∈ (upper s).toList := by
  rw [upper, String.toList_ofList]
  exact List.mem_flatMap.2 ⟨c, hc, hu⟩

/-- Text that has no other upper case. -/
theorem upper_eq_self {s : String} (h : ∀ c ∈ s.toList, upperChar c = [c]) : upper s = s := by
  have hchars : ∀ cs : List Char, (∀ c ∈ cs, upperChar c = [c]) → cs.flatMap upperChar = cs := by
    intro cs hcs
    induction cs with
    | nil => rfl
    | cons c cs ih =>
      rw [List.forall_mem_cons] at hcs
      rw [List.flatMap_cons, hcs.1, ih hcs.2, List.singleton_append]
  rw [upper, hchars _ h, String.ofList_toList]

/-! ## Capital letters of ASCII -/

/-- The code point of a capital letter of ASCII. -/
def isCapital (n : Nat) : Bool :=
  Nat.ble 65 n && Nat.ble n 90

/-- What has capital letters of ASCII as its upper case is a letter. -/
structure CapitalsFit : Prop where
  full : ∀ entry ∈ upperFull, entry.2.all isCapital = true → letterRanges.covers entry.1 = true
  run : ∀ run ∈ upperRuns, ∀ k < (26 : Nat), (65 + k - run.shift).toNat < run.first ∨
    run.last < (65 + k - run.shift).toNat ∨ letterRanges.covers (65 + k - run.shift).toNat = true

theorem capitalsFit : CapitalsFit where
  full := by decide +kernel
  run := by decide +kernel

theorem isCapital_iff {n : Nat} : isCapital n = true ↔ 65 ≤ n ∧ n ≤ 90 := by
  rw [isCapital, Bool.and_eq_true, Nat.ble_eq, Nat.ble_eq]

theorem isCapital_of_ofNat {n : Nat} (h : isCapital (Char.ofNat n).toNat = true) : isCapital n = true := by
  unfold Char.ofNat at h
  by_cases hvalid : n.isValidChar
  · rw [dif_pos hvalid] at h
    rwa [show (Char.ofNatAux n hvalid).toNat = n from UInt32.toNat_ofNatLT] at h
  · rw [dif_neg hvalid] at h
    cases h

theorem isAlpha_of_toUpper {c : Char} (h : isCapital c.toUpper.toNat = true) : c.isAlpha = true := by
  unfold Char.toUpper at h
  unfold Char.isAlpha
  rw [Bool.or_eq_true]
  split at h
  · rename_i hlower
    right
    unfold Char.isLower
    simpa using hlower
  · left
    unfold Char.isUpper
    simp only [decide_eq_true_eq, ge_iff_le, UInt32.le_iff_toNat_le]
    exact isCapital_iff.1 h

/-- Only a letter has capital letters of ASCII as its upper case. -/
theorem isLetter_of_upperChar {c : Char} (h : ∀ u ∈ upperChar c, isCapital u.toNat = true) : isLetter c = true := by
  unfold upperChar at h
  unfold isLetter
  split at h
  · rename_i hascii
    rw [if_pos hascii]
    exact isAlpha_of_toUpper (h _ List.mem_cons_self)
  · rename_i hascii
    rw [if_neg hascii]
    unfold mapCase at h
    split at h
    · rename_i n image hfull
      have hcode : n = c.toNat := by simpa using List.find?_some hfull
      rw [← hcode]
      refine capitalsFit.full _ (List.mem_of_find?_eq_some hfull) (List.all_eq_true.2 fun m hm => ?_)
      exact isCapital_of_ofNat (h _ (List.mem_map_of_mem hm))
    · split at h
      · rename_i n hrun
        obtain ⟨run, hmem, himage⟩ := List.exists_of_findSome?_eq_some hrun
        have hn := isCapital_iff.1 (isCapital_of_ofNat (h _ List.mem_cons_self))
        unfold CaseRun.image? at himage
        split at himage
        · rename_i hrange
          simp only [Bool.and_eq_true, decide_eq_true_eq] at hrange
          have hfit := capitalsFit.run run hmem (n - 65) (by omega)
          have hcode : (65 + ((n - 65 : Nat) : Int) - run.shift).toNat = c.toNat := by
            have hshift := Option.some.inj himage
            omega
          rw [hcode] at hfit
          exact (hfit.resolve_left (by omega)).resolve_left (by omega)
        · cases himage
      · have hcode := isCapital_iff.1 (h c List.mem_cons_self)
        omega

end Text

end Relational
