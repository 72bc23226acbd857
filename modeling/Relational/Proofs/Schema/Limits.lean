import Relational.Proofs.Schema.CheckLevels

/-!
# The limits of a column

A text that fits a column is no longer than the column says, and has no more digits and places. Only a limit of zero
characters or digits is none.
-/

namespace Relational

open Text

/-! ## The digits of a decimal number -/

namespace Decimal

/-- The digits before the point from the first on that is not zero. -/
def wholeDigits (text : String) : List Char :=
  ((text.toList.takeWhile (· != '.')).filter isDecimalDigit).dropWhile fun c => digitValue? c == some 0

/-- The digits after the point. -/
def fractionDigits (text : String) : List Char :=
  (text.toList.dropWhile (· != '.')).filter isDecimalDigit

/-- The number of digits, leading zeros not counted. -/
def countedDigits (text : String) : Nat :=
  (wholeDigits text).length + (fractionDigits text).length

end Decimal

open Decimal

/-- A decimal number is a sign, digits, and perhaps a point with digits after it. -/
structure DecimalParts (sign whole point : List Char) : Prop where
  sign : ∀ c ∈ sign, c = '+' ∨ c = '-'
  whole : ∀ c ∈ whole, isDecimalDigit c = true
  point : point = [] ∨ ∃ fraction, point = '.' :: fraction ∧ ∀ c ∈ fraction, isDecimalDigit c = true

theorem exists_sign (cs : List Char) : ∃ sign, cs = sign ++ dropSign cs ∧ ∀ c ∈ sign, c = '+' ∨ c = '-' := by
  cases cs with
  | nil => exact ⟨[], rfl, by simp⟩
  | cons c cs =>
    by_cases hc : c = '+' ∨ c = '-'
    · refine ⟨[c], ?_, by simpa using hc⟩
      rw [dropSign, if_pos (by simpa using hc)]
      rfl
    · refine ⟨[], ?_, by simp⟩
      rw [dropSign, if_neg (by simpa using hc)]
      rfl

theorem exists_decimalParts {cs : List Char} (h : isDecimalShape cs = true) :
    ∃ sign whole point, cs = sign ++ (whole ++ point) ∧ DecimalParts sign whole point := by
  obtain ⟨sign, hcs, hsign⟩ := exists_sign cs
  have hwhole : ∀ c ∈ (dropSign cs).takeWhile isDecimalDigit, isDecimalDigit c = true :=
    fun c hc => List.mem_takeWhile_imp hc
  have hparts : dropSign cs = (dropSign cs).takeWhile isDecimalDigit ++ (dropSign cs).dropWhile isDecimalDigit :=
    List.takeWhile_append_dropWhile.symm
  rw [isDecimalShape, isPointed] at h
  split at h
  · rename_i hnone
    rw [hnone] at hparts
    exact ⟨sign, _, [], by rw [← hparts, ← hcs], hsign, hwhole, .inl rfl⟩
  · rename_i fraction hpoint
    rw [Bool.and_eq_true, List.all_eq_true] at h
    rw [hpoint] at hparts
    exact ⟨sign, _, _, by rw [← hparts, ← hcs], hsign, hwhole, .inr ⟨fraction, rfl, h.1⟩⟩
  · cases h

namespace DecimalParts

variable {sign whole point : List Char} {c : Char}

theorem ne_point_of_digit (hc : isDecimalDigit c = true) : (c != '.') = true := by
  rw [bne_iff_ne]
  rintro rfl
  revert hc
  decide

theorem ne_point_of_sign (hc : c = '+' ∨ c = '-') : (c != '.') = true := by
  rcases hc with rfl | rfl
  · decide
  · decide

theorem not_sign_of_digit (hc : isDecimalDigit c = true) : (c == '+' || c == '-') = false := by
  rw [← Bool.not_eq_true, Bool.or_eq_true, beq_iff_eq, beq_iff_eq]
  rintro (rfl | rfl)
  · revert hc
    decide
  · revert hc
    decide

theorem before_point (h : DecimalParts sign whole point) : point.takeWhile (· != '.') = [] := by
  rcases h.point with rfl | ⟨fraction, rfl, -⟩
  · rfl
  · rfl

theorem from_point (h : DecimalParts sign whole point) : point.dropWhile (· != '.') = point := by
  rcases h.point with rfl | ⟨fraction, rfl, -⟩
  · rfl
  · rfl

theorem digits_point (h : DecimalParts sign whole point) : point.filter isDecimalDigit = point.drop 1 := by
  rcases h.point with rfl | ⟨fraction, rfl, hfraction⟩
  · rfl
  · rw [List.filter_cons_of_neg (by decide), List.filter_eq_self.2 hfraction]
    rfl

/-- A point cuts the number in two. -/
theorem cut_point {before : List Char} (h : DecimalParts sign whole point) (hbefore : ∀ c ∈ before, (c != '.') = true) :
    (before ++ point).takeWhile (· != '.') = before ∧ (before ++ point).dropWhile (· != '.') = point := by
  rw [List.takeWhile_append_of_pos hbefore, List.dropWhile_append_of_pos hbefore, h.before_point, h.from_point,
    List.append_nil]
  exact ⟨rfl, rfl⟩

/-- What follows the sign starts with no other. -/
theorem unsigned (h : DecimalParts sign whole point) :
    (sign ++ (whole ++ point)).dropWhile (fun c => c == '+' || c == '-') = whole ++ point := by
  rw [List.dropWhile_append_of_pos fun c hc => by simpa using h.sign c hc]
  cases whole with
  | nil =>
    rcases h.point with rfl | ⟨fraction, rfl, -⟩
    · rfl
    · rfl
  | cons c whole =>
    exact List.dropWhile_cons_of_neg (Bool.eq_false_iff.1 (not_sign_of_digit (h.whole c List.mem_cons_self)))

theorem digits_sign (h : DecimalParts sign whole point) : sign.filter isDecimalDigit = [] := by
  rw [List.filter_eq_nil_iff]
  intro c hc
  rcases h.sign c hc with rfl | rfl
  · decide
  · decide

end DecimalParts

theorem length_dropWhile_le {α : Type} {p q : α → Bool} (h : ∀ a, p a = true → q a = true) (as : List α) :
    (as.dropWhile q).length ≤ (as.dropWhile p).length := by
  induction as with
  | nil => exact Nat.le_refl _
  | cons a as ih =>
    rw [List.dropWhile_cons, List.dropWhile_cons]
    split
    · split
      · exact ih
      · exact (List.dropWhile_suffix q).length_le.trans (Nat.le_succ _)
    · rename_i hq
      rw [if_neg fun hp => hq (h a hp)]

/-- What a column counts of a decimal number that stands by itself. -/
theorem decimalDigits_spec {text : String} (hstrip : strip text = text) (h : isDecimalShape text.toList = true) :
    (wholeDigits text).length ≤ (Column.decimalDigits text).1 ∧
      (fractionDigits text).length = (Column.decimalDigits text).2 := by
  obtain ⟨sign, whole, point, hcs, hparts⟩ := exists_decimalParts h
  have hwhole : ∀ c ∈ whole, (c != '.') = true := fun c hc => DecimalParts.ne_point_of_digit (hparts.whole c hc)
  have hsigned : ∀ c ∈ sign ++ whole, (c != '.') = true := by
    rw [List.forall_mem_append]
    exact ⟨fun c hc => DecimalParts.ne_point_of_sign (hparts.sign c hc), hwhole⟩
  have hcounted : Column.decimalDigits text = ((whole.dropWhile (· == '0')).length, (point.drop 1).length) := by
    rw [Column.decimalDigits, hstrip, hcs, hparts.unsigned, (hparts.cut_point hwhole).1, (hparts.cut_point hwhole).2]
  rw [hcounted, wholeDigits, fractionDigits, hcs, ← List.append_assoc, (hparts.cut_point hsigned).1,
    (hparts.cut_point hsigned).2, hparts.digits_point, List.filter_append, hparts.digits_sign, List.nil_append,
    List.filter_eq_self.2 hparts.whole]
  refine ⟨length_dropWhile_le (fun c hc => ?_) whole, rfl⟩
  rw [eq_of_beq hc]
  decide

/-! ## Texts that fit -/

namespace Column

variable {column : Column} {text : String} {n : Nat}

theorem limit?_ofNat (n : Nat) : limit? (some (Int.ofNat n)) = if n = 0 then none else some (Int.ofNat n) := by
  cases n with
  | zero => rfl
  | succ n => rfl

theorem checkDigits_eq_ok : column.checkDigits text = .ok () ↔
    (∀ limit ∈ limit? column.precision, ((decimalDigits text).1 + (decimalDigits text).2 : Int) ≤ limit) ∧
      ∀ limit ∈ column.scale, ((decimalDigits text).2 : Int) ≤ limit := by
  rw [checkDigits]
  generalize decimalDigits text = digits
  obtain ⟨whole, fraction⟩ := digits
  dsimp only
  cases limit? column.precision with
  | none =>
    cases column.scale with
    | none => simp
    | some limit => simp
  | some limit =>
    by_cases hover : limit < (whole + fraction : Int)
    · simp [hover]
    · have hwithin : (whole + fraction : Int) ≤ limit := by omega
      cases column.scale with
      | none => simp [hover, hwithin]
      | some limit' => simp [hover, hwithin]

/-- A text is within the length that the column says, if that is not zero. -/
theorem Fits.length_le_iff (h : column.Fits text) (hpresent : isNullText text = false)
    (hstring : column.type.isString = true) (hlength : column.maxLength = some (Int.ofNat n)) :
    text.length ≤ n ↔ n ≠ 0 := by
  constructor
  · rintro hle rfl
    have hempty : text = "" := String.length_eq_zero_iff.1 (Nat.le_zero.1 hle)
    rw [hempty] at hpresent
    exact absurd hpresent (by decide)
  · intro hn
    have hlimit := h.length hstring
    rw [hlength, limit?_ofNat, if_neg hn] at hlimit
    exact Int.ofNat_le.1 (hlimit (Int.ofNat n) rfl)

section Decimal

variable (h : column.Fits text) (hpresent : isNullText text = false) (hdecimal : column.type.isDecimal = true)
  (hstrip : strip text = text)
include h hpresent hdecimal hstrip

theorem Fits.isDecimalShape : isDecimalShape text.toList = true := by
  have haccepted := h.accepted
  rw [accepts, hpresent, Bool.false_or] at haccepted
  cases htype : column.type <;> simp_all [DataType.isDecimal, acceptsPresent]

/-- A decimal number has no more digits than the column says, if that is not zero. -/
theorem Fits.digits_le_iff (hprecision : column.precision = some (Int.ofNat n)) :
    countedDigits text ≤ n ↔ n ≠ 0 ∨ countedDigits text = 0 := by
  obtain ⟨hwhole, hfraction⟩ := decimalDigits_spec hstrip (h.isDecimalShape hpresent hdecimal hstrip)
  have hlimit := (checkDigits_eq_ok.1 (h.digits hdecimal)).1
  rw [hprecision, limit?_ofNat] at hlimit
  by_cases hn : n = 0
  · rw [hn, Nat.le_zero]
    simp
  · rw [if_neg hn] at hlimit
    have hle := Int.ofNat_le.1 (hlimit (Int.ofNat n) rfl)
    refine iff_of_true ?_ (.inl hn)
    rw [countedDigits]
    omega

/-- A decimal number has no more places than the column says. -/
theorem Fits.fraction_le (hscale : column.scale = some (Int.ofNat n)) : (fractionDigits text).length ≤ n := by
  obtain ⟨-, hfraction⟩ := decimalDigits_spec hstrip (h.isDecimalShape hpresent hdecimal hstrip)
  have hlimit := (checkDigits_eq_ok.1 (h.digits hdecimal)).2
  rw [hscale] at hlimit
  rw [hfraction]
  exact Int.ofNat_le.1 (hlimit (Int.ofNat n) rfl)

end Decimal

end Column

end Relational
