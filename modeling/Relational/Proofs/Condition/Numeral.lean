import Relational.Evaluation
import Relational.Proofs.Condition.Ending
import Relational.Proofs.Decimal.Binary
import Relational.Proofs.Encoding.Shapes

/-!
# Numbers of conditions

A number of a condition is digits, perhaps with a fraction and an exponent. It reads as an integer or as a real number,
and with a minus sign before it as the number with the other sign. Two minus signs before a number are read by nothing.
-/

namespace Relational

open Text Decimal

namespace Condition

variable {mode : Mode} {cs : List Char} {pieces : List Piece}

/-! ## Pieces that are numbers -/

/-- A number without a sign: digits, and perhaps a fraction and an exponent after them. -/
def IsNumeral (cs : List Char) : Prop :=
  ∃ mantissa exponent, cs = mantissa ++ exponent ∧ IsMantissa mantissa ∧
    (∀ c ∈ exponent.head?, c = 'e' ∨ c = 'E') ∧ isExponent exponent = true

theorem isDigits_take (h : digitCount cs ≠ 0) : isDigits (cs.take (digitCount cs)) = true := by
  have htake : cs.take (digitCount cs) = cs.takeWhile isDecimalDigit :=
    (List.prefix_iff_eq_take.1 (List.takeWhile_prefix isDecimalDigit)).symm
  rw [htake, isDigits, Bool.and_eq_true, List.all_eq_true]
  refine ⟨?_, fun _ => List.mem_takeWhile_imp⟩
  rw [Bool.not_eq_true', List.isEmpty_eq_false_iff, ← List.length_pos_iff]
  exact Nat.pos_of_ne_zero h

/-- What a number takes after its mantissa is an exponent. -/
theorem isExponent_take (rest : List Char) : isExponent (rest.take (exponentLength rest)) = true := by
  by_cases hnone : exponentLength rest = 0
  · rw [hnone, List.take_zero]
    rfl
  · obtain ⟨e, cs, rfl, hmark⟩ := exponentLength_pos hnone
    cases cs with
    | nil => simp [exponentLength, digitCount] at hnone
    | cons d cs =>
      by_cases hsign : d = '+' ∨ d = '-'
      · have hlength : exponentLength (e :: d :: cs) = if digitCount cs = 0 then 0 else digitCount cs + 2 := by
          rcases hsign with rfl | rfl
          · simp [exponentLength, hmark, Nat.add_comm]
          · simp [exponentLength, hmark, Nat.add_comm]
        have hdigits : digitCount cs ≠ 0 := fun hzero => hnone (by rw [hlength, if_pos hzero])
        rw [hlength, if_neg hdigits, List.take_succ_cons, List.take_succ_cons, isExponent, dropSign,
          if_pos (by simpa using hsign)]
        exact isDigits_take hdigits
      · have hlength : exponentLength (e :: d :: cs) =
            if digitCount (d :: cs) = 0 then 0 else digitCount (d :: cs) + 1 := by
          rw [not_or] at hsign
          simp [exponentLength, hmark, hsign.1, hsign.2, Nat.add_comm]
        have hdigits : digitCount (d :: cs) ≠ 0 := fun hzero => hnone (by rw [hlength, if_pos hzero])
        have htaken := isDigits_take hdigits
        obtain ⟨n, hn⟩ := Nat.exists_eq_succ_of_ne_zero hdigits
        rw [hn, List.take_succ_cons] at htaken
        rw [hlength, if_neg hdigits, List.take_succ_cons, hn, List.take_succ_cons, isExponent, dropSign,
          if_neg (by simpa using hsign)]
        exact htaken

theorem head_take_exponent (rest : List Char) :
    ∀ c ∈ (rest.take (exponentLength rest)).head?, c = 'e' ∨ c = 'E' := by
  by_cases hnone : exponentLength rest = 0
  · rw [hnone]
    simp
  · obtain ⟨e, cs, rfl, hmark⟩ := exponentLength_pos hnone
    obtain ⟨n, hn⟩ := Nat.exists_eq_succ_of_ne_zero hnone
    rw [hn]
    rintro c ⟨⟩
    exact hmark

/-- A text that starts as a number starts with one. -/
theorem isNumeral_take {t : Terminal} {n : Nat} (h : numberLength? cs = some (t, n)) : IsNumeral (cs.take n) := by
  cases cs with
  | nil => cases h
  | cons c cs =>
    have hdigit : isDecimalDigit c = true := by
      rw [← Bool.not_eq_false]
      intro hdigit
      rw [numberLength?_eq_none hdigit] at h
      cases h
    obtain ⟨mantissa, rest, happend, hmantissa, hends⟩ := exists_mantissa hdigit cs
    rw [happend, numberLength?_append hmantissa hends] at h
    cases h
    refine ⟨mantissa, rest.take (exponentLength rest), ?_, hmantissa, head_take_exponent rest, isExponent_take rest⟩
    rw [happend, List.take_add, List.take_left, List.drop_left]

/-- The numbers of a text that is cut into pieces. -/
theorem isNumeral_of_cut (h : cut mode cs = some pieces) : ∀ piece ∈ pieces, piece.1 = .number → IsNumeral piece.2 := by
  induction h using cut_induction with
  | nil => exact List.forall_mem_nil _
  | gap _ _ _ _ _ _ ih => exact ih
  | piece mode c cs t n pieces hgap hterminal _ ih =>
    refine List.forall_mem_cons.2 ⟨?_, ih⟩
    rintro rfl
    have hpos := (terminal?_length hterminal).1
    have htake : c :: cs.take (n - 1) = (c :: cs).take n := by
      rw [← List.take_succ_cons, Nat.sub_add_cancel hpos]
    rw [htake]
    rcases terminal?_cases hterminal with ⟨w, hkeyword, -, -⟩ | hname | hnumber | hstring | hsymbol
    · exact absurd rfl (keyword_terminal hkeyword).1
    · cases (nameLength?_eq_some hname).1
    · exact isNumeral_take hnumber
    · cases (stringLength?_eq_some hstring).1
    · exact absurd rfl (symbolLength?_eq_some hsymbol).1.1

/-! ## Reading numbers -/

theorem IsMantissa.isPointed {mantissa : List Char} (h : IsMantissa mantissa) : isPointed mantissa = true := by
  obtain ⟨whole, fraction, rfl, hne, hwhole, hfraction⟩ := h
  have hnext : NotNext isDecimalDigit fraction := by
    rcases hfraction with rfl | ⟨digits, rfl, -, -⟩
    · exact notNext_nil _
    · exact notNext_cons.2 (by decide)
  have htake : (whole ++ fraction).takeWhile isDecimalDigit = whole := takeWhile_append_of_notNext hwhole hnext
  have hdrop : (whole ++ fraction).dropWhile isDecimalDigit = fraction := by
    have hsplit := List.takeWhile_append_dropWhile (p := isDecimalDigit) (l := whole ++ fraction)
    rw [htake] at hsplit
    exact List.append_cancel_left hsplit
  unfold Relational.isPointed
  rw [htake, hdrop]
  rcases hfraction with rfl | ⟨digits, rfl, -, hdigits⟩
  · simpa using hne
  · simpa [hne] using hdigits

/-- A number starts with a digit. -/
theorem IsNumeral.exists_cons {cs : List Char} (h : IsNumeral cs) :
    ∃ d rest, cs = d :: rest ∧ isDecimalDigit d = true := by
  obtain ⟨mantissa, exponent, rfl, hmantissa, -⟩ := h
  obtain ⟨d, digits, rfl, hdigit⟩ := hmantissa.exists_cons
  exact ⟨d, digits ++ exponent, rfl, hdigit⟩

/-- What stands in a number. -/
theorem IsNumeral.mem {cs : List Char} (h : IsNumeral cs) {c : Char} (hc : c ∈ cs) :
    isDecimalDigit c = true ∨ c ∈ ['.', 'e', 'E', '+', '-'] := by
  obtain ⟨mantissa, exponent, rfl, hmantissa, hmark, hexponent⟩ := h
  rcases List.mem_append.1 hc with hc | hc
  · rcases hmantissa.mem hc with hdigit | rfl
    · exact .inl hdigit
    · exact .inr (by decide)
  · cases exponent with
    | nil => cases hc
    | cons e cs =>
      rcases List.mem_cons.1 hc with rfl | hc
      · rcases hmark c rfl with rfl | rfl
        · exact .inr (by decide)
        · exact .inr (by decide)
      · rw [isExponent, isDigits, Bool.and_eq_true, List.all_eq_true] at hexponent
        cases cs with
        | nil => cases hc
        | cons d cs =>
          rw [dropSign] at hexponent
          split at hexponent
          case isTrue hsign =>
            rcases List.mem_cons.1 hc with rfl | hc
            · rw [Bool.or_eq_true, decide_eq_true_eq, decide_eq_true_eq] at hsign
              rcases hsign with rfl | rfl
              · exact .inr (by decide)
              · exact .inr (by decide)
            · exact .inl (hexponent.2 c hc)
          case isFalse => exact .inl (hexponent.2 c hc)

end Condition

/-! ## Signs -/

namespace Decimal

open Condition

variable {text : String} {cs : List Char} {negative : Bool}

/-- The sign does not matter for the digits. -/
theorem readFinite?_sign {c : Nat} {e : Int} (h : readFinite? false cs = some (.finite false c e)) (negative : Bool) :
    readFinite? negative cs = some (.finite negative c e) := by
  unfold readFinite? at h ⊢
  dsimp only at h ⊢
  split at h
  all_goals
    -- with a point and without one
    split at h
    · cases h
    · rename_i hsome
      obtain ⟨e', he', heq⟩ := Option.map_eq_some_iff.1 h
      cases heq
      rw [if_neg hsome, he']
      rfl

theorem toFloat_neg (c : Nat) (e : Int) :
    (RealNumeral.finite true c e).toFloat = -(RealNumeral.finite false c e).toFloat := by
  unfold RealNumeral.toFloat
  dsimp only
  split
  · exact nearest_neg _ _
  · split
    · exact nearest_neg _ _
    · split
      · exact nearest_neg _ _
      · exact nearest_neg _ _

/-- A number after its sign. -/
structure SignedNumeral (text : String) (negative : Bool) (cs : List Char) : Prop where
  sign : spanSign (trimWhile isMargin text.toList) = (negative, cs)
  numeral : IsNumeral cs

theorem isMargin_of_mem {c : Char} (h : isDecimalDigit c = true ∨ c ∈ ['.', 'e', 'E', '+', '-']) :
    isMargin c = false := by
  have hmarks : ∀ c ∈ ['.', 'e', 'E', '+', '-'], isMargin c = false :=
    List.all_iff_forall_prop.1 (by decide)
  rcases h with hdigit | hmark
  · rw [isMargin, isBlank_of_isDecimalDigit hdigit]
    rfl
  · exact hmarks c hmark

theorem signedNumeral_plain (h : IsNumeral text.toList) : SignedNumeral text false text.toList := by
  refine ⟨?_, h⟩
  rw [trimWhile_eq_self fun c hc => isMargin_of_mem (h.mem hc)]
  obtain ⟨d, rest, hcons, hdigit⟩ := h.exists_cons
  rw [hcons]
  exact spanSign_of_digit hdigit rest

theorem signedNumeral_minus (h : IsNumeral text.toList) : SignedNumeral ("-" ++ text) true text.toList := by
  refine ⟨?_, h⟩
  have htext : ("-" ++ text).toList = '-' :: text.toList := String.toList_append
  rw [htext, trimWhile_eq_self]
  · rfl
  · rw [List.forall_mem_cons]
    exact ⟨by decide, fun c hc => isMargin_of_mem (h.mem hc)⟩

/-- A number reads as a finite real number with its sign. -/
theorem readReal?_of_isNumeral (h : IsNumeral cs) :
    ∃ c e, ∀ text negative, SignedNumeral text negative cs → readReal? text = some (.finite negative c e) := by
  obtain ⟨mantissa, exponent, rfl, hmantissa, hmark, hexponent⟩ := id h
  obtain ⟨numeral, hread⟩ :=
    Option.isSome_iff_exists.1 (isSome_readFinite? hmantissa.isPointed hmark hexponent false)
  obtain ⟨c, e, rfl⟩ := finite_of_readFinite? hread
  refine ⟨c, e, fun text negative hsigned => ?_⟩
  have hword : ∀ c ∈ mantissa ++ exponent, c.toLower ≠ 'n' := by
    intro c hc hn
    have hletters : ∀ c ∈ ['.', 'e', 'E', '+', '-'], c.toLower ≠ 'n' :=
      List.all_iff_forall_prop.1 (by decide)
    rcases h.mem hc with hdigit | hmark
    · rcases eq_of_toLower_n hn with rfl | rfl
      · exact absurd hdigit (by decide)
      · exact absurd hdigit (by decide)
    · exact hletters c hmark hn
  rw [readReal?_eq_readFinite? (by rw [hsigned.sign]; exact hword), hsigned.sign]
  exact readFinite?_sign hread negative

/-- With a minus sign before it a number reads as the real number with the other sign. -/
theorem readFloat?_minus (h : IsNumeral text.toList) :
    ∃ x, readFloat? text = some x ∧ readFloat? ("-" ++ text) = some (-x) := by
  obtain ⟨c, e, hread⟩ := readReal?_of_isNumeral h
  refine ⟨(RealNumeral.finite false c e).toFloat, ?_, ?_⟩
  · rw [readFloat?, hread text false (signedNumeral_plain h)]
    rfl
  · rw [readFloat?, hread _ true (signedNumeral_minus h), Option.map_some, toFloat_neg]

/-- A number without a point and an exponent is digits alone. -/
theorem isDigits_of_isNumeral (h : IsNumeral text.toList) (hwhole : isRealNumeral text = false) :
    isDigits text.toList = true := by
  have hplain : ∀ c ∈ text.toList, c ≠ '.' ∧ c ≠ 'e' ∧ c ≠ 'E' := by
    intro c hc
    rw [isRealNumeral, List.any_eq_false] at hwhole
    simpa [not_or, and_assoc] using hwhole c hc
  obtain ⟨mantissa, exponent, happend, ⟨whole, fraction, rfl, hne, hdigits, hfraction⟩, hmark, -⟩ := h
  rw [happend] at hplain ⊢
  have hexponent : exponent = [] := by
    cases exponent with
    | nil => rfl
    | cons e exponent =>
      obtain ⟨-, hlower, hupper⟩ := hplain e (by simp)
      rcases hmark e rfl with rfl | rfl
      · exact absurd rfl hlower
      · exact absurd rfl hupper
  have hpoint : fraction = [] := by
    rcases hfraction with hnone | ⟨digits, rfl, -, -⟩
    · exact hnone
    · exact absurd rfl (hplain '.' (by simp)).1
  rw [hexponent, hpoint, List.append_nil, List.append_nil, isDigits, Bool.and_eq_true, List.all_eq_true]
  exact ⟨by simpa using hne, hdigits⟩

/-- With a minus sign before it a number reads as the integer with the other sign. -/
theorem readInteger?_minus (h : IsNumeral text.toList) (hwhole : isRealNumeral text = false) :
    ∃ n, readInteger? text = some n ∧ readInteger? ("-" ++ text) = some (-n) := by
  obtain ⟨hspan, hne⟩ := spanDigits_of_isDigits (isDigits_of_isNumeral h hwhole)
  exact ⟨_, readInteger?_eq (signedNumeral_plain h).sign hspan hne,
    readInteger?_eq (signedNumeral_minus h).sign hspan hne⟩

/-! ## Two minus signs -/

/-- The text starts with two minus signs. -/
def StartsTwice (cs : List Char) : Prop :=
  ∃ rest, cs = '-' :: '-' :: rest

theorem StartsTwice.trimWhile {p : Char → Bool} (h : StartsTwice cs) (hp : p '-' = false) :
    StartsTwice (trimWhile p cs) := by
  obtain ⟨rest, rfl⟩ := h
  obtain ⟨before, after, hbefore, hafter, hsplit⟩ := exists_trimWhile p ('-' :: '-' :: rest)
  generalize Text.trimWhile p ('-' :: '-' :: rest) = trimmed at hsplit ⊢
  have hnot : ∀ {cs : List Char}, (∀ c ∈ cs, p c = true) → ∀ tail, cs ≠ '-' :: tail := by
    rintro cs hall tail rfl
    rw [hall '-' (by simp)] at hp
    cases hp
  cases before with
  | cons c before =>
    have hc : c = '-' := (List.cons.inj hsplit).1.symm
    exact absurd (congrArg (· :: before) hc) (hnot hbefore before)
  | nil =>
    match trimmed, hsplit with
    | [], hsplit => exact absurd hsplit.symm (hnot hafter _)
    | [c], hsplit =>
      cases hsplit
      exact absurd rfl (hnot hafter rest)
    | c :: d :: trimmed, hsplit =>
      cases hsplit
      exact ⟨trimmed, rfl⟩

theorem readInteger?_startsTwice (h : StartsTwice text.toList) : readInteger? text = none := by
  obtain ⟨rest, hrest⟩ := h.trimWhile (p := isMargin) (by decide)
  rw [readInteger?, hrest]
  rfl

theorem readReal?_startsTwice (h : StartsTwice text.toList) : readReal? text = none := by
  obtain ⟨rest, hrest⟩ := h.trimWhile (p := isMargin) (by decide)
  have hword : ∀ word : String, word.toList.head? ≠ some '-' →
      String.ofList (('-' :: rest).map Char.toLower) ≠ word := by
    rintro word hhead rfl
    rw [String.toList_ofList] at hhead
    exact hhead rfl
  unfold readReal?
  rw [hrest]
  dsimp only [spanSign]
  split
  · exact absurd ‹_› (hword _ (by decide))
  · exact absurd ‹_› (hword _ (by decide))
  · exact absurd ‹_› (hword _ (by decide))
  · rfl

theorem StartsTwice.strip (h : StartsTwice text.toList) : StartsTwice (strip text).toList := by
  rw [Text.strip, String.toList_ofList]
  exact h.trimWhile (by decide)

end Decimal

end Relational
