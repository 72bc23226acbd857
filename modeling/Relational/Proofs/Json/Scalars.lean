import Relational.Json.Parser
import Relational.Json.Printer
import Relational.Proofs.Decimal

/-!
# Texts and integers read back

What is written for a text or an integer reads back as it was. A text ends at its quote; an integer needs to know
that no more of a number follows.
-/

namespace Relational.Json

open Decimal Text

/-! ## Hexadecimal digits -/

theorem hexValue?_hexDigit : ∀ d < 16, hexValue? (hexDigit d) = some d := by
  decide

theorem hexQuad?_hexDigits {n : Nat} (h : n < 0x10000) (rest : List Char) :
    hexQuad? (hexDigits 4 n ++ rest) = some (n, rest) := by
  have hvalue : ∀ m, hexValue? (hexDigit (m % 16)) = some (m % 16) := fun m =>
    hexValue?_hexDigit _ (Nat.mod_lt m (by decide))
  simp only [hexDigits, List.nil_append, List.cons_append, hexQuad?, hvalue]
  congr 2
  omega

/-! ## Characters -/

theorem unitChar_toNat {c : Char} : unitChar c.toNat = c := by
  have hvalid : c.toNat < 0xd800 ∨ 0xdfff < c.toNat ∧ c.toNat < 0x110000 := c.valid
  have hhigh : isHighSurrogate c.toNat = false := by
    simp only [isHighSurrogate, Bool.and_eq_false_iff, decide_eq_false_iff_not]
    omega
  have hlow : isLowSurrogate c.toNat = false := by
    simp only [isLowSurrogate, Bool.and_eq_false_iff, decide_eq_false_iff_not]
    omega
  rw [unitChar, hhigh, hlow]
  exact Char.ofNat_toNat c

/-- A character with one code unit. -/
theorem readEscaped?_unit {c : Char} (h : c.toNat < 0x10000) (rest : List Char) :
    readEscaped? (hexDigits 4 c.toNat ++ rest) = some (c, rest) := by
  have hvalid : c.toNat < 0xd800 ∨ 0xdfff < c.toNat ∧ c.toNat < 0x110000 := c.valid
  have hhigh : isHighSurrogate c.toNat = false := by
    simp only [isHighSurrogate, Bool.and_eq_false_iff, decide_eq_false_iff_not]
    omega
  simp [readEscaped?, hexQuad?_hexDigits h, hhigh, unitChar_toNat]

/-- A character with two code units. -/
theorem readEscaped?_pair {n : Nat} (h : n < 0x100000) (rest : List Char) :
    readEscaped? (hexDigits 4 (0xd800 + n / 0x400) ++ unitEscape (0xdc00 + n % 0x400) ++ rest)
      = some (Char.ofNat (0x10000 + n), rest) := by
  have hhigh : isHighSurrogate (0xd800 + n / 0x400) = true := by
    simp only [isHighSurrogate, Bool.and_eq_true, decide_eq_true_eq]
    omega
  have hlow : isLowSurrogate (0xdc00 + n % 0x400) = true := by
    simp only [isLowSurrogate, Bool.and_eq_true, decide_eq_true_eq]
    omega
  have hjoined : 0x10000 + (0xd800 + n / 0x400 - 0xd800) * 0x400 + (0xdc00 + n % 0x400 - 0xdc00) = 0x10000 + n := by
    omega
  rw [List.append_assoc, readEscaped?, hexQuad?_hexDigits (by omega)]
  simp only [hhigh, if_true, unitEscape, List.cons_append]
  rw [hexQuad?_hexDigits (by omega)]
  simp only [hlow, if_true, surrogateChar, hjoined]

/-- One character after another. -/
theorem readChars_charText (fuel : Nat) (c : Char) (rest : List Char) :
    readChars (fuel + 1) (charText c ++ rest) = (readChars fuel rest).map fun (chars, rest) => (c :: chars, rest) := by
  unfold charText
  split
  · rename_i hescaped
    -- a quote and a backslash have a backslash before them
    rcases Bool.or_eq_true_iff.1 hescaped with h | h <;>
      (rw [decide_eq_true_eq] at h; subst h; simp [readChars, escapedChar?])
  have hne : c ≠ '"' ∧ c ≠ '\\' := by simp_all
  split
  · -- a visible character stands for itself
    rename_i hvisible
    have hge : 0x20 ≤ c.toNat := by
      rw [Bool.and_eq_true_iff, decide_eq_true_eq] at hvisible
      exact hvisible.1
    rw [List.singleton_append, readChars.eq_def]
    split <;> simp_all [Nat.not_lt.2 hge]
  -- the five control characters with a letter of their own
  split
  · simp_all [readChars, escapedChar?]
  split
  · simp_all [readChars, escapedChar?]
  split
  · simp_all [readChars, escapedChar?]
  split
  · simp_all [readChars, escapedChar?]
  split
  · simp_all [readChars, escapedChar?]
  split
  · rename_i hunit
    simp [unitEscape, readChars, readEscaped?_unit hunit]
  · have hvalid : c.toNat < 0xd800 ∨ 0xdfff < c.toNat ∧ c.toNat < 0x110000 := c.valid
    -- the two units of a pair give the character again
    have hback : 0x10000 + (c.toNat - 0x10000) = c.toNat := by omega
    have hread := readEscaped?_pair (show c.toNat - 0x10000 < 0x100000 by omega) rest
    rw [hback, Char.ofNat_toNat] at hread
    simp only [unitEscape, List.cons_append, List.append_assoc, readChars] at hread ⊢
    rw [hread]
    rfl

/-- A text up to its quote. -/
theorem readChars_flatMap {cs : List Char} {fuel : Nat} (h : cs.length < fuel) (rest : List Char) :
    readChars fuel (cs.flatMap charText ++ '"' :: rest) = some (cs, rest) := by
  induction cs generalizing fuel with
  | nil =>
    obtain ⟨fuel, rfl⟩ := Nat.exists_eq_add_of_lt h
    simp [readChars]
  | cons c cs ih =>
    obtain ⟨fuel, rfl⟩ := Nat.exists_eq_add_of_lt h
    rw [List.flatMap_cons, List.append_assoc, readChars_charText, ih (by simp; omega)]
    rfl

theorem length_charText_pos (c : Char) : 0 < (charText c).length := by
  unfold charText
  repeat (split; · simp)
  split <;> simp [unitEscape]

theorem length_le_flatMap (cs : List Char) : cs.length ≤ (cs.flatMap charText).length := by
  induction cs with
  | nil => simp
  | cons c cs ih =>
    have hpos := length_charText_pos c
    rw [List.flatMap_cons, List.length_append, List.length_cons]
    omega

/-- A text after its opening quote. -/
theorem readText_textChars (s : String) (rest : List Char) :
    readText (s.toList.flatMap charText ++ '"' :: rest) = some (s, rest) := by
  have hfuel : s.toList.length < (s.toList.flatMap charText ++ '"' :: rest).length := by
    have hle := length_le_flatMap s.toList
    rw [List.length_append, List.length_cons]
    omega
  rw [readText, readChars_flatMap hfuel]
  simp only [Option.map_some, String.ofList_toList]

/-! ## Integers -/

/-- What may follow a number: nothing that could be one more part of it. -/
def EndsNumber (rest : List Char) : Prop :=
  ∀ c more, rest = c :: more → c.isDigit = false ∧ c ≠ '.' ∧ c ≠ 'e' ∧ c ≠ 'E'

theorem EndsNumber.cons {c : Char} (h : c.isDigit = false ∧ c ≠ '.' ∧ c ≠ 'e' ∧ c ≠ 'E') (more : List Char) :
    EndsNumber (c :: more) := by
  intro c' more' heq
  cases heq
  exact h

theorem spanAscii_append {digits rest : List Char} (hdigits : ∀ c ∈ digits, c.isDigit = true)
    (hrest : EndsNumber rest) :
    spanAscii (digits ++ rest) = (digits, rest) := by
  rw [spanAscii, List.takeWhile_append_of_pos hdigits, List.dropWhile_append_of_pos hdigits]
  cases rest with
  | nil => simp
  | cons c more => simp [(hrest c more rfl).1]

theorem readWhole_natDigits (n : Nat) {rest : List Char} (hrest : EndsNumber rest) :
    readWhole (natDigits n ++ rest) = some (natDigits n, rest) := by
  have hspan := spanAscii_append (fun c hc => isDigit_of_mem_natDigits (n := n) hc) hrest
  rcases Nat.eq_zero_or_pos n with rfl | hpos
  · -- a zero stands alone
    rw [natDigits_of_lt (by decide)]
    rfl
  · have hhead := head_natDigits hpos
    cases hdigits : natDigits n with
    | nil => exact absurd hdigits (natDigits_ne_nil n)
    | cons d digits =>
      have hd : d.isDigit = true := isDigit_of_mem_natDigits (by rw [hdigits]; simp)
      rw [hdigits] at hspan hhead
      rw [List.cons_append] at hspan ⊢
      rw [readWhole.eq_def]
      split
      · simp_all
      · rw [hspan]
        simp [hd]

theorem readNumber_natDigits (negative : Bool) (n : Nat) {rest : List Char} (hrest : EndsNumber rest) :
    readNumber negative (natDigits n ++ rest) = some (.int (if negative then -n else n), rest) := by
  have hfraction : readFraction rest = ([], rest) := by
    unfold readFraction
    split
    · rename_i more
      exact absurd rfl (hrest '.' more rfl).2.1
    · rfl
  have hexponent : readExponent rest = (none, rest) := by
    cases rest with
    | nil => rfl
    | cons c more => simp [readExponent, (hrest c more rfl).2.2]
  have hvalue : digitsValue (natDigits n) = n := ofDigits_natDigits n
  rw [readNumber, readWhole_natDigits n hrest]
  simp [hfraction, hexponent, hvalue]

theorem dropWord?_natDigits {w : Char} (hw : w.isDigit = false) (word : List Char) (n : Nat) (rest : List Char) :
    dropWord? (w :: word) (natDigits n ++ rest) = none := by
  cases hdigits : natDigits n with
  | nil => exact absurd hdigits (natDigits_ne_nil n)
  | cons d digits =>
    have hd : d.isDigit = true := isDigit_of_mem_natDigits (by rw [hdigits]; simp)
    rw [List.cons_append, dropWord?, if_neg]
    rintro rfl
    rw [hd] at hw
    cases hw

theorem readScalar_intText (n : Int) {rest : List Char} (hrest : EndsNumber rest) :
    readScalar ((intText n).toList ++ rest) = some (.int n, rest) := by
  rw [intText]
  split
  · rename_i hneg
    have hword : dropWord? "Infinity".toList (natDigits n.natAbs ++ rest) = none :=
      dropWord?_natDigits (w := 'I') (by decide) _ _ _
    have hback : -(n.natAbs : Int) = n := by omega
    -- after a minus sign there could be an infinity, but there are digits
    simp only [String.toList_append, natText, String.toList_ofList]
    show readScalar ('-' :: (natDigits n.natAbs ++ rest)) = _
    simp only [readScalar, hword, readNumber_natDigits true _ hrest, if_true, hback]
  · rename_i hnonneg
    have hback : (n.natAbs : Int) = n := by omega
    rw [natText, String.toList_ofList]
    cases hdigits : natDigits n.natAbs with
    | nil => exact absurd hdigits (natDigits_ne_nil _)
    | cons d digits =>
      have hd : d.isDigit = true := isDigit_of_mem_natDigits (by rw [hdigits]; simp)
      have hnumber := readNumber_natDigits false n.natAbs hrest
      rw [hdigits, List.cons_append] at hnumber
      rw [List.cons_append, readScalar.eq_def]
      split
      · rename_i heq
        cases heq
        exact absurd hd (by decide)
      · rw [hnumber, hback]
        rfl

end Relational.Json
