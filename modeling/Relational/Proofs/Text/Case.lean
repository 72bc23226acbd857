import Relational.Condition.Lexer
import Relational.Name
import Relational.Proofs.Text.Letter
import Relational.Sql.Parser

/-!
# Capitals and small letters

A text in small letters has its ASCII capitals replaced, and nothing else. No class of characters tells a capital from
its small letter, so a test that leaves case aside has the same answer for a text and for the text in small letters.
-/

namespace Relational.Text

variable {c : Char} {cs : List Char} {p : Char → Bool}

/-! ## Single characters -/

/-- The capitals, by their number from zero. No other characters have another one for their small letter. -/
def capital (n : Nat) : Char :=
  Char.ofNat (65 + n)

theorem toLower_cases (c : Char) : c.toLower = c ∨ ∃ n < 26, c = capital n := by
  by_cases hcapital : c.val ≥ 'A'.val ∧ c.val ≤ 'Z'.val
  · right
    have hlow : 65 ≤ c.toNat := hcapital.1
    have hhigh : c.toNat ≤ 90 := hcapital.2
    refine ⟨c.toNat - 65, by omega, ?_⟩
    rw [capital, Nat.add_sub_cancel' hlow, Char.ofNat_toNat]
  · left
    exact dif_neg hcapital

/-- What is the same for a capital and its small letter is the same for every character and its small letter. -/
theorem eq_toLower {β : Type} (f : Char → β) (h : ∀ n < 26, f (capital n).toLower = f (capital n)) (c : Char) :
    f c.toLower = f c := by
  rcases toLower_cases c with hc | ⟨n, hn, rfl⟩
  · rw [hc]
  · exact h n hn

theorem isWordChar_toLower (c : Char) : isWordChar c.toLower = isWordChar c :=
  eq_toLower isWordChar (by decide) c

theorem isDigitLike_toLower (c : Char) : isDigitLike c.toLower = isDigitLike c :=
  eq_toLower isDigitLike (by decide) c

theorem isDecimalDigit_toLower (c : Char) : isDecimalDigit c.toLower = isDecimalDigit c :=
  eq_toLower isDecimalDigit (by decide) c

theorem isBlank_toLower (c : Char) : isBlank c.toLower = isBlank c :=
  eq_toLower isBlank (by decide) c

theorem isCased_toLower (c : Char) : isCased c.toLower = isCased c :=
  eq_toLower isCased (by decide) c

theorem isCaseIgnorable_toLower (c : Char) : isCaseIgnorable c.toLower = isCaseIgnorable c :=
  eq_toLower isCaseIgnorable (by decide) c

theorem upperChar_toLower (c : Char) : upperChar c.toLower = upperChar c :=
  eq_toLower upperChar (by decide) c

theorem lowerChar_toLower (c : Char) : lowerChar c.toLower = lowerChar c :=
  eq_toLower lowerChar (by decide) c

/-- A character that is no ASCII letter is no small letter of another one. -/
theorem toLower_eq_iff {d : Char} (hd : d.toLower = d) (hletter : ∀ n < 26, (capital n).toLower ≠ d) :
    c.toLower = d ↔ c = d := by
  constructor
  · intro h
    rcases toLower_cases c with hc | ⟨n, hn, rfl⟩
    · rw [← hc, h]
    · exact absurd h (hletter n hn)
  · intro h
    rw [h, hd]

/-! ## Characters of a text -/

theorem takeWhile_map_toLower (hp : ∀ c, p c.toLower = p c) (cs : List Char) :
    (cs.map Char.toLower).takeWhile p = (cs.takeWhile p).map Char.toLower := by
  have hsame : p ∘ Char.toLower = p := funext hp
  rw [List.takeWhile_map, hsame]

theorem dropWhile_map_toLower (hp : ∀ c, p c.toLower = p c) (cs : List Char) :
    (cs.map Char.toLower).dropWhile p = (cs.dropWhile p).map Char.toLower := by
  have hsame : p ∘ Char.toLower = p := funext hp
  rw [List.dropWhile_map, hsame]

theorem all_map_toLower (hp : ∀ c, p c.toLower = p c) (cs : List Char) : (cs.map Char.toLower).all p = cs.all p := by
  have hsame : p ∘ Char.toLower = p := funext hp
  rw [List.all_map, hsame]

theorem wordsFrom_map_toLower (word cs : List Char) :
    wordsFrom (word.map Char.toLower) (cs.map Char.toLower) = (wordsFrom word cs).map (List.map Char.toLower) := by
  induction cs generalizing word with
  | nil =>
    rw [List.map_nil, wordsFrom, wordsFrom, List.isEmpty_map]
    split
    · rfl
    · rw [List.map_singleton, List.map_reverse]
  | cons c cs ih =>
    have hnil := ih []
    rw [List.map_nil] at hnil
    rw [List.map_cons, wordsFrom, wordsFrom, isBlank_toLower, List.isEmpty_map, hnil, ← List.map_cons, ih]
    split
    · split
      · rfl
      · rw [List.map_cons, List.map_reverse]
    · rfl

theorem toList_toLower (s : String) : s.toLower.toList = s.toList.map Char.toLower :=
  String.toList_map

theorem toLower_ofList (cs : List Char) : (String.ofList cs).toLower = String.ofList (cs.map Char.toLower) := by
  rw [← String.toList_inj, toList_toLower, String.toList_ofList, String.toList_ofList]

theorem toLower_eq_iff_map {s s' : String} :
    s.toLower = s'.toLower ↔ s.toList.map Char.toLower = s'.toList.map Char.toLower := by
  rw [← String.toList_inj, toList_toLower, toList_toLower]

theorem toLower_append (s s' : String) : (s ++ s').toLower = s.toLower ++ s'.toLower := by
  rw [← String.toList_inj, toList_toLower, String.toList_append, String.toList_append, toList_toLower, toList_toLower,
    List.map_append]

theorem toLower_intercalate (sep : String) (texts : List String) :
    (sep.intercalate texts).toLower = sep.toLower.intercalate (texts.map String.toLower) := by
  induction texts with
  | nil =>
    rw [← String.toList_inj, toList_toLower]
    simp
  | cons text texts ih =>
    cases texts with
    | nil => simp
    | cons text' texts =>
      rw [String.intercalate_cons_cons, toLower_append, toLower_append, ih]
      simp only [List.map_cons, String.intercalate_cons_cons]

/-! ## Whole texts -/

theorem meetsCased_map_toLower (cs : List Char) : meetsCased (cs.map Char.toLower) = meetsCased cs := by
  rw [meetsCased, meetsCased, dropWhile_map_toLower isCaseIgnorable_toLower]
  cases cs.dropWhile isCaseIgnorable with
  | nil => rfl
  | cons c cs => exact isCased_toLower c

theorem lowerFrom_map_toLower (before cs : List Char) :
    lowerFrom (before.map Char.toLower) (cs.map Char.toLower) = lowerFrom before cs := by
  induction cs generalizing before with
  | nil => rfl
  | cons c cs ih =>
    have hsigma : c.toLower = 'Σ' ↔ c = 'Σ' := toLower_eq_iff (by decide) (by decide)
    rw [List.map_cons, lowerFrom, lowerFrom, ← List.map_cons, ih]
    simp only [hsigma, meetsCased_map_toLower, lowerChar_toLower]

/-- Letter case is left aside in the same way for a text and for the text in small letters. -/
theorem lower_toLower (s : String) : lower s.toLower = lower s := by
  rw [lower, lower, toList_toLower]
  exact congrArg String.ofList (lowerFrom_map_toLower [] s.toList)

theorem upper_toLower (s : String) : upper s.toLower = upper s := by
  rw [upper, upper, toList_toLower, List.flatMap_map]
  simp only [upperChar_toLower]

theorem isEmpty_toLower (s : String) : s.toLower.isEmpty = s.isEmpty := by
  rw [Bool.eq_iff_iff, String.isEmpty_iff, String.isEmpty_iff, ← String.toList_inj, ← String.toList_inj, toList_toLower]
  exact List.map_eq_nil_iff

theorem sameName_toLower (a b : String) : sameName a b.toLower = sameName a b := by
  rw [sameName, sameName, lower_toLower]

end Relational.Text
