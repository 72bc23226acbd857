import Mathlib.Data.List.Infix
import Relational.Evaluation

/-!
# The language of a pattern

A pattern of LIKE describes the texts that can be cut into one piece for each of its characters, each piece one of
those that its character stands for. The matcher tries every text for `%`, so it misses none.
-/

namespace Relational.Text

/-- A piece of text that a character of a pattern stands for. -/
inductive Stands : Char → List Char → Prop
  | anyText (piece : List Char) : Stands '%' piece
  | anyChar (c : Char) : Stands '_' [c]
  | itself {c : Char} (htext : c ≠ '%') (hchar : c ≠ '_') : Stands c [c]

theorem stands_anyChar_iff {piece : List Char} : Stands '_' piece ↔ ∃ c, piece = [c] := by
  constructor
  · intro h
    cases h with
    | anyChar c => exact ⟨c, rfl⟩
    | itself _ hchar => exact absurd rfl hchar
  · rintro ⟨c, rfl⟩
    exact .anyChar c

theorem stands_itself_iff {p : Char} (htext : p ≠ '%') (hchar : p ≠ '_') {piece : List Char} :
    Stands p piece ↔ piece = [p] := by
  constructor
  · intro h
    cases h with
    | anyText => exact absurd rfl htext
    | anyChar => exact absurd rfl hchar
    | itself => rfl
  · rintro rfl
    exact .itself htext hchar

/-- The text can be cut into pieces that the characters of the pattern stand for, one by one. -/
def Described (pattern cs : List Char) : Prop :=
  ∃ pieces, List.Forall₂ Stands pattern pieces ∧ pieces.flatten = cs

theorem described_nil_iff {cs : List Char} : Described [] cs ↔ cs = [] := by
  constructor
  · rintro ⟨pieces, hpieces, rfl⟩
    cases hpieces
    rfl
  · rintro rfl
    exact ⟨[], .nil, rfl⟩

/-- The first character of the pattern takes the first piece. -/
theorem described_cons_iff {p : Char} {pattern cs : List Char} :
    Described (p :: pattern) cs ↔ ∃ piece rest, Stands p piece ∧ Described pattern rest ∧ cs = piece ++ rest := by
  constructor
  · rintro ⟨pieces, hpieces, rfl⟩
    cases hpieces with
    | cons hpiece hrest => exact ⟨_, _, hpiece, ⟨_, hrest, rfl⟩, rfl⟩
  · rintro ⟨piece, rest, hpiece, ⟨pieces, hpieces, rfl⟩, rfl⟩
    exact ⟨piece :: pieces, .cons hpiece hpieces, rfl⟩

theorem suffixes_eq_tails (cs : List Char) : suffixes cs = cs.tails := by
  induction cs with
  | nil => rfl
  | cons c cs ih => rw [suffixes, ih, List.tails_cons]

theorem fitsPattern_anyText {pattern cs : List Char} :
    fitsPattern ('%' :: pattern) cs = true ↔ ∃ rest, rest <:+ cs ∧ fitsPattern pattern rest = true := by
  rw [fitsPattern, List.any_eq_true]
  simp only [suffixes_eq_tails, List.mem_tails]

theorem fitsPattern_anyChar {pattern cs : List Char} :
    fitsPattern ('_' :: pattern) cs = true ↔ ∃ c rest, cs = c :: rest ∧ fitsPattern pattern rest = true := by
  cases cs <;> simp [fitsPattern]

theorem fitsPattern_itself {p : Char} (htext : p ≠ '%') (hchar : p ≠ '_') {pattern cs : List Char} :
    fitsPattern (p :: pattern) cs = true ↔ ∃ rest, cs = p :: rest ∧ fitsPattern pattern rest = true := by
  cases cs with
  | nil => simp [fitsPattern]
  | cons c cs =>
    have heq : fitsPattern (p :: pattern) (c :: cs) = (decide (p = c) && fitsPattern pattern cs) := by
      rw [fitsPattern] <;> assumption
    rw [heq, Bool.and_eq_true, decide_eq_true_iff]
    constructor
    · rintro ⟨rfl, hfits⟩
      exact ⟨cs, rfl, hfits⟩
    · rintro ⟨rest, hcs, hfits⟩
      obtain ⟨rfl, rfl⟩ := List.cons.inj hcs
      exact ⟨rfl, hfits⟩

/-- The matcher accepts what the pattern describes. -/
theorem fitsPattern_iff_described (pattern cs : List Char) : fitsPattern pattern cs = true ↔ Described pattern cs := by
  induction pattern generalizing cs with
  | nil => rw [fitsPattern, List.isEmpty_iff, described_nil_iff]
  | cons p pattern ih =>
    rw [described_cons_iff]
    by_cases htext : p = '%'
    · subst htext
      rw [fitsPattern_anyText]
      constructor
      · rintro ⟨rest, ⟨piece, rfl⟩, hfits⟩
        exact ⟨piece, rest, .anyText piece, (ih rest).1 hfits, rfl⟩
      · rintro ⟨piece, rest, -, hrest, rfl⟩
        exact ⟨rest, List.suffix_append piece rest, (ih rest).2 hrest⟩
    · by_cases hchar : p = '_'
      · subst hchar
        rw [fitsPattern_anyChar]
        constructor
        · rintro ⟨c, rest, rfl, hfits⟩
          exact ⟨[c], rest, .anyChar c, (ih rest).1 hfits, rfl⟩
        · rintro ⟨piece, rest, hpiece, hrest, rfl⟩
          obtain ⟨c, rfl⟩ := stands_anyChar_iff.1 hpiece
          exact ⟨c, rest, rfl, (ih rest).2 hrest⟩
      · rw [fitsPattern_itself htext hchar]
        constructor
        · rintro ⟨rest, rfl, hfits⟩
          exact ⟨[p], rest, .itself htext hchar, (ih rest).1 hfits, rfl⟩
        · rintro ⟨piece, rest, hpiece, hrest, rfl⟩
          obtain rfl := (stands_itself_iff htext hchar).1 hpiece
          exact ⟨rest, rfl, (ih rest).2 hrest⟩

end Text

section Like

variable {scope : Scope} {negated : Bool} {operand pattern : Expr} {v w : Value}

/-- A comparison by LIKE with a NULL is unknown, and one without has the pattern's answer. -/
theorem evaluate_like_eq_some_iff (hv : operand.evaluate scope = .ok v) (hw : pattern.evaluate scope = .ok w) :
    (Condition.like negated operand pattern).evaluate scope = .ok (some true) ↔
      v.isNull = false ∧ w.isNull = false ∧
        (if negated then ¬ Text.Described w.toText.toList v.toText.toList
          else Text.Described w.toText.toList v.toText.toList) := by
  have hrun : (Condition.like negated operand pattern).evaluate scope = .ok (signed negated (fits v w)) := by
    rw [Condition.evaluate, hv, hw]
    rfl
  rw [hrun, Except.ok.injEq]
  by_cases hnull : v.isNull ∨ w.isNull
  · have hfits : fits v w = none := if_pos (by simpa using hnull)
    have hsigned : signed negated (fits v w) ≠ some true := by
      rw [hfits]
      cases negated <;> decide
    refine iff_of_false hsigned ?_
    rintro ⟨hvalue, hpattern, -⟩
    simp [hvalue, hpattern] at hnull
  · simp only [not_or, Bool.not_eq_true] at hnull
    have hfits : fits v w = some (Text.fitsPattern w.toText.toList v.toText.toList) := by simp [fits, hnull]
    rw [hfits]
    simp only [hnull.1, hnull.2, true_and, ← Text.fitsPattern_iff_described]
    cases negated <;> simp [signed, Truth.not]

end Like

end Relational
