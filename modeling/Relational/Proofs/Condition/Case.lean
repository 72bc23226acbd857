import Relational.Proofs.Condition.Quotes
import Relational.Proofs.Text.Case

/-!
# Words of a condition in small letters

A word is cut into the same pieces in small letters, because the keywords of conditions are recognised in any case. A
text without quotes is cut by itself, whatever follows it, as long as that does not carry it on.
-/

namespace Relational.Condition

open Text

variable {mode : Mode} {c : Char} {cs word rest : List Char} {t : Terminal} {pieces : List Piece}

theorem isLetterOf_toLower {letter : Char} (hletter : IsKeywordLetter letter) (c : Char) :
    isLetterOf letter c.toLower = isLetterOf letter c := by
  have hletters : ∀ letter, IsKeywordLetter letter →
      ∀ n < 26, isLetterOf letter (capital n).toLower = isLetterOf letter (capital n) := by
    unfold IsKeywordLetter
    exact List.all_iff_forall_prop.1 (by decide)
  exact eq_toLower (isLetterOf letter) (hletters letter hletter) c

theorem isNameStart_toLower (c : Char) : isNameStart c.toLower = isNameStart c :=
  eq_toLower isNameStart (by decide) c

theorem isNamePart_toLower (c : Char) : isNamePart c.toLower = isNamePart c :=
  eq_toLower isNamePart (by decide) c

theorem startsWithWord_map_toLower {letters : List Char} (hletters : ∀ l ∈ letters, IsKeywordLetter l) (cs : List Char) :
    startsWithWord letters (cs.map Char.toLower) = startsWithWord letters cs := by
  induction letters generalizing cs with
  | nil =>
    cases cs with
    | nil => rfl
    | cons c cs => rw [List.map_cons, startsWithWord, startsWithWord, isWordChar_toLower]
  | cons l letters ih =>
    rw [List.forall_mem_cons] at hletters
    cases cs with
    | nil => rfl
    | cons c cs => rw [List.map_cons, startsWithWord, startsWithWord, isLetterOf_toLower hletters.1, ih hletters.2]

theorem keywordLength?_map_toLower {words : List (Terminal × String)} (hwords : ∀ w ∈ words, w ∈ keywords)
    (cs : List Char) : keywordLength? words (cs.map Char.toLower) = keywordLength? words cs := by
  rw [keywordLength?, keywordLength?, List.find?_congr]
  intro w hw
  apply startsWithWord_map_toLower
  intro l hl
  exact List.mem_flatMap.2 ⟨w, hwords w hw, hl⟩

theorem nameLength?_map_toLower (cs : List Char) : nameLength? (cs.map Char.toLower) = nameLength? cs := by
  cases cs with
  | nil => rfl
  | cons c cs =>
    rw [List.map_cons, nameLength?, nameLength?, isNameStart_toLower, takeWhile_map_toLower isNamePart_toLower,
      List.length_map]

theorem digitCount_map_toLower (cs : List Char) : digitCount (cs.map Char.toLower) = digitCount cs := by
  rw [digitCount, digitCount, takeWhile_map_toLower isDecimalDigit_toLower, List.length_map]

theorem fractionLength_map_toLower (cs : List Char) : fractionLength (cs.map Char.toLower) = fractionLength cs := by
  cases cs with
  | nil => rfl
  | cons c cs =>
    by_cases hc : c = '.'
    · rw [hc]
      show (if digitCount (cs.map Char.toLower) = 0 then 0 else 1 + digitCount (cs.map Char.toLower)) = _
      rw [digitCount_map_toLower]
      rfl
    · have hlower : c.toLower ≠ '.' := mt (toLower_eq_iff (by decide) (by decide)).1 hc
      rw [fractionLength_eq_zero, fractionLength_eq_zero]
      · simpa using hc
      · simpa using hlower

theorem exponentLength_map_toLower (cs : List Char) : exponentLength (cs.map Char.toLower) = exponentLength cs := by
  cases cs with
  | nil => rfl
  | cons e cs =>
    have he : ((e.toLower = 'e' || e.toLower = 'E') : Bool) = (e = 'e' || e = 'E') :=
      eq_toLower (fun e => (e = 'e' || e = 'E' : Bool)) (by decide) e
    have hdigits := digitCount_map_toLower
    cases cs with
    | nil => simp only [List.map_cons, List.map_nil, exponentLength, he]
    | cons d cs =>
      have hplus : d.toLower = '+' ↔ d = '+' := toLower_eq_iff (by decide) (by decide)
      have hminus : d.toLower = '-' ↔ d = '-' := toLower_eq_iff (by decide) (by decide)
      have hrest := hdigits (d :: cs)
      rw [List.map_cons] at hrest
      by_cases hd : d = '+'
      · simp [hd, exponentLength, he, hdigits]
      · by_cases hd' : d = '-'
        · simp [hd', exponentLength, he, hdigits]
        · simp [exponentLength, he, hrest, hplus, hminus, hd, hd']

theorem numberLength?_map_toLower (cs : List Char) : numberLength? (cs.map Char.toLower) = numberLength? cs := by
  rw [numberLength?, numberLength?, digitCount_map_toLower]
  simp only [← List.map_drop, fractionLength_map_toLower, exponentLength_map_toLower]

/-- The terminal at the start of a word is the same for the word in small letters. -/
theorem terminal?_map_toLower (hc : isWordChar c = true) (cs : List Char) :
    terminal? mode ((c :: cs).map Char.toLower) = terminal? mode (c :: cs) := by
  have hmark : ∀ c : Char, isWordChar c = true → c ≠ '\'' ∧ c ≠ '"' ∧ c ∉ marks := by
    intro c hc
    refine ⟨?_, ?_, not_mem_marks (.inl hc)⟩
    · rintro rfl
      exact absurd hc (by decide)
    · rintro rfl
      exact absurd hc (by decide)
  have hother : ∀ (c : Char) (cs : List Char), isWordChar c = true →
      (stringLength? (c :: cs)).or (symbolLength? (c :: cs)) = none := by
    intro c cs hc
    obtain ⟨hsingle, hdouble, hsymbol⟩ := hmark c hc
    rw [stringLength?_eq_none hsingle hdouble, symbolLength?_eq_none hsymbol]
    rfl
  have hlower : isWordChar c.toLower = true := by
    rw [isWordChar_toLower, hc]
  have hwords := fun w (hw : w ∈ keywords.filter fun w => mode.admits w.1) => List.mem_of_mem_filter hw
  rw [terminal?, terminal?, keywordLength?_map_toLower hwords, keywordLength?_map_toLower (fun w hw => hw),
    nameLength?_map_toLower, numberLength?_map_toLower, List.map_cons, hother _ _ hlower, hother _ _ hc]

/-- The piece in small letters. -/
def Piece.small (piece : Piece) : Piece :=
  (piece.1, piece.2.map Char.toLower)

/-- A word is cut in the same way in small letters. -/
theorem cut_map_toLower (hword : ∀ c ∈ cs, isWordChar c = true) :
    cut mode (cs.map Char.toLower) = (cut mode cs).map (List.map Piece.small) := by
  -- on the length of the word: a piece is followed by a shorter one
  induction hlength : cs.length using Nat.strongRecOn generalizing mode cs with
  | _ length ih =>
    cases cs with
    | nil => simp
    | cons c cs =>
      have hc := hword c (by simp)
      have hgap := isGap_of_isWordChar hc
      have hgap' : isGap c.toLower = false := isGap_of_isWordChar (by rw [isWordChar_toLower, hc])
      have hterminal : terminal? mode ((c :: cs).map Char.toLower) = terminal? mode (c :: cs) :=
        terminal?_map_toLower hc cs
      rw [List.map_cons] at hterminal ⊢
      cases hfound : terminal? mode (c :: cs) with
      | none =>
        rw [hfound] at hterminal
        rw [cut_none hgap hfound, cut_none hgap' hterminal]
        rfl
      | some found =>
        obtain ⟨t, n⟩ := found
        rw [hfound] at hterminal
        have hrest : ∀ d ∈ cs.drop (n - 1), isWordChar d = true := fun d hd =>
          hword d (List.mem_cons_of_mem c (List.mem_of_mem_drop hd))
        have hshort : (cs.drop (n - 1)).length < length := by
          rw [← hlength, List.length_drop, List.length_cons]
          omega
        rw [cut_piece hgap hfound, cut_piece hgap' hterminal, ← List.map_drop, ih _ hshort hrest rfl, Option.map_map,
          Option.map_map, ← List.map_take]
        rfl

/-- What a condition can go on with after some pieces. -/
def Mode.afterAll (mode : Mode) (pieces : List Piece) : Mode :=
  pieces.foldl (fun mode piece => mode.next piece.1) mode

/-- A text without quotes is cut by itself, if what follows does not carry it on. -/
theorem cut_append_unquoted (hword : ∀ c ∈ word, isUnquoted c = true) (hrest : NotNext carriesOn rest) :
    cut mode (word ++ rest) =
      (cut mode word).bind fun pieces => (cut (mode.afterAll pieces) rest).map (pieces ++ ·) := by
  -- on the length of the text: a gap and a piece are followed by a shorter one
  induction hlength : word.length using Nat.strongRecOn generalizing mode word with
  | _ length ih =>
    cases word with
    | nil => simp [Mode.afterAll]
    | cons c word =>
      have hquote := isUnquoted_iff.1 (hword c (by simp))
      have hshort : ∀ n, (word.drop n).length < length := by
        intro n
        rw [← hlength, List.length_drop, List.length_cons]
        omega
      have htail : ∀ n, ∀ d ∈ word.drop n, isUnquoted d = true := fun n d hd =>
        hword d (List.mem_cons_of_mem c (List.mem_of_mem_drop hd))
      cases hgap : isGap c with
      | true =>
        rw [List.cons_append, cut_gap hgap, cut_gap hgap]
        exact ih _ (hshort 0) (htail 0) rfl
      | false =>
        have hterminal := terminal?_append_of_notNext mode hquote.1 hquote.2 hrest word
        cases hfound : terminal? mode (c :: word) with
        | none =>
          rw [hfound, List.cons_append] at hterminal
          rw [List.cons_append, cut_none hgap hterminal, cut_none hgap hfound]
          rfl
        | some found =>
          obtain ⟨t, n⟩ := found
          rw [hfound, List.cons_append] at hterminal
          have hwithin := (terminal?_length hfound).2
          rw [List.length_cons] at hwithin
          have hle : n - 1 ≤ word.length := by omega
          rw [List.cons_append, cut_piece hgap hterminal, cut_piece hgap hfound, List.drop_append_of_le_length hle,
            List.take_append_of_le_length hle, ih _ (hshort _) (htail _) rfl]
          cases cut (mode.next t) (word.drop (n - 1)) with
          | none => rfl
          | some pieces =>
            simp only [Option.map_some, Option.bind_some, Option.map_map]
            rfl

end Relational.Condition
