import Relational.Proofs.Condition.Cutting

/-!
# Where a terminal ends

A terminal that is no quoted text is not carried on by a quote or a bracket, so what stands after one does not matter
for it. A quoted text is not carried on by anything but a quote. Hence a text is cut in the same way when a bracket closes
it.
-/

namespace Relational.Condition

open Text

variable {mode : Mode} {c d : Char} {cs word rest : List Char} {t : Terminal} {n : Nat} {pieces : List Piece}

/-! ## What carries a terminal on -/

/-- Characters that may carry on a terminal other than a quoted text. -/
def carriesOn (c : Char) : Bool :=
  isWordChar c || ['.', '=', '>', '+', '-'].contains c

theorem NotNext.imp {p q : Char → Bool} (h : NotNext q cs) (hp : ∀ c, p c = true → q c = true) : NotNext p cs := by
  intro c hc
  rw [← Bool.not_eq_true]
  intro hcarries
  have hq := hp c hcarries
  rw [h c hc] at hq
  cases hq

theorem carriesOn_of_isDecimalDigit (h : isDecimalDigit c = true) : carriesOn c = true := by
  rw [carriesOn, isWordChar_of_isDigitLike (isDigitLike_of_isDecimalDigit h), Bool.true_or]

theorem digitCount_append_of_notNext (hrest : NotNext carriesOn rest) (cs : List Char) :
    digitCount (cs ++ rest) = digitCount cs := by
  rw [digitCount, digitCount,
    takeWhile_append_right (fun _ => id) (hrest.imp fun _ => carriesOn_of_isDecimalDigit)]

theorem fractionLength_append_of_notNext (hrest : NotNext carriesOn rest) (cs : List Char) :
    fractionLength (cs ++ rest) = fractionLength cs := by
  cases cs with
  | nil =>
    refine fractionLength_eq_zero (hrest.imp fun c hc => ?_)
    rw [eq_of_beq hc]
    decide
  | cons d cs =>
    by_cases hpoint : d = '.'
    · rw [hpoint, List.cons_append, fractionLength, fractionLength, digitCount_append_of_notNext hrest]
    · have hnone : ∀ cs, fractionLength (d :: cs) = 0 := fun cs => fractionLength_eq_zero (by simpa using hpoint)
      rw [List.cons_append, hnone, hnone]

theorem exponentLength_append_of_notNext (hrest : NotNext carriesOn rest) (cs : List Char) :
    exponentLength (cs ++ rest) = exponentLength cs := by
  cases cs with
  | nil =>
    refine exponentLength_eq_zero (hrest.imp fun c hc => ?_)
    rw [Bool.or_eq_true, decide_eq_true_eq, decide_eq_true_eq] at hc
    rcases hc with rfl | rfl
    · decide
    · decide
  | cons e cs =>
    cases cs with
    | nil =>
      cases rest with
      | nil => rfl
      | cons d rest =>
        have hd := notNext_cons.1 hrest
        have hplus : d ≠ '+' := by
          rintro rfl
          revert hd
          decide
        have hminus : d ≠ '-' := by
          rintro rfl
          revert hd
          decide
        have hdigit : isDecimalDigit d = false := by
          rw [← Bool.not_eq_true]
          intro hdigit
          rw [carriesOn_of_isDecimalDigit hdigit] at hd
          cases hd
        simp [exponentLength, digitCount, hplus, hminus, hdigit]
    | cons d cs =>
      have hdigits := digitCount_append_of_notNext hrest
      have hcons := hdigits (d :: cs)
      rw [List.cons_append] at hcons
      rw [List.cons_append, List.cons_append]
      by_cases hplus : d = '+'
      · subst hplus
        simp [exponentLength, hdigits]
      · by_cases hminus : d = '-'
        · subst hminus
          simp [exponentLength, hdigits]
        · simp [exponentLength, hplus, hminus, hcons]

theorem digitCount_le (cs : List Char) : digitCount cs ≤ cs.length :=
  (List.takeWhile_prefix _).length_le

theorem fractionLength_le (cs : List Char) : fractionLength cs ≤ cs.length := by
  unfold fractionLength
  split
  · rename_i cs
    have hdigits := digitCount_le cs
    split
    · exact Nat.zero_le _
    · rw [List.length_cons]
      omega
  · exact Nat.zero_le _

theorem exponentLength_le (cs : List Char) : exponentLength cs ≤ cs.length := by
  cases cs with
  | nil => exact Nat.le_refl 0
  | cons e cs =>
    have hsigned : ∀ sign, (sign = 0 ∨ sign = 1 ∧ cs ≠ []) →
        (if digitCount (cs.drop sign) = 0 then 0 else 1 + sign + digitCount (cs.drop sign)) ≤ cs.length + 1 := by
      intro sign hsign
      have hdigits := digitCount_le (cs.drop sign)
      rw [List.length_drop] at hdigits
      split
      · exact Nat.zero_le _
      · rcases hsign with rfl | ⟨rfl, hne⟩
        · omega
        · have hpos := List.length_pos_iff.2 hne
          omega
    unfold exponentLength
    dsimp only
    split
    · refine hsigned _ ?_
      split
      · exact .inr ⟨rfl, by simp⟩
      · exact .inr ⟨rfl, by simp⟩
      · exact .inl rfl
    · exact Nat.zero_le _

theorem numberLength?_append_of_notNext (hrest : NotNext carriesOn rest) (cs : List Char) :
    numberLength? (cs ++ rest) = numberLength? cs := by
  have hwhole : digitCount cs ≤ cs.length := digitCount_le cs
  have hfraction := fractionLength_le (cs.drop (digitCount cs))
  rw [List.length_drop] at hfraction
  rw [numberLength?, numberLength?, digitCount_append_of_notNext hrest]
  dsimp only
  rw [List.drop_append_of_le_length hwhole, fractionLength_append_of_notNext hrest,
    List.drop_append_of_le_length (by omega), exponentLength_append_of_notNext hrest]

/-- Most marks are never carried on. -/
theorem symbolLength?_of_lone (hc : c ∉ ['!', '<', '>']) (cs : List Char) :
    symbolLength? (c :: cs) = symbolLength? [c] := by
  by_cases hmark : c ∈ marks
  · simp only [marks, List.mem_cons, List.not_mem_nil, or_false] at hmark
    rcases hmark with rfl | rfl | rfl | rfl | rfl | rfl | rfl | rfl | rfl | rfl | rfl | rfl | rfl
    all_goals
      first
        | rfl
        | exact absurd (by decide) hc
  · rw [symbolLength?_eq_none hmark, symbolLength?_eq_none hmark]

/-- The others are carried on by nothing but these two. -/
theorem symbolLength?_of_shorter (hequal : d ≠ '=') (hmore : d ≠ '>') (cs : List Char) :
    symbolLength? (c :: d :: cs) = symbolLength? [c] := by
  by_cases hc : c ∈ ['!', '<', '>']
  · simp only [List.mem_cons, List.not_mem_nil, or_false] at hc
    rcases hc with rfl | rfl | rfl
    all_goals simp [symbolLength?, hequal, hmore]
  · exact symbolLength?_of_lone hc _

theorem symbolLength?_cons_cons (c d : Char) (cs : List Char) :
    symbolLength? (c :: d :: cs) = symbolLength? [c, d] := by
  by_cases hc : c ∈ ['!', '<', '>']
  · by_cases hlonger : d = '=' ∨ d = '>'
    · simp only [List.mem_cons, List.not_mem_nil, or_false] at hc
      rcases hc with rfl | rfl | rfl <;> rcases hlonger with rfl | rfl <;> rfl
    · rw [not_or] at hlonger
      rw [symbolLength?_of_shorter hlonger.1 hlonger.2, symbolLength?_of_shorter hlonger.1 hlonger.2]
  · rw [symbolLength?_of_lone hc, symbolLength?_of_lone hc [d]]

theorem symbolLength?_append_of_notNext (hrest : NotNext carriesOn rest) (word : List Char) :
    symbolLength? (c :: word ++ rest) = symbolLength? (c :: word) := by
  cases word with
  | nil =>
    cases rest with
    | nil => rfl
    | cons d rest =>
      have hd := notNext_cons.1 hrest
      refine symbolLength?_of_shorter ?_ ?_ rest
      · rintro rfl
        revert hd
        decide
      · rintro rfl
        revert hd
        decide
  | cons d word => exact (symbolLength?_cons_cons c d _).trans (symbolLength?_cons_cons c d word).symm

/-- What stands after the end of a terminal does not matter for it. -/
theorem terminal?_append_of_notNext (mode : Mode) (hsingle : c ≠ '\'') (hdouble : c ≠ '"')
    (hrest : NotNext carriesOn rest) (word : List Char) :
    terminal? mode (c :: word ++ rest) = terminal? mode (c :: word) := by
  have hword : NotNext isWordChar rest := hrest.imp fun c hc => by rw [carriesOn, hc, Bool.true_or]
  have hstring : ∀ cs, stringLength? (c :: cs) = none := fun _ => stringLength?_eq_none hsingle hdouble
  have hkeyword : ∀ words : List (Terminal × String), (∀ w ∈ words, w ∈ keywords) →
      keywordLength? words (c :: word ++ rest) = keywordLength? words (c :: word) := by
    intro words hwords
    exact keywordLength?_append hwords hword
  rw [terminal?, terminal?, hkeyword _ fun w hw => (List.mem_filter.1 hw).1, hkeyword _ fun _ hw => hw,
    nameLength?_append hword, numberLength?_append_of_notNext hrest, symbolLength?_append_of_notNext hrest,
    List.cons_append, hstring, hstring]

/-! ## The length of a terminal -/

theorem startsWithWord_length_le {letters : List Char} (h : startsWithWord letters cs = true) :
    letters.length ≤ cs.length := by
  induction letters generalizing cs with
  | nil => exact Nat.zero_le _
  | cons l letters ih =>
    cases cs with
    | nil => cases h
    | cons c cs =>
      rw [startsWithWord, Bool.and_eq_true] at h
      exact Nat.succ_le_succ (ih h.2)

/-- A terminal is a keyword, or one of the other kinds. -/
theorem terminal?_cases (h : terminal? mode cs = some (t, n)) :
    (∃ w, (t, w) ∈ keywords ∧ startsWithWord w.toList cs = true ∧ n = w.length) ∨ nameLength? cs = some (t, n) ∨
      numberLength? cs = some (t, n) ∨ stringLength? cs = some (t, n) ∨ symbolLength? cs = some (t, n) := by
  rw [terminal?, Option.or_eq_some_iff, Option.or_eq_some_iff, Option.or_eq_some_iff, Option.or_eq_some_iff,
    Option.or_eq_some_iff] at h
  rcases h with hfirst | ⟨-, hname | ⟨-, hlast | ⟨-, hnumber | ⟨-, hstring | ⟨-, hsymbol⟩⟩⟩⟩⟩
  · exact .inl (keywordLength?_eq_some (fun w hw => (List.mem_filter.1 hw).1) hfirst)
  · exact .inr (.inl hname)
  · exact .inl (keywordLength?_eq_some (fun _ hw => hw) hlast)
  · exact .inr (.inr (.inl hnumber))
  · exact .inr (.inr (.inr (.inl hstring)))
  · exact .inr (.inr (.inr (.inr hsymbol)))

theorem nameLength?_eq_some (h : nameLength? cs = some (t, n)) : t = .name ∧ 0 < n ∧ n ≤ cs.length := by
  cases cs with
  | nil => cases h
  | cons c cs =>
    rw [nameLength?] at h
    split at h
    · cases h
      have htaken := (List.takeWhile_prefix isNamePart (l := cs)).length_le
      refine ⟨rfl, by omega, ?_⟩
      rw [List.length_cons]
      omega
    · cases h

theorem numberLength?_eq_some (h : numberLength? cs = some (t, n)) : t = .number ∧ 0 < n ∧ n ≤ cs.length := by
  rw [numberLength?] at h
  split at h
  · cases h
  · cases h
    have hwhole := digitCount_le cs
    have hfraction := fractionLength_le (cs.drop (digitCount cs))
    have hexponent := exponentLength_le (cs.drop (digitCount cs + fractionLength (cs.drop (digitCount cs))))
    rw [List.length_drop] at hfraction hexponent
    exact ⟨rfl, by omega, by omega⟩

/-- A terminal stands within its text. -/
theorem terminal?_length (h : terminal? mode cs = some (t, n)) : 0 < n ∧ n ≤ cs.length := by
  rcases terminal?_cases h with ⟨w, hkeyword, hstarts, rfl⟩ | hname | hnumber | hstring | hsymbol
  · obtain ⟨l, letters, hletters, -⟩ := exists_firstLetter hkeyword
    have hwithin := startsWithWord_length_le hstarts
    rw [← String.length_toList]
    refine ⟨?_, hwithin⟩
    rw [hletters]
    exact Nat.succ_pos _
  · exact (nameLength?_eq_some hname).2
  · exact (numberLength?_eq_some hnumber).2
  · cases cs with
    | nil => cases hstring
    | cons c cs =>
      obtain ⟨-, -, body, rest, rfl, rfl⟩ := stringLength?_eq_some hstring
      simp
  · exact ⟨(symbolLength?_eq_some hsymbol).2.1, (symbolLength?_eq_some hsymbol).2.2.1⟩

/-- Only a quote starts a quoted text. -/
theorem terminal?_ne_string (hsingle : c ≠ '\'') (hdouble : c ≠ '"') (h : terminal? mode (c :: cs) = some (t, n)) :
    t ≠ .string := by
  rcases terminal?_cases h with ⟨w, hkeyword, -, -⟩ | hname | hnumber | hstring | hsymbol
  · exact (keyword_terminal hkeyword).2
  · rw [(nameLength?_eq_some hname).1]
    decide
  · rw [(numberLength?_eq_some hnumber).1]
    decide
  · rw [stringLength?_eq_none hsingle hdouble] at hstring
    cases hstring
  · exact (symbolLength?_eq_some hsymbol).1.2

/-! ## A closing bracket -/

theorem singleQuotedFrom_append_paren (position : Nat) (escaped : Option Nat) (cs : List Char) :
    singleQuotedFrom position escaped (cs ++ [')']) = singleQuotedFrom position escaped cs := by
  induction position, escaped, cs using singleQuotedFrom.induct with
  | case1 position escaped => rfl
  | case2 position escaped cs ih =>
    rw [List.cons_append, List.cons_append, singleQuotedFrom, singleQuotedFrom, ih]
  | case3 position escaped cs hother =>
    rw [List.cons_append, singleQuotedFrom, singleQuotedFrom, if_pos rfl, if_pos rfl]
    · exact hother
    · rintro cs' hslash
      cases hslash
  | case4 position escaped c cs hother hc ih =>
    rw [List.cons_append, singleQuotedFrom, singleQuotedFrom, if_neg hc, if_neg hc, ih]
    · exact hother
    · rintro cs' hslash hcs
      cases cs with
      | nil => cases hcs
      | cons d cs =>
        cases hcs
        exact hother cs hslash rfl

theorem doubleQuotedFrom_append_paren (position : Nat) (found : Option Nat) (cs : List Char) :
    doubleQuotedFrom position found (cs ++ [')']) = doubleQuotedFrom position found cs := by
  induction cs generalizing position found with
  | nil => rfl
  | cons c cs ih => rw [List.cons_append, doubleQuotedFrom, doubleQuotedFrom, ih]

/-- No terminal reaches over a closing bracket at the end. -/
theorem terminal?_append_paren (mode : Mode) (c : Char) (cs : List Char) :
    terminal? mode (c :: cs ++ [')']) = terminal? mode (c :: cs) := by
  by_cases hquote : c = '\'' ∨ c = '"'
  · rw [List.cons_append, terminal?_quote hquote, terminal?_quote hquote]
    rcases hquote with rfl | rfl
    · rw [stringLength?, stringLength?, singleQuotedFrom_append_paren]
    · rw [stringLength?, stringLength?, doubleQuotedFrom_append_paren]
  · rw [not_or] at hquote
    exact terminal?_append_of_notNext mode hquote.1 hquote.2 (notNext_cons.2 (by decide)) cs

/-- A text is cut in the same way when a bracket closes it. -/
theorem cut_append_paren (h : cut mode cs = some pieces) :
    cut mode (cs ++ [')']) = some (pieces ++ [(.rightParen, [')'])]) := by
  induction h using cut_induction with
  | nil mode =>
    rw [List.nil_append, cut_mark (by decide) rfl]
    simp
  | gap mode c cs pieces hgap _ ih =>
    rw [List.cons_append, cut_gap hgap]
    exact ih
  | piece mode c cs t n pieces hgap hterminal _ ih =>
    have hwithin := terminal?_length hterminal
    rw [List.length_cons] at hwithin
    rw [← terminal?_append_paren, List.cons_append] at hterminal
    rw [List.cons_append, cut_piece hgap hterminal, List.drop_append_of_le_length (by omega), ih,
      List.take_append_of_le_length (by omega)]
    rfl

end Relational.Condition
