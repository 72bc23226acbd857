import Mathlib.Data.Bool.AllAny
import Mathlib.Data.List.Find
import Mathlib.Data.List.TakeWhile
import Relational.Condition.Lexer
import Relational.Proofs.Text.Letter

/-!
# Terminals at the start of a text

Which terminal stands at the start of a text depends on the class of the first character, and on the text up to the end
of the token only. A word, with the characters of words that follow it, is a keyword as a whole or starts with a name;
a number is digits and a fraction, and perhaps an exponent; a mark is one or two characters.
-/

namespace Relational

open Text

namespace Condition

variable {mode : Mode} {c : Char} {cs word rest : List Char} {t : Terminal} {n : Nat}

/-- A text does not go on with a character of a class. -/
def NotNext (p : Char → Bool) (cs : List Char) : Prop :=
  ∀ c ∈ cs.head?, p c = false

@[simp] theorem notNext_nil (p : Char → Bool) : NotNext p [] := by
  simp [NotNext]

@[simp] theorem notNext_cons {p : Char → Bool} : NotNext p (c :: cs) ↔ p c = false := by
  simp [NotNext]

theorem notNext_dropWhile (p : Char → Bool) (cs : List Char) : NotNext p (cs.dropWhile p) := by
  intro c hc
  have hhead := List.head?_dropWhile_not p cs
  rw [Option.mem_def.1 hc] at hhead
  simpa using hhead

theorem NotNext.of_blank {p : Char → Bool} (h : NotNext (· != ' ') cs) (hp : p ' ' = false) : NotNext p cs := by
  cases cs with
  | nil => exact notNext_nil p
  | cons c cs =>
    rw [notNext_cons, bne_eq_false_iff_eq] at h
    rw [h]
    exact notNext_cons.2 hp

theorem takeWhile_append_of_notNext {p : Char → Bool} (hword : ∀ c ∈ word, p c = true) (hrest : NotNext p rest) :
    (word ++ rest).takeWhile p = word := by
  rw [List.takeWhile_append_of_pos hword]
  cases rest with
  | nil => simp
  | cons c cs => simp [notNext_cons.1 hrest]

theorem takeWhile_append_right {p q : Char → Bool} (hp : ∀ c, p c = true → q c = true) (hrest : NotNext q rest) :
    (word ++ rest).takeWhile p = word.takeWhile p := by
  induction word with
  | nil =>
    cases rest with
    | nil => rfl
    | cons c cs =>
      have hc : p c = false := by
        rw [← Bool.not_eq_true]
        intro h
        have hq := hp c h
        rw [notNext_cons.1 hrest] at hq
        cases hq
      simp [hc]
  | cons c cs ih =>
    rw [List.cons_append, List.takeWhile_cons, List.takeWhile_cons, ih]

/-! ## Classes of characters -/

theorem isWordChar_of_isNamePart (h : isNamePart c = true) : isWordChar c = true := by
  rw [isNamePart, Bool.or_eq_true, beq_iff_eq] at h
  rw [isWordChar, Bool.or_eq_true, beq_iff_eq]
  refine h.symm.imp_right fun halnum => ?_
  rw [Char.isAlphanum, Bool.or_eq_true] at halnum
  have hascii : c.toNat < 0x80 := by
    rcases halnum with halpha | hdigit
    · have hrange := isAlpha_range halpha
      omega
    · simp only [Char.isDigit, Bool.and_eq_true, decide_eq_true_eq] at hdigit
      have hhigh : c.toNat ≤ 57 := hdigit.2
      omega
  rw [isLetterOrNumber, if_pos hascii, Char.isAlphanum, Bool.or_eq_true]
  exact halnum

theorem isNamePart_of_isNameStart (h : isNameStart c = true) : isNamePart c = true := by
  rw [isNameStart, Bool.or_eq_true] at h
  rw [isNamePart, Bool.or_eq_true]
  refine h.imp_left fun halpha => ?_
  rw [Char.isAlphanum, halpha, Bool.true_or]

/-- The letters of the keywords. -/
def IsKeywordLetter (letter : Char) : Prop :=
  letter ∈ keywords.flatMap fun w => w.2.toList

set_option maxRecDepth 10000 in
/-- Beyond ASCII four letters are taken for letters of keywords: those with and without a dot, the long one and the sign
of a unit. -/
theorem isLetter_special : ∀ n ∈ [0x130, 0x131, 0x17f, 0x212a], isLetter (Char.ofNat n) = true ∧
    isDigitLike (Char.ofNat n) = false := by
  simp only [List.forall_mem_cons]
  exact ⟨⟨rfl, rfl⟩, ⟨rfl, rfl⟩, ⟨rfl, rfl⟩, ⟨rfl, rfl⟩, by simp⟩

theorem isWordChar_of_isLetterOf {letter : Char} (hletter : IsKeywordLetter letter) (h : isLetterOf letter c = true) :
    isWordChar c = true := by
  have hletters : ∀ letter, IsKeywordLetter letter → isWordChar letter = true ∧ isWordChar letter.toUpper = true := by
    unfold IsKeywordLetter
    exact List.all_iff_forall_prop.1 (by decide)
  have hc : c = Char.ofNat c.toNat := (Char.ofNat_toNat c).symm
  simp only [isLetterOf, Bool.or_eq_true, Bool.and_eq_true, beq_iff_eq] at h
  rcases h with (((h | h) | ⟨-, h | h⟩) | ⟨-, h⟩) | ⟨-, h⟩
  · rw [h]
    exact (hletters letter hletter).1
  · rw [h]
    exact (hletters letter hletter).2
  all_goals
    have hspecial : isLetter c = true := by
      rw [hc, h]
      exact (isLetter_special _ (by decide)).1
    rw [isWordChar, isLetterOrNumber_of_isLetter hspecial, Bool.or_true]

/-- The first characters of names and of keywords. -/
def startsWord (c : Char) : Bool :=
  isNameStart c || c.toNat == 0x130 || c.toNat == 0x131

theorem startsWord_of_isLetterOf {letter : Char} (hletter : letter ∈ ['o', 'a', 'n', 'i', 'l', 't', 'f'])
    (h : isLetterOf letter c = true) : startsWord c = true := by
  have hstarts : ∀ letter ∈ ['o', 'a', 'n', 'i', 'l', 't', 'f'], isNameStart letter = true ∧
      isNameStart letter.toUpper = true ∧ letter ≠ 's' ∧ letter ≠ 'k' :=
    List.all_iff_forall_prop.1 (by decide)
  obtain ⟨hsmall, hcapital, hs, hk⟩ := hstarts letter hletter
  simp only [isLetterOf, Bool.or_eq_true, Bool.and_eq_true, beq_iff_eq] at h
  rw [startsWord, Bool.or_eq_true, Bool.or_eq_true, beq_iff_eq, beq_iff_eq]
  rcases h with (((h | h) | ⟨-, h | h⟩) | ⟨h, -⟩) | ⟨h, -⟩
  · rw [h]
    exact .inl (.inl hsmall)
  · rw [h]
    exact .inl (.inl hcapital)
  · exact .inl (.inr h)
  · exact .inr h
  · exact absurd h hs
  · exact absurd h hk

theorem isLetter_of_startsWord (h : startsWord c = true) : isLetter c = true ∨ c = '_' := by
  have hc : c = Char.ofNat c.toNat := (Char.ofNat_toNat c).symm
  rw [startsWord, isNameStart, Bool.or_eq_true, Bool.or_eq_true, Bool.or_eq_true, beq_iff_eq, beq_iff_eq,
    beq_iff_eq] at h
  rcases h with ((h | h) | h) | h
  · exact .inl (isLetter_of_isAlpha h)
  · exact .inr h
  all_goals
    rw [hc, h]
    exact .inl (isLetter_special _ (by decide)).1

theorem isWordChar_of_startsWord (h : startsWord c = true) : isWordChar c = true := by
  rw [isWordChar, Bool.or_eq_true, beq_iff_eq]
  exact (isLetter_of_startsWord h).symm.imp_right isLetterOrNumber_of_isLetter

theorem isDigitLike_of_startsWord (h : startsWord c = true) : isDigitLike c = false := by
  have hc : c = Char.ofNat c.toNat := (Char.ofNat_toNat c).symm
  rw [startsWord, isNameStart, Bool.or_eq_true, Bool.or_eq_true, Bool.or_eq_true, beq_iff_eq, beq_iff_eq,
    beq_iff_eq] at h
  rcases h with ((h | rfl) | h) | h
  · have hrange := isAlpha_range h
    rw [isDigitLike, if_pos (by omega), Char.isDigit, Bool.and_eq_false_iff, decide_eq_false_iff_not,
      decide_eq_false_iff_not]
    right
    intro hhigh
    have hnine : c.toNat ≤ 57 := hhigh
    omega
  · decide
  all_goals
    rw [hc, h]
    exact (isLetter_special _ (by decide)).2

theorem startsWord_of_isDigitLike (h : isDigitLike c = true) : startsWord c = false := by
  rw [← Bool.not_eq_true]
  intro hstarts
  rw [isDigitLike_of_startsWord hstarts] at h
  cases h

theorem startsWord_of_isDecimalDigit (h : isDecimalDigit c = true) : startsWord c = false :=
  startsWord_of_isDigitLike (isDigitLike_of_isDecimalDigit h)

theorem isBlank_of_startsWord (h : startsWord c = true) : isBlank c = false := by
  have hc : c = Char.ofNat c.toNat := (Char.ofNat_toNat c).symm
  rw [startsWord, isNameStart, Bool.or_eq_true, Bool.or_eq_true, Bool.or_eq_true, beq_iff_eq, beq_iff_eq,
    beq_iff_eq] at h
  rcases h with ((h | rfl) | h) | h
  · have hrange := isAlpha_range h
    simp [isBlank]
    omega
  · decide
  all_goals
    rw [hc, h]
    decide

/-! ## Words -/

theorem startsWithWord_append {letters : List Char} (hletters : ∀ l ∈ letters, IsKeywordLetter l)
    (hrest : NotNext isWordChar rest) : startsWithWord letters (word ++ rest) = startsWithWord letters word := by
  induction letters generalizing word with
  | nil =>
    cases word with
    | nil =>
      cases rest with
      | nil => rfl
      | cons c cs => simp [startsWithWord, notNext_cons.1 hrest]
    | cons c cs => rfl
  | cons l letters ih =>
    rw [List.forall_mem_cons] at hletters
    cases word with
    | nil =>
      cases rest with
      | nil => rfl
      | cons c cs =>
        have hc : isLetterOf l c = false := by
          rw [← Bool.not_eq_true]
          intro h
          rw [notNext_cons, isWordChar_of_isLetterOf hletters.1 h] at hrest
          cases hrest
        simp [startsWithWord, hc]
    | cons c cs =>
      rw [List.cons_append, startsWithWord, startsWithWord, ih hletters.2]

theorem startsWithWord_length {letters : List Char} (hword : ∀ c ∈ word, isWordChar c = true)
    (h : startsWithWord letters word = true) : letters.length = word.length := by
  induction letters generalizing word with
  | nil =>
    cases word with
    | nil => rfl
    | cons c cs => simp [startsWithWord, hword c (by simp)] at h
  | cons l letters ih =>
    cases word with
    | nil => cases h
    | cons c cs =>
      rw [startsWithWord, Bool.and_eq_true] at h
      rw [List.length_cons, List.length_cons, ih (fun d hd => hword d (List.mem_cons_of_mem c hd)) h.2]

variable {words : List (Terminal × String)}

theorem keywordLength?_append (hwords : ∀ w ∈ words, w ∈ keywords) (hrest : NotNext isWordChar rest) :
    keywordLength? words (word ++ rest) = keywordLength? words word := by
  rw [keywordLength?, keywordLength?, List.find?_congr]
  intro w hw
  refine startsWithWord_append (fun l hl => ?_) hrest
  exact List.mem_flatMap.2 ⟨w, hwords w hw, hl⟩

/-- A keyword at the start of a text. -/
theorem keywordLength?_eq_some (hwords : ∀ w ∈ words, w ∈ keywords) (h : keywordLength? words cs = some (t, n)) :
    ∃ w, (t, w) ∈ keywords ∧ startsWithWord w.toList cs = true ∧ n = w.length := by
  rw [keywordLength?, Option.map_eq_some_iff] at h
  obtain ⟨⟨t', w⟩, hfound, heq⟩ := h
  cases heq
  have hstarts := List.find?_some hfound
  exact ⟨w, hwords _ (List.mem_of_find?_eq_some hfound), hstarts, rfl⟩

theorem exists_firstLetter {w : String} (h : (t, w) ∈ keywords) :
    ∃ l letters, w.toList = l :: letters ∧ l ∈ ['o', 'a', 'n', 'i', 'l', 't', 'f'] := by
  have hall : ∀ entry ∈ keywords, ∃ l letters, entry.2.toList = l :: letters ∧
      l ∈ ['o', 'a', 'n', 'i', 'l', 't', 'f'] := by
    simp [keywords]
  exact hall _ h

theorem startsWord_of_keywordLength? (hwords : ∀ w ∈ words, w ∈ keywords)
    (h : keywordLength? words (c :: cs) = some (t, n)) : startsWord c = true := by
  obtain ⟨w, hmem, hstarts, -⟩ := keywordLength?_eq_some hwords h
  obtain ⟨l, letters, hletters, hl⟩ := exists_firstLetter hmem
  rw [hletters, startsWithWord, Bool.and_eq_true] at hstarts
  exact startsWord_of_isLetterOf hl hstarts.1

theorem nameLength?_append (hrest : NotNext isWordChar rest) :
    nameLength? (c :: cs ++ rest) = nameLength? (c :: cs) := by
  rw [List.cons_append, nameLength?, nameLength?, takeWhile_append_right (fun _ => isWordChar_of_isNamePart) hrest]

/-! ## Other terminals -/

theorem numberLength?_eq_none (h : isDecimalDigit c = false) : numberLength? (c :: cs) = none := by
  simp [numberLength?, digitCount, h]

theorem stringLength?_eq_none (hsingle : c ≠ '\'') (hdouble : c ≠ '"') : stringLength? (c :: cs) = none := by
  unfold stringLength?
  split
  · rename_i heq
    cases heq
    exact absurd rfl hsingle
  · rename_i heq
    cases heq
    exact absurd rfl hdouble
  · rfl

/-- The first characters of operators and marks. -/
def marks : List Char :=
  ['!', '<', '>', '=', '+', '-', '*', '/', '%', '(', ')', ',', '.']

theorem stringLength?_of_mem_marks (h : c ∈ marks) : stringLength? (c :: cs) = none := by
  refine stringLength?_eq_none ?_ ?_
  · rintro rfl
    revert h
    decide
  · rintro rfl
    revert h
    decide

theorem symbolLength?_eq_none (h : c ∉ marks) : symbolLength? (c :: cs) = none := by
  unfold symbolLength?
  split
  case h_17 => rfl
  all_goals
    rename_i heq
    cases heq
    exact absurd (by decide) h

theorem mem_marks (h : c ∈ marks) : isWordChar c = false ∧ isBlank c = false := by
  have hall : ∀ c ∈ marks, isWordChar c = false ∧ isBlank c = false :=
    List.all_iff_forall_prop.1 (by decide)
  exact hall c h

theorem not_mem_marks (h : isWordChar c = true ∨ isBlank c = true) : c ∉ marks := by
  intro hmark
  rw [(mem_marks hmark).1, (mem_marks hmark).2] at h
  simp at h

/-- The text starts with something else than a word. -/
theorem terminal?_of_not_startsWord (h : startsWord c = false) : terminal? mode (c :: cs) =
    (numberLength? (c :: cs)).or ((stringLength? (c :: cs)).or (symbolLength? (c :: cs))) := by
  have hkeyword : ∀ words : List (Terminal × String), (∀ w ∈ words, w ∈ keywords) →
      keywordLength? words (c :: cs) = none := by
    intro words hwords
    cases hfound : keywordLength? words (c :: cs) with
    | none => rfl
    | some found =>
      have hstarts := startsWord_of_keywordLength? hwords hfound
      rw [h] at hstarts
      cases hstarts
  have hname : nameLength? (c :: cs) = none := by
    rw [startsWord, Bool.or_eq_false_iff, Bool.or_eq_false_iff] at h
    rw [nameLength?, h.1.1, if_neg Bool.false_ne_true]
  rw [terminal?, hkeyword _ fun w hw => (List.mem_filter.1 hw).1, hname, hkeyword _ fun _ hw => hw, Option.none_or,
    Option.none_or, Option.none_or]

/-- A text that starts with a quote or a mark starts with nothing else. -/
theorem terminal?_of_not_isWordChar (h : isWordChar c = false) :
    terminal? mode (c :: cs) = (stringLength? (c :: cs)).or (symbolLength? (c :: cs)) := by
  have hstarts : startsWord c = false := by
    rw [← Bool.not_eq_true]
    intro hstarts
    rw [isWordChar_of_startsWord hstarts] at h
    cases h
  have hdigit : isDecimalDigit c = false := by
    rw [← Bool.not_eq_true]
    intro hdigit
    rw [isWordChar_of_isDigitLike (isDigitLike_of_isDecimalDigit hdigit)] at h
    cases h
  rw [terminal?_of_not_startsWord hstarts, numberLength?_eq_none hdigit, Option.none_or]

/-- No terminal starts with a blank. -/
theorem terminal?_of_isBlank (h : isBlank c = true) : terminal? mode (c :: cs) = none := by
  have hstarts : startsWord c = false := by
    rw [← Bool.not_eq_true]
    intro hstarts
    rw [isBlank_of_startsWord hstarts] at h
    cases h
  have hdigit : isDecimalDigit c = false := by
    rw [← Bool.not_eq_true]
    intro hdigit
    rw [isBlank_of_isDecimalDigit hdigit] at h
    cases h
  have hquote : c ≠ '\'' ∧ c ≠ '"' := by
    constructor
    · rintro rfl
      revert h
      decide
    · rintro rfl
      revert h
      decide
  rw [terminal?_of_not_startsWord hstarts, numberLength?_eq_none hdigit, stringLength?_eq_none hquote.1 hquote.2,
    symbolLength?_eq_none (not_mem_marks (.inr h))]
  rfl

/-- A character of a word that is not a digit starts nothing but a word. -/
theorem otherTerminal_eq_none (cs : List Char) (hc : isWordChar c = true) (hdigit : isDecimalDigit c = false) :
    (numberLength? (c :: cs)).or ((stringLength? (c :: cs)).or (symbolLength? (c :: cs))) = none := by
  have hsingle : c ≠ '\'' := by
    rintro rfl
    revert hc
    decide
  have hdouble : c ≠ '"' := by
    rintro rfl
    revert hc
    decide
  rw [numberLength?_eq_none hdigit, stringLength?_eq_none hsingle hdouble,
    symbolLength?_eq_none (not_mem_marks (.inl hc))]
  rfl

theorem isDecimalDigit_of_startsWord (h : startsWord c = true) : isDecimalDigit c = false := by
  rw [← Bool.not_eq_true]
  intro hdigit
  rw [startsWord_of_isDecimalDigit hdigit] at h
  cases h

section Word

variable (hword : ∀ d ∈ c :: cs, isWordChar d = true) (hstarts : startsWord c = true)
include hword hstarts

/-- What stands at the start of a word does not depend on what follows the word. -/
theorem terminal?_append (mode : Mode) (hrest : NotNext isWordChar rest) :
    terminal? mode (c :: cs ++ rest) = terminal? mode (c :: cs) := by
  have hother := fun cs => otherTerminal_eq_none cs (hword c (by simp)) (isDecimalDigit_of_startsWord hstarts)
  rw [terminal?, terminal?, keywordLength?_append (fun w hw => (List.mem_filter.1 hw).1) hrest,
    nameLength?_append hrest, keywordLength?_append (fun w hw => hw) hrest, List.cons_append, hother, hother]

/-- At the start of a word stands a keyword, which is the whole word, or a name. -/
theorem terminal?_word_cases (h : terminal? mode (c :: cs) = some (t, n)) :
    (∃ w, (t, w) ∈ keywords ∧ n = cs.length + 1) ∨
      t = .name ∧ isNameStart c = true ∧ n = (cs.takeWhile isNamePart).length + 1 := by
  have hkeyword : ∀ words : List (Terminal × String), (∀ w ∈ words, w ∈ keywords) →
      keywordLength? words (c :: cs) = some (t, n) → ∃ w, (t, w) ∈ keywords ∧ n = cs.length + 1 := by
    intro words hwords hfound
    obtain ⟨w, hmem, hstarts, rfl⟩ := keywordLength?_eq_some hwords hfound
    exact ⟨w, hmem, startsWithWord_length hword hstarts⟩
  rw [terminal?, otherTerminal_eq_none cs (hword c (by simp)) (isDecimalDigit_of_startsWord hstarts), Option.or_none,
    Option.or_eq_some_iff, Option.or_eq_some_iff] at h
  rcases h with hfirst | ⟨-, hname | ⟨-, hlast⟩⟩
  · exact .inl (hkeyword _ (fun w hw => (List.mem_filter.1 hw).1) hfirst)
  · rw [nameLength?] at hname
    split at hname
    · rename_i hstart
      cases hname
      exact .inr ⟨rfl, hstart, Nat.add_comm _ _⟩
    · cases hname
  · exact .inl (hkeyword _ (fun _ hw => hw) hlast)

end Word

/-- No keyword starts as an exponent does. -/
theorem terminal?_exponent (mode : Mode) (cs : List Char) (h : c = 'e' ∨ c = 'E') :
    ∃ n, terminal? mode (c :: cs) = some (.name, n) := by
  have hkeyword : ∀ words : List (Terminal × String), (∀ w ∈ words, w ∈ keywords) →
      keywordLength? words (c :: cs) = none := by
    intro words hwords
    cases hfound : keywordLength? words (c :: cs) with
    | none => rfl
    | some found =>
      obtain ⟨w, hmem, hstarts, -⟩ := keywordLength?_eq_some hwords hfound
      obtain ⟨l, letters, hletters, hl⟩ := exists_firstLetter hmem
      have hother : ∀ l ∈ ['o', 'a', 'n', 'i', 'l', 't', 'f'], isLetterOf l 'e' = false ∧ isLetterOf l 'E' = false :=
        List.all_iff_forall_prop.1 (by decide)
      rw [hletters, startsWithWord, Bool.and_eq_true] at hstarts
      rcases h with rfl | rfl
      · rw [(hother l hl).1] at hstarts
        cases hstarts.1
      · rw [(hother l hl).2] at hstarts
        cases hstarts.1
  have hname : isNameStart c = true := by
    rcases h with rfl | rfl
    · decide
    · decide
  refine ⟨1 + (cs.takeWhile isNamePart).length, ?_⟩
  rw [terminal?, hkeyword _ fun w hw => (List.mem_filter.1 hw).1, nameLength?, if_pos hname]
  rfl

/-! ## Numbers -/

/-- Digits, and perhaps a point with digits after it. -/
def IsMantissa (cs : List Char) : Prop :=
  ∃ whole fraction, cs = whole ++ fraction ∧ whole ≠ [] ∧ (∀ c ∈ whole, isDecimalDigit c = true) ∧
    (fraction = [] ∨ ∃ digits, fraction = '.' :: digits ∧ digits ≠ [] ∧ ∀ c ∈ digits, isDecimalDigit c = true)

/-- A text does not carry on a number that has no exponent. -/
def EndsMantissa (mantissa rest : List Char) : Prop :=
  NotNext isDecimalDigit rest ∧ ('.' ∉ mantissa → fractionLength rest = 0)

theorem digitCount_append {digits : List Char} (hdigits : ∀ c ∈ digits, isDecimalDigit c = true)
    (hrest : NotNext isDecimalDigit rest) : digitCount (digits ++ rest) = digits.length := by
  rw [digitCount, takeWhile_append_of_notNext hdigits hrest]

theorem IsMantissa.mem {mantissa : List Char} (h : IsMantissa mantissa) (hc : c ∈ mantissa) :
    isDecimalDigit c = true ∨ c = '.' := by
  obtain ⟨whole, fraction, rfl, -, hwhole, rfl | ⟨digits, rfl, -, hdigits⟩⟩ := h
  · rw [List.append_nil] at hc
    exact .inl (hwhole c hc)
  · rcases List.mem_append.1 hc with hc | hc
    · exact .inl (hwhole c hc)
    · rcases List.mem_cons.1 hc with rfl | hc
      · exact .inr rfl
      · exact .inl (hdigits c hc)

/-- A number is read up to its end. -/
theorem numberLength?_append {mantissa : List Char} (h : IsMantissa mantissa) (hrest : EndsMantissa mantissa rest) :
    numberLength? (mantissa ++ rest) = some (.number, mantissa.length + exponentLength rest) := by
  obtain ⟨whole, fraction, rfl, hne, hwhole, hfraction⟩ := h
  have hpoint : isDecimalDigit '.' = false := by decide
  have hnext : NotNext isDecimalDigit (fraction ++ rest) := by
    rcases hfraction with rfl | ⟨digits, rfl, -, -⟩
    · exact hrest.1
    · exact notNext_cons.2 hpoint
  have hlength : fractionLength (fraction ++ rest) = fraction.length := by
    rcases hfraction with rfl | ⟨digits, rfl, hsome, hdigits⟩
    · refine hrest.2 ?_
      rw [List.append_nil]
      intro hmem
      rw [hwhole _ hmem] at hpoint
      cases hpoint
    · rw [List.cons_append, fractionLength, digitCount_append hdigits hrest.1,
        if_neg (mt List.length_eq_zero_iff.1 hsome), List.length_cons, Nat.add_comm]
  have hdrop : (whole ++ (fraction ++ rest)).drop (whole.length + fraction.length) = rest := by
    rw [← List.append_assoc, ← List.length_append, List.drop_left]
  rw [numberLength?, List.append_assoc, digitCount_append hwhole hnext, if_neg (mt List.length_eq_zero_iff.1 hne),
    List.drop_left, hlength, List.length_append]
  simp only [hdrop]

/-- A text that starts with a digit starts with a mantissa. -/
theorem exists_mantissa (h : isDecimalDigit c = true) (cs : List Char) :
    ∃ mantissa rest, c :: cs = mantissa ++ rest ∧ IsMantissa mantissa ∧ EndsMantissa mantissa rest := by
  have hwhole : ∀ d ∈ (c :: cs).takeWhile isDecimalDigit, isDecimalDigit d = true :=
    fun d hd => List.mem_takeWhile_imp hd
  have hne : (c :: cs).takeWhile isDecimalDigit ≠ [] := by simp [h]
  have hnext := notNext_dropWhile isDecimalDigit (c :: cs)
  have happend : c :: cs = (c :: cs).takeWhile isDecimalDigit ++ (c :: cs).dropWhile isDecimalDigit :=
    List.takeWhile_append_dropWhile.symm
  generalize (c :: cs).takeWhile isDecimalDigit = whole at *
  generalize (c :: cs).dropWhile isDecimalDigit = rest at *
  by_cases hfraction : fractionLength rest = 0
  · exact ⟨whole, rest, happend, ⟨whole, [], by simp, hne, hwhole, .inl rfl⟩, hnext, fun _ => hfraction⟩
  · cases rest with
    | nil => exact absurd rfl hfraction
    | cons d rest =>
      by_cases hd : d = '.'
      · subst hd
        have hdigits : rest.takeWhile isDecimalDigit ≠ [] := by
          intro hnil
          rw [fractionLength, digitCount, hnil] at hfraction
          exact hfraction rfl
        refine ⟨whole ++ '.' :: rest.takeWhile isDecimalDigit, rest.dropWhile isDecimalDigit, ?_,
          ⟨whole, _, rfl, hne, hwhole, .inr ⟨_, rfl, hdigits, fun d hd => List.mem_takeWhile_imp hd⟩⟩,
          notNext_dropWhile _ _, fun hpoint => absurd ?_ hpoint⟩
        · rw [happend, List.append_assoc, List.cons_append, List.takeWhile_append_dropWhile]
        · simp
      · refine absurd ?_ hfraction
        unfold fractionLength
        split
        · rename_i heq
          cases heq
          exact absurd rfl hd
        · rfl

theorem exponentLength_pos (h : exponentLength cs ≠ 0) : ∃ e rest, cs = e :: rest ∧ (e = 'e' ∨ e = 'E') := by
  cases cs with
  | nil => exact absurd rfl h
  | cons e rest =>
    refine ⟨e, rest, rfl, ?_⟩
    simp only [exponentLength] at h
    split at h
    · rename_i hmark
      simpa using hmark
    · exact absurd rfl h

theorem exponentLength_append (hrest : NotNext isDecimalDigit rest) (h : exponentLength cs ≠ 0) :
    exponentLength (cs ++ rest) = exponentLength cs := by
  have hdigits : ∀ digits, digitCount (digits ++ rest) = digitCount digits := by
    intro digits
    rw [digitCount, digitCount, takeWhile_append_right (fun _ => id) hrest]
  obtain ⟨e, cs, rfl, -⟩ := exponentLength_pos h
  cases cs with
  | nil => simp [exponentLength, digitCount] at h
  | cons d cs =>
    have hcons := hdigits (d :: cs)
    rw [List.cons_append] at hcons
    rw [List.cons_append, List.cons_append]
    by_cases hplus : d = '+'
    · subst hplus
      simp [exponentLength, hdigits]
    · by_cases hminus : d = '-'
      · subst hminus
        simp [exponentLength, hdigits]
      · simp [exponentLength, hplus, hminus, hcons]

theorem exponentLength_eq_zero (h : NotNext (fun c => c = 'e' || c = 'E') cs) : exponentLength cs = 0 := by
  cases cs with
  | nil => rfl
  | cons c cs =>
    simp only [exponentLength, notNext_cons.1 h, Bool.false_eq_true, if_false]

theorem fractionLength_eq_zero (h : NotNext (· == '.') cs) : fractionLength cs = 0 := by
  unfold fractionLength
  split
  · simp at h
  · rfl

/-! ## Quoted texts -/

theorem singleQuotedFrom_eq_some {position : Nat} {escaped : Option Nat}
    (h : singleQuotedFrom position escaped cs = some n) :
    escaped = some n ∨ ∃ body rest, cs = body ++ '\'' :: rest ∧ n = position + body.length + 1 := by
  induction position, escaped, cs using singleQuotedFrom.induct with
  | case1 position escaped => exact .inl h
  | case2 position escaped cs ih =>
    rw [singleQuotedFrom] at h
    right
    rcases ih h with hescaped | ⟨body, rest, rfl, rfl⟩
    · cases hescaped
      exact ⟨['\\'], cs, rfl, rfl⟩
    · refine ⟨'\\' :: '\'' :: body, rest, rfl, ?_⟩
      simp only [List.length_cons]
      omega
  | case3 position escaped cs hother =>
    rw [singleQuotedFrom, if_pos rfl] at h
    · cases h
      exact .inr ⟨[], cs, rfl, rfl⟩
    · exact hother
  | case4 position escaped c cs hother hc ih =>
    rw [singleQuotedFrom, if_neg hc] at h
    · rcases ih h with hescaped | ⟨body, rest, rfl, rfl⟩
      · exact .inl hescaped
      · refine .inr ⟨c :: body, rest, rfl, ?_⟩
        simp only [List.length_cons]
        omega
    · exact hother

theorem doubleQuotedFrom_eq_some {position : Nat} {found : Option Nat}
    (h : doubleQuotedFrom position found cs = some n) :
    found = some n ∨ ∃ body rest, cs = body ++ '"' :: rest ∧ n = position + body.length + 1 := by
  induction cs generalizing position found with
  | nil => exact .inl h
  | cons c cs ih =>
    rw [doubleQuotedFrom] at h
    rcases ih h with hfound | ⟨body, rest, rfl, rfl⟩
    · split at hfound
      · rename_i hc
        cases hfound
        exact .inr ⟨[], cs, by rw [hc]; rfl, rfl⟩
      · exact .inl hfound
    · refine .inr ⟨c :: body, rest, rfl, ?_⟩
      simp only [List.length_cons]
      omega

/-- A quoted text ends with the quote that it starts with. -/
theorem stringLength?_eq_some (h : stringLength? (c :: cs) = some (t, n)) : t = .string ∧ (c = '\'' ∨ c = '"') ∧
    ∃ body rest, cs = body ++ c :: rest ∧ n = body.length + 2 := by
  unfold stringLength? at h
  split at h
  · rename_i heq
    cases heq
    obtain ⟨n, hfound, heq⟩ := Option.map_eq_some_iff.1 h
    cases heq
    rcases singleQuotedFrom_eq_some hfound with hnone | ⟨body, rest, rfl, rfl⟩
    · cases hnone
    · exact ⟨rfl, .inl rfl, body, rest, rfl, by omega⟩
  · rename_i heq
    cases heq
    obtain ⟨n, hfound, heq⟩ := Option.map_eq_some_iff.1 h
    cases heq
    rcases doubleQuotedFrom_eq_some hfound with hnone | ⟨body, rest, rfl, rfl⟩
    · cases hnone
    · exact ⟨rfl, .inr rfl, body, rest, rfl, by omega⟩
  · cases h

/-! ## Marks -/

/-- A mark ends before a blank. -/
theorem symbolLength?_eq_some (h : symbolLength? cs = some (t, n)) : (t ≠ .number ∧ t ≠ .string) ∧
    0 < n ∧ n ≤ cs.length ∧ ∀ rest, NotNext (· != ' ') rest → symbolLength? (cs.take n ++ rest) = some (t, n) := by
  have hblank : ∀ rest, NotNext (· != ' ') rest → rest = [] ∨ ∃ cs, rest = ' ' :: cs := by
    intro rest hnext
    cases rest with
    | nil => exact .inl rfl
    | cons c cs =>
      rw [notNext_cons, bne_eq_false_iff_eq] at hnext
      exact .inr ⟨cs, by rw [hnext]⟩
  unfold symbolLength? at h
  split at h
  case h_17 => cases h
  all_goals
    cases h
    refine ⟨by decide, by decide, by simp, fun rest hnext => ?_⟩
    rcases hblank rest hnext with rfl | ⟨cs, rfl⟩
    · rfl
    · rfl

end Condition

end Relational
