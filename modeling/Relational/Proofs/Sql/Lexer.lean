import Relational.Proofs.Condition.Cutting
import Relational.Sql.Parser

/-!
# What is kept of a text

A clause is kept as the texts of its tokens with a blank before each. Where a token stands does not matter for what is
kept of it. A word and a number are kept as they are; a quoted text is quoted anew.
-/

namespace Relational.Sql

open Text Condition

variable {c mark : Char} {cs word rest body : List Char} {position : Position}

/-! ## Token by token -/

/-- The texts of the tokens before the end, with a blank before each. -/
def keptFrom (position : Position) (cs : List Char) : List Char :=
  (Input.ofTokens (tokenizeFrom position cs)).tokens.flatMap fun token => ' ' :: (Parser.rendered token).toList

/-- What is kept of a text. -/
def kept (cs : List Char) : List Char :=
  keptFrom .start cs

/-- A blank before each of some texts, or between them. -/
theorem flatMap_blank {texts : List String} (hsome : texts ≠ []) :
    (texts.flatMap fun text => ' ' :: text.toList) = ' ' :: (" ".intercalate texts).toList := by
  induction texts with
  | nil => exact absurd rfl hsome
  | cons text texts ih =>
    cases texts with
    | nil => simp
    | cons text' texts =>
      rw [List.flatMap_cons, ih (by simp), String.intercalate_cons_cons, String.toList_append, String.toList_append]
      simp

theorem tokenizeFrom_nil : tokenizeFrom position [] = [⟨.endOfFile, "", position⟩] := by
  rw [tokenizeFrom.eq_def]

theorem tokenizeFrom_gap {n : Nat} (h : gap? c cs = some n) : tokenizeFrom position (c :: cs) =
    tokenizeFrom (position.advanceOver (c :: cs.take n)) (cs.drop n) := by
  rw [tokenizeFrom.eq_def]
  dsimp only
  rw [h]

theorem tokenizeFrom_token (h : gap? c cs = none) : tokenizeFrom position (c :: cs) =
    ⟨(lexeme c cs).1, (lexeme c cs).2.1, position⟩ ::
      tokenizeFrom (position.advanceOver (c :: cs.take (lexeme c cs).2.2)) (cs.drop (lexeme c cs).2.2) := by
  rw [tokenizeFrom.eq_def]
  dsimp only
  rw [h]

theorem kind_lexeme (c : Char) (cs : List Char) : (lexeme c cs).1 ≠ .endOfFile := by
  have hsymbol : ∀ cs kind n, symbol? cs = some (kind, n) → kind ≠ .endOfFile := by
    intro cs kind n h
    unfold symbol? at h
    split at h
    case h_18 => cases h
    all_goals
      cases h
      decide
  unfold lexeme
  split
  · dsimp only
    unfold wordKind
    split
    · simp
    · simp
  · split
    · simp
    · split
      · simp
      · split
        · rename_i hfound
          exact hsymbol _ _ _ hfound
        · simp

theorem keptFrom_nil : keptFrom position [] = [] := by
  rw [keptFrom, tokenizeFrom_nil]
  rfl

theorem keptFrom_token (h : gap? c cs = none) : keptFrom position (c :: cs) =
    ' ' :: (Parser.rendered ⟨(lexeme c cs).1, (lexeme c cs).2.1, position⟩).toList ++
      keptFrom (position.advanceOver (c :: cs.take (lexeme c cs).2.2)) (cs.drop (lexeme c cs).2.2) := by
  rw [keptFrom, tokenizeFrom_token h, Input.ofTokens, List.takeWhile_cons_of_pos (by simpa using kind_lexeme c cs)]
  rfl

/-- Where a text stands does not matter for what is kept of it. -/
theorem keptFrom_eq (position : Position) (cs : List Char) : keptFrom position cs = kept cs := by
  -- on the length of the text: a gap and a token are followed by a shorter one
  unfold kept
  generalize Position.start = position'
  induction hlength : cs.length using Nat.strongRecOn generalizing position position' cs with
  | _ length ih =>
    cases cs with
    | nil => rw [keptFrom_nil, keptFrom_nil]
    | cons c cs =>
      have hshort : ∀ n, (cs.drop n).length < length := by
        intro n
        rw [List.length_drop, ← hlength, List.length_cons]
        omega
      cases hgap : gap? c cs with
      | some n =>
        rw [keptFrom, keptFrom, tokenizeFrom_gap hgap, tokenizeFrom_gap hgap]
        exact ih _ (hshort n) _ _ _ rfl
      | none =>
        rw [keptFrom_token hgap, keptFrom_token hgap, ih _ (hshort _) _ _ _ rfl]
        rfl

theorem kept_nil : kept [] = [] :=
  keptFrom_nil

theorem kept_blank (h : isBlank c = true) : kept (c :: cs) = kept cs := by
  have hgap : gap? c cs = some 0 := by
    rw [gap?, if_pos h]
  rw [kept, keptFrom, tokenizeFrom_gap hgap]
  exact keptFrom_eq _ _

theorem kept_token {kind : TokenKind} {text : String} {n : Nat} (h : gap? c cs = none)
    (hlexeme : lexeme c cs = (kind, text, n)) :
    kept (c :: cs) = ' ' :: (Parser.rendered ⟨kind, text, .start⟩).toList ++ kept (cs.drop n) := by
  rw [kept, keptFrom_token h, keptFrom_eq, hlexeme]

/-- What is kept starts with a blank. -/
theorem notNext_kept (cs : List Char) : NotNext (· != ' ') (kept cs) := by
  rw [kept, keptFrom]
  cases (Input.ofTokens (tokenizeFrom .start cs)).tokens with
  | nil => exact notNext_nil _
  | cons token tokens => simp

/-! ## Words, numbers and marks -/

theorem startsComment_of_ne (h : c ≠ '-') : startsComment (c :: cs) = false := by
  unfold startsComment
  split
  · rename_i heq
    cases heq
    exact absurd rfl h
  · rfl

theorem gap?_eq_none (hblank : isBlank c = false) (hcomment : startsComment (c :: cs) = false) : gap? c cs = none := by
  rw [gap?, hblank, hcomment]
  rfl

theorem rendered_eq {kind : TokenKind} (h : kind ≠ .string) (cs : List Char) :
    (Parser.rendered ⟨kind, String.ofList cs, position⟩).toList = cs := by
  rw [Parser.rendered, if_neg h, String.toList_ofList]

theorem isWordStart_of_startsWord (h : startsWord c = true) : isWordStart c = true := by
  rw [isWordStart, Bool.or_eq_true, beq_iff_eq]
  exact isLetter_of_startsWord h

theorem wordKind_ne_string (word : String) : wordKind word ≠ .string := by
  unfold wordKind
  split
  · simp
  · simp

theorem lexeme_word (hstart : isWordStart c = true) (hword : ∀ d ∈ word, isWordChar d = true)
    (hrest : NotNext isWordChar rest) : lexeme c (word ++ rest) =
      (wordKind (String.ofList (c :: word)), String.ofList (c :: word), word.length) := by
  rw [lexeme, if_pos hstart, takeWhile_append_of_notNext hword hrest]

/-- A word is kept as it is. -/
theorem kept_word (hstarts : startsWord c = true) (hword : ∀ d ∈ word, isWordChar d = true)
    (hrest : NotNext isWordChar rest) : kept (c :: (word ++ rest)) = ' ' :: c :: word ++ kept rest := by
  have hdash : c ≠ '-' := by
    rintro rfl
    cases hstarts
  have hlexeme := lexeme_word (isWordStart_of_startsWord hstarts) hword hrest
  rw [kept_token (gap?_eq_none (isBlank_of_startsWord hstarts) (startsComment_of_ne hdash)) hlexeme,
    rendered_eq (wordKind_ne_string _), List.drop_left]

theorem isWordStart_of_isDecimalDigit (h : isDecimalDigit c = true) : isWordStart c = false := by
  rw [isWordStart, isLetter_of_isDecimalDigit h, Bool.false_or, beq_eq_false_iff_ne]
  rintro rfl
  revert h
  decide

/-- A number is kept as it is. -/
theorem kept_number (hdigit : isDecimalDigit c = true) (hword : ∀ d ∈ word, isNumberPart d = true)
    (hrest : NotNext isNumberPart rest) : kept (c :: (word ++ rest)) = ' ' :: c :: word ++ kept rest := by
  have hdash : c ≠ '-' := by
    rintro rfl
    revert hdigit
    decide
  have hlexeme : lexeme c (word ++ rest) = (.number, String.ofList (c :: word), word.length) := by
    rw [lexeme, isWordStart_of_isDecimalDigit hdigit, if_neg Bool.false_ne_true,
      if_pos (isDigitLike_of_isDecimalDigit hdigit), takeWhile_append_of_notNext hword hrest]
  rw [kept_token (gap?_eq_none (isBlank_of_isDecimalDigit hdigit) (startsComment_of_ne hdash)) hlexeme,
    rendered_eq (by decide), List.drop_left]

/-- The marks of conditions are marks of statements. -/
theorem symbol?_of_symbolLength? {t : Terminal} {n : Nat} (h : symbolLength? cs = some (t, n)) :
    ∃ kind, kind ≠ .string ∧ symbol? cs = some (kind, n) := by
  unfold symbolLength? at h
  split at h
  case h_6 =>
    cases h
    refine ⟨.less, by decide, ?_⟩
    unfold symbol?
    split
    all_goals simp_all
  case h_7 =>
    cases h
    refine ⟨.greater, by decide, ?_⟩
    unfold symbol?
    split
    all_goals simp_all
  case h_17 => cases h
  all_goals
    cases h
    refine ⟨_, ?_, rfl⟩
    decide

/-- A mark is kept as it is. -/
theorem kept_symbol {t : Terminal} (hc : c ∈ marks) (h : symbolLength? (c :: (word ++ rest)) = some (t, word.length + 1))
    (hcomment : startsComment (c :: (word ++ rest)) = false) :
    kept (c :: (word ++ rest)) = ' ' :: c :: word ++ kept rest := by
  have hmarks : ∀ c ∈ marks, isWordStart c = false ∧ isDigitLike c = false ∧ c ≠ '\'' ∧ c ≠ '"' :=
    List.all_iff_forall_prop.1 (by decide)
  obtain ⟨hstart, hdigit, hsingle, hdouble⟩ := hmarks c hc
  obtain ⟨kind, hkind, hsymbol⟩ := symbol?_of_symbolLength? h
  have hlexeme : lexeme c (word ++ rest) = (kind, String.ofList (c :: word), word.length) := by
    rw [lexeme, hstart, if_neg Bool.false_ne_true, hdigit, if_neg Bool.false_ne_true, if_neg (by simp [hsingle, hdouble]),
      hsymbol]
    simp
  rw [kept_token (gap?_eq_none (mem_marks hc).2 hcomment) hlexeme, rendered_eq hkind, List.drop_left]

/-! ## Quoted texts -/

/-- A text after its opening quote is closed by its last character, and not before. A quote after a backslash closes
nothing, whatever stands before the backslash. -/
def closesAtEnd (mark : Char) : List Char → Bool
  | [] => false
  | [c] => c == mark
  | c :: d :: cs => if c = '\\' && d = mark then closesAtEnd mark cs else c != mark && closesAtEnd mark (d :: cs)

/-- A quoted text is quoted anew. -/
theorem kept_quote (hc : c = '\'' ∨ c = '"') :
    kept (c :: cs) = ' ' :: quoteChars (stringBody c cs).1 ++ kept (cs.drop (stringBody c cs).2) := by
  have hquote : ∀ c, c = '\'' ∨ c = '"' → isWordStart c = false ∧ isDigitLike c = false ∧ isBlank c = false ∧ c ≠ '-' := by
    rintro c (rfl | rfl)
    · decide
    · decide
  obtain ⟨hstart, hdigit, hblank, hdash⟩ := hquote c hc
  have hlexeme : lexeme c cs = (.string, String.ofList (stringBody c cs).1, (stringBody c cs).2) := by
    rw [lexeme, hstart, if_neg Bool.false_ne_true, hdigit, if_neg Bool.false_ne_true, if_pos (by simpa using hc)]
  rw [kept_token (gap?_eq_none hblank (startsComment_of_ne hdash)) hlexeme, Parser.rendered, if_pos rfl, quote,
    String.toList_ofList, String.toList_ofList]

/-- A text within quotes from left to right: at its end, at an escaped quote, at a quote, or at anything else. -/
@[elab_as_elim]
theorem quoted_induction {motive : List Char → Prop} (mark : Char) (nil : motive [])
    (escape : ∀ cs, motive cs → motive ('\\' :: mark :: cs)) (close : ∀ cs, motive (mark :: cs))
    (other : ∀ c cs, c ≠ mark → (c = '\\' → NotNext (· == mark) cs) → motive cs → motive (c :: cs))
    (cs : List Char) : motive cs := by
  -- on the length of the text: an escaped quote is two characters
  induction hlength : cs.length using Nat.strongRecOn generalizing cs with
  | _ length ih =>
    subst hlength
    cases cs with
    | nil => exact nil
    | cons c cs =>
      by_cases hc : c = mark
      · rw [hc]
        exact close cs
      · have hother : (c = '\\' → NotNext (· == mark) cs) → motive (c :: cs) := fun hnext =>
          other c cs hc hnext (ih _ (by simp) cs rfl)
        by_cases hslash : c = '\\'
        · cases cs with
          | nil => exact hother fun _ => notNext_nil _
          | cons d cs =>
            by_cases hd : d = mark
            · rw [hslash, hd]
              exact escape cs (ih _ (by simp only [List.length_cons]; omega) cs rfl)
            · exact hother fun _ => by simpa using hd
        · exact hother fun h => absurd h hslash

theorem notNext_append (rest : List Char) (hlast : ¬ (c = '\\' ∧ body = [])) (hnext : c = '\\' → NotNext (· == mark) body) :
    c = '\\' → NotNext (· == mark) (body ++ rest) := by
  intro hslash
  have hbody := hnext hslash
  cases body with
  | nil => exact absurd ⟨hslash, rfl⟩ hlast
  | cons d body => simpa using hbody

theorem stringBody_escape (cs : List Char) :
    stringBody mark ('\\' :: mark :: cs) = (mark :: (stringBody mark cs).1, (stringBody mark cs).2 + 2) := by
  rw [stringBody, if_pos (by simp)]

theorem closesAtEnd_escape (cs : List Char) : closesAtEnd mark ('\\' :: mark :: cs) = closesAtEnd mark cs := by
  rw [closesAtEnd, if_pos (by simp)]

section Other

variable (hc : c ≠ mark) (hnext : c = '\\' → NotNext (· == mark) cs)
include hc hnext

theorem stringBody_other :
    stringBody mark (c :: cs) = (c :: (stringBody mark cs).1, (stringBody mark cs).2 + 1) := by
  cases cs with
  | nil => simp [stringBody, hc]
  | cons d cs =>
    have hescape : ¬ (decide (c = '\\') && decide (d = mark)) = true := by
      rw [Bool.and_eq_true, decide_eq_true_eq, decide_eq_true_eq]
      rintro ⟨hslash, rfl⟩
      have hd := hnext hslash
      simp at hd
    rw [stringBody, if_neg hescape, if_neg hc]

theorem closesAtEnd_other : closesAtEnd mark (c :: cs) = closesAtEnd mark cs := by
  cases cs with
  | nil => simpa [closesAtEnd] using hc
  | cons d cs =>
    have hescape : ¬ (decide (c = '\\') && decide (d = mark)) = true := by
      rw [Bool.and_eq_true, decide_eq_true_eq, decide_eq_true_eq]
      rintro ⟨hslash, rfl⟩
      have hd := hnext hslash
      simp at hd
    rw [closesAtEnd, if_neg hescape, bne_iff_ne.2 hc, Bool.true_and]

end Other

theorem stringBody_ne_nil (hcs : cs ≠ []) (hopen : NotNext (· == mark) cs) : (stringBody mark cs).1 ≠ [] := by
  cases cs using quoted_induction mark with
  | nil => exact absurd rfl hcs
  | escape cs => simp [stringBody_escape]
  | close cs => simp at hopen
  | other c cs hc hnext => simp [stringBody_other hc hnext]

variable (hmark : mark ≠ '\\')
include hmark

theorem stringBody_close (cs : List Char) : stringBody mark (mark :: cs) = ([], 1) := by
  cases cs with
  | nil => rw [stringBody, if_pos rfl]
  | cons d cs => rw [stringBody, if_neg (by simp [hmark]), if_pos rfl]

theorem closesAtEnd_close (cs : List Char) : closesAtEnd mark (mark :: cs) = cs.isEmpty := by
  cases cs with
  | nil => simp [closesAtEnd]
  | cons d cs => simp [closesAtEnd, hmark]

/-- A text that ends with a backslash is not closed, so nothing is left after it. -/
theorem stringBody_unclosed (h : (stringBody mark cs).1.getLast? = some '\\') :
    cs.drop (stringBody mark cs).2 = [] := by
  induction cs using quoted_induction mark with
  | nil => rfl
  | escape cs ih =>
    rw [stringBody_escape] at h ⊢
    refine ih ?_
    rw [List.getLast?_cons] at h
    cases hlast : (stringBody mark cs).1.getLast? with
    | none =>
      rw [hlast] at h
      exact absurd (Option.some.inj h) hmark
    | some last =>
      rw [hlast] at h
      exact h
  | close cs =>
    rw [stringBody_close hmark] at h
    cases h
  | other c cs hc hnext ih =>
    rw [stringBody_other hc hnext] at h ⊢
    by_cases hcs : cs = []
    · rw [hcs]
      rfl
    · refine ih ?_
      rw [List.getLast?_cons] at h
      cases hlast : (stringBody mark cs).1.getLast? with
      | none =>
        -- the backslash would be the last character before the closing quote, and escape it
        rw [hlast] at h
        exact absurd (List.getLast?_eq_none_iff.1 hlast) (stringBody_ne_nil hcs (hnext (Option.some.inj h)))
      | some last =>
        rw [hlast] at h
        exact h

/-- A text that its last character closes is read up to there. -/
theorem stringBody_of_closesAtEnd (h : closesAtEnd mark (body ++ [mark]) = true) :
    stringBody mark (body ++ mark :: rest) = (unescape mark body, body.length + 1) := by
  induction body using quoted_induction mark with
  | nil => exact stringBody_close hmark rest
  | escape body ih =>
    rw [List.cons_append, List.cons_append] at h ⊢
    rw [closesAtEnd_escape] at h
    rw [stringBody_escape, ih h, unescape, if_pos (by simp)]
    rfl
  | close body =>
    rw [List.cons_append, closesAtEnd_close hmark] at h
    simp at h
  | other c body hc hnext ih =>
    rw [List.cons_append] at h ⊢
    by_cases hlast : c = '\\' ∧ body = []
    · rw [hlast.1, hlast.2, List.nil_append, closesAtEnd_escape] at h
      cases h
    · have hnext' := fun rest => notNext_append rest hlast hnext
      rw [closesAtEnd_other hc (hnext' [mark])] at h
      rw [stringBody_other hc (hnext' (mark :: rest)), ih h, unescape_cons hnext]
      rfl

/-- A text that its last character does not close, or not it first, is read as another text. -/
theorem stringBody_ne_unescape (h : closesAtEnd mark (body ++ [mark]) = false) :
    (stringBody mark (body ++ mark :: rest)).1 ≠ unescape mark body := by
  induction body using quoted_induction mark with
  | nil =>
    rw [List.nil_append, closesAtEnd_close hmark] at h
    cases h
  | escape body ih =>
    rw [List.cons_append, List.cons_append] at h ⊢
    rw [closesAtEnd_escape] at h
    rw [stringBody_escape, unescape, if_pos (by simp)]
    intro heq
    exact ih h (List.cons.inj heq).2
  | close body =>
    have hne : unescape mark (mark :: body) ≠ [] := by
      rw [unescape_cons fun hslash => absurd hslash hmark]
      simp
    rw [List.cons_append, stringBody_close hmark]
    exact hne.symm
  | other c body hc hnext ih =>
    rw [List.cons_append] at h ⊢
    by_cases hlast : c = '\\' ∧ body = []
    · rw [hlast.1, hlast.2, List.nil_append, stringBody_escape]
      intro heq
      exact hmark (List.cons.inj heq).1
    · have hnext' := fun rest => notNext_append rest hlast hnext
      rw [closesAtEnd_other hc (hnext' [mark])] at h
      rw [stringBody_other hc (hnext' (mark :: rest)), unescape_cons hnext]
      intro heq
      exact ih h (List.cons.inj heq).2

end Relational.Sql
