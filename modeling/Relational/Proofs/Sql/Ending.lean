import Relational.Proofs.Sql.Spelling
import Relational.Proofs.Sql.Tiling

/-!
# Reading a text in pieces

A text that ends outside of comments and string literals is read as what it says, whatever follows it after white space.
One that ends within a comment goes on with it up to the next newline, and one that ends within a string literal goes on
with the literal.
-/

namespace Relational.Sql

open Text Condition

variable {c d mark blank : Char} {cs rest : List Char} {kind : TokenKind}

/-! ## The end of a text -/

/-- Where the end of a text is. -/
inductive Ending where
  | outside
  | comment
  | literal
  deriving Repr, DecidableEq

/-- The text after an opening quote closes it. -/
def isClosed (mark : Char) : List Char → Bool
  | [] => false
  | [c] => c == mark
  | c :: d :: cs => if c = '\\' && d = mark then isClosed mark cs else c == mark || isClosed mark (d :: cs)

/-- A string literal that its text leaves open starts here. -/
def startsOpen (c : Char) (cs : List Char) : Bool :=
  (c == '\'' || c == '"') && !isClosed c cs

/-- Where a text ends. -/
def ending : List Char → Ending
  | [] => .outside
  | c :: cs =>
    match gap? c cs with
    | some n => if startsComment (c :: cs) && cs.length ≤ n then .comment else ending (cs.drop n)
    | none => if startsOpen c cs then .literal else ending (cs.drop (lexeme c cs).2.2)
termination_by cs => cs.length
decreasing_by all_goals simp only [List.length_drop, List.length_cons]; omega

theorem ending_nil : ending [] = .outside := by
  rw [ending.eq_def]

/-! ## Closed and open literals -/

theorem isClosed_escape (cs : List Char) : isClosed mark ('\\' :: mark :: cs) = isClosed mark cs := by
  rw [isClosed, if_pos (by simp)]

theorem isClosed_close (hmark : mark ≠ '\\') (cs : List Char) : isClosed mark (mark :: cs) = true := by
  cases cs with
  | nil => simp [isClosed]
  | cons d cs => simp [isClosed, hmark]

theorem isClosed_other (hc : c ≠ mark) (hnext : c = '\\' → NotNext (· == mark) cs) :
    isClosed mark (c :: cs) = isClosed mark cs := by
  cases cs with
  | nil => simpa [isClosed] using hc
  | cons d cs =>
    have hescape : ¬ (decide (c = '\\') && decide (d = mark)) = true := by
      rw [Bool.and_eq_true, decide_eq_true_eq, decide_eq_true_eq]
      rintro ⟨hslash, rfl⟩
      simpa using hnext hslash
    rw [isClosed, if_neg hescape, beq_false_of_ne hc, Bool.false_or]

/-- What follows a closed literal is not read with it. -/
theorem stringBody_append_of_isClosed (hmark : mark ≠ '\\') (h : isClosed mark cs = true) (rest : List Char) :
    stringBody mark (cs ++ rest) = stringBody mark cs := by
  induction cs using quoted_induction mark with
  | nil => cases h
  | escape cs ih =>
    rw [isClosed_escape] at h
    rw [List.cons_append, List.cons_append, stringBody_escape, stringBody_escape, ih h]
  | close cs => rw [List.cons_append, stringBody_close hmark, stringBody_close hmark]
  | other c cs hc hnext ih =>
    rw [isClosed_other hc hnext] at h
    have hne : cs ≠ [] := by
      rintro rfl
      cases h
    have hnext' : c = '\\' → NotNext (· == mark) (cs ++ rest) := notNext_append rest (fun hlast => hne hlast.2) hnext
    rw [List.cons_append, stringBody_other hc hnext', stringBody_other hc hnext, ih h]

/-- An open literal goes on with what follows it. -/
theorem stringBody_append_of_open (h : isClosed mark cs = false) (hmark : mark ≠ '\\')
    (hrest : NotNext (· == mark) rest) : stringBody mark (cs ++ rest) =
      ((stringBody mark cs).1 ++ (stringBody mark rest).1, cs.length + (stringBody mark rest).2) := by
  induction cs using quoted_induction mark with
  | nil => simp [stringBody]
  | escape cs ih =>
    rw [isClosed_escape] at h
    rw [List.cons_append, List.cons_append, stringBody_escape, stringBody_escape, ih h]
    exact Prod.ext rfl (by simp only [List.length_cons]; omega)
  | close cs =>
    rw [isClosed_close hmark] at h
    cases h
  | other c cs hc hnext ih =>
    rw [isClosed_other hc hnext] at h
    have hnext' : c = '\\' → NotNext (· == mark) (cs ++ rest) := by
      intro hslash
      cases cs with
      | nil => exact hrest
      | cons d cs => simpa using hnext hslash
    rw [List.cons_append, stringBody_other hc hnext', stringBody_other hc hnext, ih h]
    exact Prod.ext rfl (by simp only [List.length_cons]; omega)

theorem mem_of_mem_stringBody (hmark : mark ≠ '\\') (h : d ∈ (stringBody mark cs).1) : d ∈ cs := by
  induction cs using quoted_induction mark with
  | nil => exact h
  | escape cs ih =>
    rw [stringBody_escape, List.mem_cons] at h
    rcases h with rfl | h
    · simp
    · simp [ih h]
  | close cs =>
    rw [stringBody_close hmark] at h
    cases h
  | other c cs hc hnext ih =>
    rw [stringBody_other hc hnext, List.mem_cons] at h
    rcases h with rfl | h
    · simp
    · simp [ih h]

theorem length_stringBody_le (hmark : mark ≠ '\\') (cs : List Char) : (stringBody mark cs).2 ≤ cs.length := by
  induction cs using quoted_induction mark with
  | nil => exact Nat.le_refl 0
  | escape cs ih =>
    rw [stringBody_escape]
    exact Nat.add_le_add_right ih 2
  | close cs =>
    rw [stringBody_close hmark]
    exact Nat.succ_le_succ (Nat.zero_le _)
  | other c cs hc hnext ih =>
    rw [stringBody_other hc hnext]
    exact Nat.succ_le_succ ih

/-! ## Marks -/

/-- Most marks are never carried on. -/
theorem symbol?_of_lone (hc : c ∉ ['!', '<', '>']) (cs : List Char) : symbol? (c :: cs) = symbol? [c] := by
  unfold symbol?
  split <;> simp_all

/-- The others are carried on by nothing but these two. -/
theorem symbol?_of_shorter (hequal : d ≠ '=') (hmore : d ≠ '>') (cs : List Char) :
    symbol? (c :: d :: cs) = symbol? [c] := by
  by_cases hc : c ∈ ['!', '<', '>']
  · simp only [List.mem_cons, List.not_mem_nil, or_false] at hc
    rcases hc with rfl | rfl | rfl
    all_goals simp [symbol?, hequal, hmore]
  · exact symbol?_of_lone hc _

theorem symbol?_cons_cons (c d : Char) (cs : List Char) : symbol? (c :: d :: cs) = symbol? [c, d] := by
  by_cases hc : c ∈ ['!', '<', '>']
  · by_cases hlonger : d = '=' ∨ d = '>'
    · simp only [List.mem_cons, List.not_mem_nil, or_false] at hc
      rcases hc with rfl | rfl | rfl <;> rcases hlonger with rfl | rfl <;> rfl
    · rw [not_or] at hlonger
      rw [symbol?_of_shorter hlonger.1 hlonger.2, symbol?_of_shorter hlonger.1 hlonger.2]
  · rw [symbol?_of_lone hc, symbol?_of_lone hc [d]]

theorem length_symbol?_le {n : Nat} (h : symbol? (c :: cs) = some (kind, n)) : n - 1 ≤ cs.length := by
  unfold symbol? at h
  split at h <;> simp_all <;> omega

/-! ## Tokens and gaps before a blank -/

/-- What a blank is not. -/
theorem ne_of_isBlank (hblank : isBlank blank = true) (hd : isBlank d = false) : blank ≠ d := by
  rintro rfl
  rw [hblank] at hd
  cases hd

theorem symbol?_append (hblank : isBlank blank = true) (cs rest : List Char) :
    symbol? (c :: (cs ++ blank :: rest)) = symbol? (c :: cs) := by
  cases cs with
  | nil => exact symbol?_of_shorter (ne_of_isBlank hblank (by decide)) (ne_of_isBlank hblank (by decide)) rest
  | cons d cs => exact (symbol?_cons_cons c d _).trans (symbol?_cons_cons c d cs).symm

theorem startsComment_cons_cons (c d : Char) (cs : List Char) :
    startsComment (c :: d :: cs) = (c == '-' && d == '-') := by
  unfold startsComment
  split
  · rename_i heq
    cases heq
    rfl
  · rename_i hother
    rw [eq_comm, Bool.and_eq_false_iff, beq_eq_false_iff_ne, beq_eq_false_iff_ne, ← not_and_or]
    rintro ⟨rfl, rfl⟩
    exact hother cs rfl

theorem startsComment_append (hblank : isBlank blank = true) (cs rest : List Char) :
    startsComment (c :: (cs ++ blank :: rest)) = startsComment (c :: cs) := by
  have hdash : blank ≠ '-' := ne_of_isBlank hblank (by decide)
  cases cs with
  | nil => simp [startsComment, hdash]
  | cons d cs => exact (startsComment_cons_cons c d _).trans (startsComment_cons_cons c d cs).symm

theorem notNext_blank {p : Char → Bool} (hblank : isBlank blank = true) (hp : ∀ c, p c = true → isBlank c = false)
    (rest : List Char) : NotNext p (blank :: rest) := by
  rw [notNext_cons, ← Bool.not_eq_true]
  intro h
  rw [hp blank h] at hblank
  cases hblank

theorem isBlank_of_isNumberPart (h : isNumberPart c = true) : isBlank c = false := by
  rw [isNumberPart, Bool.or_eq_true, beq_iff_eq] at h
  rcases h with h | rfl
  · exact isBlank_of_isDigitLike h
  · decide

/-- A token ends before a blank, unless it is a string literal that is open. -/
theorem lexeme_append (hblank : isBlank blank = true) (hopen : startsOpen c cs = false) (rest : List Char) :
    lexeme c (cs ++ blank :: rest) = lexeme c cs := by
  have hword : (cs ++ blank :: rest).takeWhile isWordChar = cs.takeWhile isWordChar :=
    takeWhile_append_right (fun _ => id) (notNext_blank hblank (fun _ => isBlank_of_isWordChar) rest)
  have hnumber : (cs ++ blank :: rest).takeWhile isNumberPart = cs.takeWhile isNumberPart :=
    takeWhile_append_right (fun _ => id) (notNext_blank hblank (fun _ => isBlank_of_isNumberPart) rest)
  unfold lexeme
  rw [hword, hnumber, symbol?_append hblank]
  split
  · rfl
  · split
    · rfl
    · split
      · rename_i hquote
        have hmark : c ≠ '\\' := by
          rintro rfl
          revert hquote
          decide
        have hclosed : c = '\'' ∨ c = '"' → isClosed c cs = true := by
          simpa [startsOpen] using hopen
        rw [stringBody_append_of_isClosed hmark (hclosed (by simpa using hquote))]
      · split
        · rename_i hsymbol
          rw [List.take_append_of_le_length (length_symbol?_le hsymbol)]
        · rfl

theorem length_lexeme_le (c : Char) (cs : List Char) : (lexeme c cs).2.2 ≤ cs.length := by
  unfold lexeme
  split
  · exact (List.takeWhile_sublist _).length_le
  · split
    · exact (List.takeWhile_sublist _).length_le
    · split
      · rename_i hquote
        refine length_stringBody_le ?_ cs
        rintro rfl
        revert hquote
        decide
      · split
        · rename_i hsymbol
          exact length_symbol?_le hsymbol
        · exact Nat.zero_le _

theorem gap?_append_of_none (hblank : isBlank blank = true) (h : gap? c cs = none) (rest : List Char) :
    gap? c (cs ++ blank :: rest) = none := by
  unfold gap? at h ⊢
  rw [startsComment_append hblank]
  split
  · rename_i hc
    rw [if_pos hc] at h
    cases h
  · rename_i hc
    rw [if_neg hc] at h
    split
    · rename_i hcomment
      rw [if_pos hcomment] at h
      cases h
    · rfl

/-- A gap that does not reach the end of the text is the same with more behind the text. -/
theorem gap?_append_of_some {n : Nat} (hblank : isBlank blank = true) (h : gap? c cs = some n)
    (hends : (startsComment (c :: cs) && cs.length ≤ n) = false) (rest : List Char) :
    gap? c (cs ++ blank :: rest) = some n := by
  unfold gap? at h ⊢
  rw [startsComment_append hblank]
  split
  · rename_i hc
    rw [if_pos hc] at h
    exact h
  · rename_i hc
    rw [if_neg hc] at h
    split
    · rename_i hcomment
      rw [if_pos hcomment, Option.some.injEq] at h
      subst h
      rw [hcomment, Bool.true_and, decide_eq_false_iff_not] at hends
      rw [List.takeWhile_append, if_neg (by omega)]
    · rename_i hcomment
      rw [if_neg hcomment] at h
      cases h

theorem length_gap?_le {n : Nat} (h : gap? c cs = some n) : n ≤ cs.length := by
  unfold gap? at h
  split at h
  · cases h
    exact Nat.zero_le _
  · split at h
    · cases h
      exact (List.takeWhile_sublist _).length_le
    · cases h

/-! ## Readings -/

/-- What the tokens of a text say before its end. -/
def said (cs : List Char) : List Lexeme :=
  (readings cs).dropLast

theorem readings_gap {n : Nat} (h : gap? c cs = some n) : readings (c :: cs) = readings (cs.drop n) := by
  rw [readings, tokenizeFrom_gap h, map_lexeme_tokenizeFrom]

theorem readings_of_isBlank (hblank : isBlank blank = true) (cs : List Char) : readings (blank :: cs) = readings cs :=
  readings_gap (gap?_of_isBlank hblank)

theorem readings_lexeme (h : gap? c cs = none) :
    readings (c :: cs) = ((lexeme c cs).1, (lexeme c cs).2.1) :: readings (cs.drop (lexeme c cs).2.2) := by
  rw [readings, tokenizeFrom_token h, List.map_cons, map_lexeme_tokenizeFrom]
  rfl

/-- The last token of a text is the one for its end. -/
theorem readings_eq_said (cs : List Char) : readings cs = said cs ++ [(.endOfFile, "")] := by
  have hlast : ∀ position, ((tokenizeFrom position cs).map Token.lexeme).getLast? = some (.endOfFile, "") := by
    intro position
    fun_induction tokenizeFrom position cs with
    | case1 => rfl
    | case2 position c cs n hgap ih => exact ih
    | case3 position c cs hgap kind text n hlexeme ih => rw [List.map_cons, List.getLast?_cons, ih]; rfl
  exact (List.dropLast_append_getLast? _ (hlast .start)).symm

theorem said_nil : said [] = [] := by
  rw [said, readings_nil]
  rfl

theorem said_gap {n : Nat} (h : gap? c cs = some n) : said (c :: cs) = said (cs.drop n) := by
  rw [said, readings_gap h, said]

theorem said_lexeme (h : gap? c cs = none) :
    said (c :: cs) = ((lexeme c cs).1, (lexeme c cs).2.1) :: said (cs.drop (lexeme c cs).2.2) := by
  rw [said, readings_lexeme h, readings_eq_said, ← List.cons_append, List.dropLast_concat]

theorem mem_of_mem_lexeme (h : d ∈ (lexeme c cs).2.1.toList) : d ∈ c :: cs := by
  rcases lexeme_text c cs with ⟨-, htext⟩ | ⟨hquote, hstring⟩
  · rw [htext, String.toList_ofList] at h
    rcases List.mem_cons.1 h with rfl | h
    · exact List.mem_cons_self
    · exact List.mem_cons_of_mem c (List.mem_of_mem_take h)
  · rw [hstring, String.toList_ofList] at h
    exact List.mem_cons_of_mem c (mem_of_mem_stringBody (by rcases hquote with rfl | rfl <;> decide) h)

/-- Every character of a token is one of the text. -/
theorem mem_of_mem_token {position : Position} {token : Token} (h : token ∈ tokenizeFrom position cs)
    (hd : d ∈ token.text.toList) : d ∈ cs := by
  fun_induction tokenizeFrom position cs with
  | case1 =>
    rw [List.mem_singleton.1 h] at hd
    cases hd
  | case2 position c cs n hgap ih => exact List.mem_cons_of_mem c (List.mem_of_mem_drop (ih h))
  | case3 position c cs hgap kind text n hlexeme ih =>
    rcases List.mem_cons.1 h with rfl | h
    · refine mem_of_mem_lexeme ?_
      rw [hlexeme]
      exact hd
    · exact List.mem_cons_of_mem c (List.mem_of_mem_drop (ih h))

/-! ## More behind a text -/

/-- What is read on its own of what follows the end of a text: a comment takes it up to the next newline. -/
def readOn : Ending → List Char → List Char
  | .comment, rest => rest.dropWhile isCommentPart
  | _, rest => rest

/-- A comment that reaches the end of a text goes on behind it. -/
theorem gap?_append_of_comment {n : Nat} (hblank : isBlank blank = true) (h : gap? c cs = some n)
    (hends : (startsComment (c :: cs) && cs.length ≤ n) = true) (rest : List Char) :
    n = cs.length ∧ gap? c (cs ++ blank :: rest) = some (cs ++ (blank :: rest).takeWhile isCommentPart).length := by
  have hn := length_gap?_le h
  rw [Bool.and_eq_true, decide_eq_true_eq] at hends
  have hdash : isBlank c = false := by
    obtain ⟨body, rfl, -⟩ := exists_comment hends.1
    decide
  unfold gap? at h ⊢
  rw [startsComment_append hblank, hends.1, hdash]
  rw [hends.1, hdash] at h
  have hlength : (cs.takeWhile isCommentPart).length = n := Option.some.inj h
  refine ⟨by omega, congrArg some ?_⟩
  rw [List.takeWhile_append, if_pos (by omega)]

/-- A text that leaves no string literal open is read as what it says, whatever follows it after a blank. -/
theorem readings_append (hblank : isBlank blank = true) (h : ending cs ≠ .literal) (rest : List Char) :
    readings (cs ++ blank :: rest) = said cs ++ readings (readOn (ending cs) (blank :: rest)) := by
  fun_induction ending cs with
  | case1 => rw [said_nil]; rfl
  | case2 c cs n hgap hends =>
    obtain ⟨hn, hgap'⟩ := gap?_append_of_comment hblank hgap hends rest
    have hdrop : (cs ++ blank :: rest).drop (cs ++ (blank :: rest).takeWhile isCommentPart).length =
        (blank :: rest).dropWhile isCommentPart := by
      have hsplit := congrArg (List.drop ((blank :: rest).takeWhile isCommentPart).length)
        (List.takeWhile_append_dropWhile (p := isCommentPart) (l := blank :: rest))
      rw [List.length_append, List.drop_length_add_append, ← hsplit, List.drop_left]
    rw [List.cons_append, readings_gap hgap', hdrop, said_gap hgap, hn, List.drop_length, said_nil]
    rfl
  | case3 c cs n hgap hends ih =>
    have hgap' := gap?_append_of_some hblank hgap (by simpa using hends) rest
    rw [List.cons_append, readings_gap hgap', List.drop_append_of_le_length (length_gap?_le hgap), ih h, said_gap hgap]
  | case4 c cs hgap hopen => exact absurd rfl h
  | case5 c cs hgap hopen ih =>
    have hlexeme := lexeme_append hblank (by simpa using hopen) rest
    rw [List.cons_append, readings_lexeme (gap?_append_of_none hblank hgap rest), hlexeme,
      List.drop_append_of_le_length (length_lexeme_le c cs), ih h, said_lexeme hgap]
    rfl

/-! ## A line and its end -/

theorem readings_blanks {blanks : List Char} (hblanks : ∀ c ∈ blanks, isBlank c = true) (rest : List Char) :
    readings (blanks ++ rest) = readings rest := by
  induction blanks with
  | nil => rfl
  | cons c blanks ih =>
    rw [List.cons_append, readings_of_isBlank (hblanks c List.mem_cons_self),
      ih fun d hd => hblanks d (List.mem_cons_of_mem c hd)]

/-- Blanks behind a text that leaves no string literal open say nothing. -/
theorem readings_append_blanks {blanks : List Char} (hblanks : ∀ c ∈ blanks, isBlank c = true)
    (h : ending cs ≠ .literal) : readings (cs ++ blanks) = readings cs := by
  cases blanks with
  | nil => rw [List.append_nil]
  | cons blank blanks =>
    have hsilent : readings (readOn (ending cs) (blank :: blanks)) = [(.endOfFile, "")] := by
      have hrest : ∀ c ∈ readOn (ending cs) (blank :: blanks), isBlank c = true := by
        intro c hc
        refine hblanks c ?_
        revert hc
        cases ending cs with
        | comment => exact fun hc => (List.dropWhile_sublist _).mem hc
        | outside => exact id
        | literal => exact id
      rw [← List.append_nil (readOn _ _), readings_blanks hrest, readings_nil]
    rw [readings_append (hblanks blank List.mem_cons_self) h, hsilent, readings_eq_said]

/-- A line that leaves no string literal open is read apart from the lines after it. -/
theorem readings_append_line {blanks : List Char} (hblanks : ∀ c ∈ blanks, isBlank c = true)
    (hline : '\n' ∉ blanks) (h : ending cs ≠ .literal) (rest : List Char) :
    readings (cs ++ (blanks ++ '\n' :: rest)) = said cs ++ readings rest := by
  have hrest : readings (readOn (ending cs) (blanks ++ '\n' :: rest)) = readings rest := by
    have hstart : readings (blanks ++ '\n' :: rest) = readings rest := by
      rw [readings_blanks hblanks, readings_of_isBlank (by decide)]
    cases ending cs with
    | outside => exact hstart
    | literal => exact hstart
    | comment =>
      have hdrop : (blanks ++ '\n' :: rest).dropWhile isCommentPart = '\n' :: rest := by
        rw [List.dropWhile_append_of_pos]
        · rfl
        · intro c hc
          simpa [isCommentPart] using ne_of_mem_of_not_mem hc hline
      rw [readOn, hdrop, readings_of_isBlank (by decide)]
  cases blanks with
  | nil => rw [List.nil_append] at hrest ⊢; rw [readings_append (by decide) h, hrest]
  | cons blank blanks =>
    rw [List.cons_append] at hrest ⊢
    rw [readings_append (hblanks blank List.mem_cons_self) h, hrest]

/-- A comment takes the rest of its line. -/
theorem readings_append_of_comment (hblank : isBlank blank = true) (h : ending cs = .comment)
    (hrest : '\n' ∉ blank :: rest) : readings (cs ++ blank :: rest) = readings cs := by
  have hall : ∀ c ∈ blank :: rest, isCommentPart c = true := by
    intro c hc
    simpa [isCommentPart] using ne_of_mem_of_not_mem hc hrest
  rw [readings_append hblank (by rw [h]; decide), h, readOn, List.dropWhile_eq_nil_iff.2 hall, readings_nil,
    ← readings_eq_said]

/-- A blank parts a text from what follows it. -/
theorem readings_append_of_outside (hblank : isBlank blank = true) (h : ending cs = .outside) (rest : List Char) :
    readings (cs ++ blank :: rest) = said cs ++ readings rest := by
  rw [readings_append hblank (by rw [h]; decide), h]
  exact congrArg (said cs ++ ·) (readings_of_isBlank hblank rest)

/-! ## A literal and what follows it -/

theorem lexeme_of_quote (hquote : c = '\'' ∨ c = '"') (cs : List Char) :
    lexeme c cs = (.string, String.ofList (stringBody c cs).1, (stringBody c cs).2) := by
  rcases lexeme_text c cs with ⟨hne, -⟩ | ⟨-, hlexeme⟩
  · refine absurd ?_ hne
    rcases hquote with rfl | rfl <;> rfl
  · exact hlexeme

/-- Blanks in a literal are part of it. -/
theorem stringBody_blanks {blanks : List Char} (hquote : mark = '\'' ∨ mark = '"')
    (hblanks : ∀ c ∈ blanks, isBlank c = true) (rest : List Char) : stringBody mark (blanks ++ rest) =
      (blanks ++ (stringBody mark rest).1, blanks.length + (stringBody mark rest).2) := by
  induction blanks with
  | nil => simp
  | cons c blanks ih =>
    have hc := hblanks c List.mem_cons_self
    have hmark : c ≠ mark := by
      rcases hquote with rfl | rfl <;> exact ne_of_isBlank hc (by decide)
    rw [List.cons_append, stringBody_other hmark fun hslash => absurd hslash (ne_of_isBlank hc (by decide)),
      ih fun d hd => hblanks d (List.mem_cons_of_mem c hd)]
    exact Prod.ext rfl (by simp only [List.length_cons]; omega)

/-- A text that leaves a string literal open says the literal last, and the literal goes on with what follows after a
blank. -/
theorem readings_of_literal (h : ending cs = .literal) : ∃ before mark content, (mark = '\'' ∨ mark = '"') ∧
    readings cs = before ++ [(.string, String.ofList content), (.endOfFile, "")] ∧
    ∀ blank rest, isBlank blank = true → readings (cs ++ blank :: rest) =
      before ++ (.string, String.ofList (content ++ (stringBody mark (blank :: rest)).1)) ::
        readings ((blank :: rest).drop (stringBody mark (blank :: rest)).2) := by
  fun_induction ending cs with
  | case1 => cases h
  | case2 => cases h
  | case3 c cs n hgap hends ih =>
    obtain ⟨before, mark, content, hquote, hread, hmore⟩ := ih h
    refine ⟨before, mark, content, hquote, (readings_gap hgap).trans hread, fun blank rest hblank => ?_⟩
    have hgap' := gap?_append_of_some hblank hgap (by simpa using hends) rest
    rw [List.cons_append, readings_gap hgap', List.drop_append_of_le_length (length_gap?_le hgap), hmore blank rest hblank]
  | case4 c cs hgap hopen =>
    rw [startsOpen, Bool.and_eq_true, Bool.or_eq_true, beq_iff_eq, beq_iff_eq, Bool.not_eq_true'] at hopen
    obtain ⟨hquote, hopen⟩ := hopen
    have hmark : c ≠ '\\' := by
      rcases hquote with rfl | rfl <;> decide
    have hlength : (stringBody c cs).2 = cs.length := by
      simpa [stringBody] using congrArg Prod.snd (stringBody_append_of_open hopen hmark (notNext_nil _))
    refine ⟨[], c, (stringBody c cs).1, hquote, ?_, fun blank rest hblank => ?_⟩
    · rw [readings_lexeme hgap, lexeme_of_quote hquote, hlength, List.drop_length, readings_nil]
      rfl
    · have hnext : NotNext (· == c) (blank :: rest) := by
        rw [notNext_cons, beq_eq_false_iff_ne]
        rcases hquote with rfl | rfl <;> exact ne_of_isBlank hblank (by decide)
      rw [List.cons_append, readings_lexeme (gap?_append_of_none hblank hgap rest), lexeme_of_quote hquote,
        stringBody_append_of_open hopen hmark hnext, List.drop_length_add_append]
      rfl
  | case5 c cs hgap hopen ih =>
    obtain ⟨before, mark, content, hquote, hread, hmore⟩ := ih h
    refine ⟨((lexeme c cs).1, (lexeme c cs).2.1) :: before, mark, content, hquote, ?_, fun blank rest hblank => ?_⟩
    · rw [readings_lexeme hgap, hread]
      rfl
    · have hlexeme := lexeme_append hblank (by simpa using hopen) rest
      rw [List.cons_append, readings_lexeme (gap?_append_of_none hblank hgap rest), hlexeme,
        List.drop_append_of_le_length (length_lexeme_le c cs), hmore blank rest hblank]
      rfl

/-- The blanks that follow are part of the literal. -/
theorem readings_of_literal_blanks (h : ending cs = .literal) : ∃ before mark content,
    readings cs = before ++ [(.string, String.ofList content), (.endOfFile, "")] ∧
    ∀ blanks rest, blanks ≠ [] → (∀ c ∈ blanks, isBlank c = true) → readings (cs ++ (blanks ++ rest)) =
      before ++ (.string, String.ofList (content ++ (blanks ++ (stringBody mark rest).1))) ::
        readings (rest.drop (stringBody mark rest).2) := by
  obtain ⟨before, mark, content, hquote, hread, hmore⟩ := readings_of_literal h
  refine ⟨before, mark, content, hread, fun blanks rest hne hblanks => ?_⟩
  have hbody := stringBody_blanks hquote hblanks rest
  cases blanks with
  | nil => exact absurd rfl hne
  | cons blank blanks =>
    have hread' := hmore blank (blanks ++ rest) (hblanks blank List.mem_cons_self)
    rw [← List.cons_append, hbody, List.drop_length_add_append] at hread'
    exact hread'

end Relational.Sql
