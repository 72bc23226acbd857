import Relational.Proofs.Condition.Case
import Relational.Proofs.Condition.Recased
import Relational.Proofs.Sql.Order
import Relational.Proofs.Sql.Tiling

/-!
# Statements that differ in case

Two texts that differ only in the case of ASCII letters, and not in their string literals, have the same tokens but for
the case of words. The text of a clause that is kept of them is the same condition but for the case of names.
-/

namespace Relational.Sql

open Text Condition

variable {c mark : Char} {cs : List Char}

/-! ## The lexer and small letters -/

theorem isWordStart_toLower (c : Char) : isWordStart c.toLower = isWordStart c :=
  eq_toLower isWordStart (by decide) c

theorem isNumberPart_toLower (c : Char) : isNumberPart c.toLower = isNumberPart c :=
  eq_toLower isNumberPart (by decide) c

theorem isCommentPart_toLower (c : Char) : isCommentPart c.toLower = isCommentPart c :=
  eq_toLower isCommentPart (by decide) c

theorem wordKind_toLower (word : String) : wordKind word.toLower = wordKind word := by
  rw [wordKind, wordKind, Keyword.ofWord?, Keyword.ofWord?, upper_toLower]

theorem startsComment_map_toLower (cs : List Char) : startsComment (cs.map Char.toLower) = startsComment cs := by
  have hdash : ∀ c : Char, c.toLower = '-' ↔ c = '-' := fun c => toLower_eq_iff (by decide) (by decide)
  have htest : ∀ (c d : Char) (cs : List Char), startsComment (c :: d :: cs) = (c = '-' && d = '-' : Bool) := by
    intro c d cs
    unfold startsComment
    split
    · simp_all
    · simp_all
  cases cs with
  | nil => rfl
  | cons c cs =>
    cases cs with
    | nil => simp [startsComment]
    | cons d cs => simp only [List.map_cons, htest, hdash]

theorem gap?_map_toLower (c : Char) (cs : List Char) : gap? c.toLower (cs.map Char.toLower) = gap? c cs := by
  have hcomment := startsComment_map_toLower (c :: cs)
  rw [List.map_cons] at hcomment
  rw [gap?, gap?, isBlank_toLower, hcomment, takeWhile_map_toLower isCommentPart_toLower, List.length_map]

/-- A mark of one character, or of two with an equals sign or a greater sign after the first. -/
theorem symbol?_cons (c : Char) (cs : List Char) : symbol? (c :: cs) =
    if c = '!' then (if cs.head? = some '=' then some (.notEquals, 2) else none)
    else if c = '<' then
      if cs.head? = some '>' then some (.notEquals, 2)
      else if cs.head? = some '=' then some (.lessEqual, 2) else some (.less, 1)
    else if c = '>' then if cs.head? = some '=' then some (.greaterEqual, 2) else some (.greater, 1)
    else symbol? [c] := by
  unfold symbol?
  split <;> simp_all [List.head?_eq_some_iff]

theorem symbol?_map_toLower (cs : List Char) : symbol? (cs.map Char.toLower) = symbol? cs := by
  have hmark : ∀ d : Char, d = '!' ∨ d = '<' ∨ d = '>' ∨ d = '=' → ∀ c : Char, c.toLower = d ↔ c = d := by
    rintro d (rfl | rfl | rfl | rfl)
    · exact fun c => toLower_eq_iff (by decide) (by decide)
    · exact fun c => toLower_eq_iff (by decide) (by decide)
    · exact fun c => toLower_eq_iff (by decide) (by decide)
    · exact fun c => toLower_eq_iff (by decide) (by decide)
  have hhead : ∀ d : Char, d = '!' ∨ d = '<' ∨ d = '>' ∨ d = '=' → ∀ cs : List Char,
      ((cs.map Char.toLower).head? = some d ↔ cs.head? = some d) := by
    intro d hd cs
    cases cs with
    | nil => simp
    | cons c cs => simpa using hmark d hd c
  cases cs with
  | nil => rfl
  | cons c cs =>
    have hsingle : symbol? [c.toLower] = symbol? [c] := eq_toLower (fun c => symbol? [c]) (by decide) c
    rw [List.map_cons, symbol?_cons c.toLower, symbol?_cons c cs, hsingle]
    simp only [hmark '!' (by decide), hmark '<' (by decide), hmark '>' (by decide), hhead '=' (by decide),
      hhead '>' (by decide)]

theorem stringBody_map_toLower (hmark : ∀ c : Char, c.toLower = mark ↔ c = mark) (hne : mark ≠ '\\') (cs : List Char) :
    stringBody mark (cs.map Char.toLower) = ((stringBody mark cs).1.map Char.toLower, (stringBody mark cs).2) := by
  have hslash : ∀ c : Char, c.toLower = '\\' ↔ c = '\\' := fun c => toLower_eq_iff (by decide) (by decide)
  have hself : mark.toLower = mark := (hmark mark).2 rfl
  induction cs using quoted_induction mark with
  | nil => rfl
  | escape cs ih =>
    rw [List.map_cons, List.map_cons, hself, (hslash '\\').2 rfl, stringBody_escape, stringBody_escape, ih,
      List.map_cons, hself]
  | close cs => rw [List.map_cons, hself, stringBody_close hne, stringBody_close hne, List.map_nil]
  | other c cs hc hnext ih =>
    have hnext' : c.toLower = '\\' → NotNext (· == mark) (cs.map Char.toLower) := by
      intro h
      have hcs := hnext ((hslash c).1 h)
      cases cs with
      | nil => exact notNext_nil _
      | cons d cs => simpa [hmark] using hcs
    rw [List.map_cons, stringBody_other (mt (hmark c).1 hc) hnext', stringBody_other hc hnext, ih, List.map_cons]

/-- A token is read in the same way from a text in small letters, with its text in small letters. -/
theorem lexeme_map_toLower (c : Char) (cs : List Char) : lexeme c.toLower (cs.map Char.toLower) =
    ((lexeme c cs).1, (lexeme c cs).2.1.toLower, (lexeme c cs).2.2) := by
  have hquote : ∀ mark : Char, mark = '\'' ∨ mark = '"' → (∀ c : Char, c.toLower = mark ↔ c = mark) ∧ mark ≠ '\\' := by
    rintro mark (rfl | rfl)
    · exact ⟨fun c => toLower_eq_iff (by decide) (by decide), by decide⟩
    · exact ⟨fun c => toLower_eq_iff (by decide) (by decide), by decide⟩
  have hsingle := (hquote '\'' (.inl rfl)).1 c
  have hdouble := (hquote '"' (.inr rfl)).1 c
  have hsymbol := symbol?_map_toLower (c :: cs)
  rw [List.map_cons] at hsymbol
  unfold lexeme
  rw [isWordStart_toLower, isDigitLike_toLower, takeWhile_map_toLower isWordChar_toLower,
    takeWhile_map_toLower isNumberPart_toLower, hsymbol]
  simp only [hsingle, hdouble]
  split
  · simp only [← List.map_cons, ← toLower_ofList, wordKind_toLower, List.length_map]
  · split
    · simp only [← List.map_cons, ← toLower_ofList, List.length_map]
    · split
      · rename_i hc
        have hc' : c = '\'' ∨ c = '"' := by simpa using hc
        obtain ⟨hmark, hne⟩ := hquote c hc'
        rw [(hmark c).2 rfl, stringBody_map_toLower hmark hne, toLower_ofList]
      · split
        · simp only [toLower_ofList, List.map_cons, List.map_take]
        · have hsingleton : (String.singleton c).toLower = String.singleton c.toLower := by
            rw [← String.toList_inj, toList_toLower, String.toList_singleton, String.toList_singleton,
              List.map_singleton]
          rw [hsingleton]

/-! ## Tokens that say the same -/

/-- The kind of a keyword or an identifier. -/
def TokenKind.isWord : TokenKind → Bool
  | .keyword _ => true
  | .identifier => true
  | _ => false

/-- Tokens of one kind with the same text, which may differ in case if it is a word. -/
structure Token.Alike (token token' : Token) : Prop where
  kind : token.kind = token'.kind
  toLower : token.text.toLower = token'.text.toLower
  exact : token.kind.isWord = false → token.text = token'.text

/-- A text that the lexer reads as one word. -/
def IsWordText (text : String) : Prop :=
  ∃ c cs, text.toList = c :: cs ∧ isWordStart c = true ∧ ∀ d ∈ cs, isWordChar d = true

/-- Tokens that differ at most in the case of words. After a literal that ends with a backslash, and so has no closing
quote, there is no other token. -/
inductive Recased : List Token → List Token → Prop where
  | nil : Recased [] []
  | word {token token' : Token} {tokens tokens' : List Token} (hword : token.kind.isWord = true)
      (htext : IsWordText token.text) (halike : token.Alike token') (h : Recased tokens tokens') :
      Recased (token :: tokens) (token' :: tokens')
  | plain {token token' : Token} {tokens tokens' : List Token} (hkind : token.kind.isWord = false ∧ token.kind ≠ .string)
      (htext : ∀ c ∈ token.text.toList, isUnquoted c = true) (halike : token.Alike token') (h : Recased tokens tokens') :
      Recased (token :: tokens) (token' :: tokens')
  | literal {token token' : Token} {tokens tokens' : List Token} (hkind : token.kind = .string)
      (hlast : token.text.toList.getLast? = some '\\' → tokens = []) (halike : token.Alike token')
      (h : Recased tokens tokens') : Recased (token :: tokens) (token' :: tokens')

theorem map_eq_iff_forall₂ {α β : Type} {f : α → β} {as bs : List α} :
    as.map f = bs.map f ↔ List.Forall₂ (fun a b => f a = f b) as bs := by
  rw [← List.forall₂_eq_eq_eq, List.forall₂_map_left_iff, List.forall₂_map_right_iff]

theorem Recased.forall₂ {tokens tokens' : List Token} (h : Recased tokens tokens') :
    List.Forall₂ Token.Alike tokens tokens' := by
  induction h with
  | nil => exact .nil
  | word _ _ halike _ ih => exact .cons halike ih
  | plain _ _ halike _ ih => exact .cons halike ih
  | literal _ _ halike _ ih => exact .cons halike ih

/-- The texts of the string literals among tokens. -/
def literals (tokens : List Token) : List String :=
  (tokens.filter fun token => token.kind = .string).map Token.text

/-! ## What the lexer reads -/

theorem isWord_wordKind (word : String) : (wordKind word).isWord = true := by
  unfold wordKind
  split
  · rfl
  · rfl

theorem symbol?_chars {kind : TokenKind} {n : Nat} (h : symbol? (c :: cs) = some (kind, n)) :
    kind.isWord = false ∧ ∀ d ∈ c :: cs.take (n - 1), d.toLower = d ∧ isUnquoted d = true := by
  unfold symbol? at h
  split at h
  case h_18 => cases h
  all_goals
    rename_i heq
    cases heq
    cases h
    simp [TokenKind.isWord, isUnquoted]

theorem toLower_of_isNumberPart (h : isNumberPart c = true) : c.toLower = c := by
  rcases toLower_cases c with hlower | ⟨n, hn, rfl⟩
  · exact hlower
  · have hnone : ∀ n < 26, isNumberPart (capital n) = false := by decide
    rw [hnone n hn] at h
    cases h

theorem toLower_of_not_isWordStart (h : ¬ isWordStart c = true) : c.toLower = c := by
  rcases toLower_cases c with hlower | ⟨n, hn, rfl⟩
  · exact hlower
  · have hall : ∀ n < 26, isWordStart (capital n) = true := by decide
    exact absurd (hall n hn) h

/-- A token is a word, a string literal, or made of characters that have no case and are no quotes. -/
theorem lexeme_cases (c : Char) (cs : List Char) :
    (isWordStart c = true ∧ (lexeme c cs).1.isWord = true ∧
      (lexeme c cs).2.1 = String.ofList (c :: cs.takeWhile isWordChar)) ∨
    ((c = '\'' ∨ c = '"') ∧ lexeme c cs = (.string, String.ofList (stringBody c cs).1, (stringBody c cs).2)) ∨
    (((lexeme c cs).1.isWord = false ∧ (lexeme c cs).1 ≠ .string) ∧
      ∀ d ∈ (lexeme c cs).2.1.toList, d.toLower = d ∧ isUnquoted d = true) := by
  have hnumber : ∀ d, isNumberPart d = true → d.toLower = d ∧ isUnquoted d = true :=
    fun d hd => ⟨toLower_of_isNumberPart hd, isUnquoted_of_class hd (by decide)⟩
  unfold lexeme
  split
  · rename_i hstart
    dsimp only
    exact .inl ⟨hstart, isWord_wordKind _, rfl⟩
  · rename_i hstart
    right
    split
    · rename_i hdigit
      refine .inr ⟨⟨rfl, by simp⟩, ?_⟩
      rw [String.toList_ofList, List.forall_mem_cons]
      have hfirst : isNumberPart c = true := by
        rw [isNumberPart, hdigit, Bool.true_or]
      exact ⟨hnumber c hfirst, fun d hd => hnumber d (List.mem_takeWhile_imp hd)⟩
    · split
      · rename_i hquote
        exact .inl ⟨by simpa using hquote, rfl⟩
      · rename_i hquote
        right
        split
        · rename_i hsymbol
          obtain ⟨hword, hchars⟩ := symbol?_chars hsymbol
          refine ⟨⟨hword, symbol?_ne_string hsymbol⟩, ?_⟩
          rw [String.toList_ofList]
          exact hchars
        · refine ⟨⟨rfl, by simp⟩, ?_⟩
          rw [String.toList_singleton, List.forall_mem_singleton, isUnquoted_iff]
          exact ⟨toLower_of_not_isWordStart hstart, by simpa using hquote⟩

theorem toLower_eq_self {s : String} (h : ∀ c ∈ s.toList, c.toLower = c) : s.toLower = s := by
  rw [← String.toList_inj, toList_toLower]
  exact (List.map_congr_left h).trans (List.map_id _)

/-- The first tokens of two texts that differ only in case, and not in a string literal at their start. -/
theorem alike_lexeme {c' : Char} {cs' : List Char} (hc : c.toLower = c'.toLower)
    (hcs : cs.map Char.toLower = cs'.map Char.toLower)
    (hexact : (lexeme c cs).1 = .string → (lexeme c cs).2.1 = (lexeme c' cs').2.1) (position position' : Position) :
    Token.Alike ⟨(lexeme c cs).1, (lexeme c cs).2.1, position⟩ ⟨(lexeme c' cs').1, (lexeme c' cs').2.1, position'⟩ := by
  have hsmall : ((lexeme c cs).1, (lexeme c cs).2.1.toLower, (lexeme c cs).2.2) =
      ((lexeme c' cs').1, (lexeme c' cs').2.1.toLower, (lexeme c' cs').2.2) := by
    rw [← lexeme_map_toLower, ← lexeme_map_toLower, hc, hcs]
  rw [Prod.mk.injEq, Prod.mk.injEq] at hsmall
  obtain ⟨hkind, htext, -⟩ := hsmall
  refine ⟨hkind, htext, fun hword => ?_⟩
  by_cases hstring : (lexeme c cs).1 = .string
  · exact hexact hstring
  · have hfixed : ∀ (c : Char) (cs : List Char), (lexeme c cs).1.isWord = false → (lexeme c cs).1 ≠ .string →
        (lexeme c cs).2.1.toLower = (lexeme c cs).2.1 := by
      intro c cs hword hstring
      rcases lexeme_cases c cs with ⟨-, hword', -⟩ | ⟨-, hstring'⟩ | ⟨-, hchars⟩
      · rw [hword] at hword'
        cases hword'
      · rw [hstring'] at hstring
        exact absurd rfl hstring
      · exact toLower_eq_self fun d hd => (hchars d hd).1
    show (lexeme c cs).2.1 = (lexeme c' cs').2.1
    rw [← hfixed c cs hword hstring, htext]
    exact hfixed c' cs' (by rw [← hkind]; exact hword) (by rw [← hkind]; exact hstring)

theorem ofTokens_cons {token : Token} (h : token.kind ≠ .endOfFile) (tokens : List Token) :
    (Input.ofTokens (token :: tokens)).tokens = token :: (Input.ofTokens tokens).tokens := by
  rw [Input.ofTokens, List.takeWhile_cons_of_pos (by simpa using h)]
  rfl

theorem literals_cons (token : Token) (tokens : List Token) : literals (token :: tokens) =
    if token.kind = .string then token.text :: literals tokens else literals tokens := by
  rw [literals, List.filter_cons]
  split
  · rename_i h
    rw [if_pos (by simpa using h)]
    rfl
  · rename_i h
    rw [if_neg (by simpa using h)]
    rfl

theorem literals_cons_inj {token token' : Token} {tokens tokens' : List Token} (hkind : token'.kind = token.kind)
    (h : literals (token :: tokens) = literals (token' :: tokens')) :
    (token.kind = .string → token.text = token'.text) ∧ literals tokens = literals tokens' := by
  rw [literals_cons, literals_cons, hkind] at h
  by_cases hstring : token.kind = .string
  · rw [if_pos hstring, if_pos hstring, List.cons.injEq] at h
    exact ⟨fun _ => h.1, h.2⟩
  · rw [if_neg hstring, if_neg hstring] at h
    exact ⟨fun hs => absurd hs hstring, h⟩

/-- A first token that is read alike, before tokens that are. After a literal that is not closed there are none. -/
theorem Recased.first {token' : Token} {position : Position} {tokens tokens' : List Token}
    (halike : Token.Alike ⟨(lexeme c cs).1, (lexeme c cs).2.1, position⟩ token')
    (hrest : cs.drop (lexeme c cs).2.2 = [] → tokens = []) (h : Recased tokens tokens') :
    Recased (⟨(lexeme c cs).1, (lexeme c cs).2.1, position⟩ :: tokens) (token' :: tokens') := by
  rcases lexeme_cases c cs with ⟨hstart, hword, hchars⟩ | ⟨hquote, hbody⟩ | ⟨hplain, hchars⟩
  · refine .word hword ⟨c, cs.takeWhile isWordChar, ?_, hstart, fun d hd => List.mem_takeWhile_imp hd⟩ halike h
    rw [hchars, String.toList_ofList]
  · have hmark : c ≠ '\\' := by
      rcases hquote with rfl | rfl
      · decide
      · decide
    rw [hbody] at halike hrest ⊢
    refine .literal rfl (fun hlast => hrest ?_) halike h
    rw [String.toList_ofList] at hlast
    exact stringBody_unclosed hmark hlast
  · exact .plain hplain (fun d hd => (hchars d hd).2) halike h

/-- Two texts that differ only in case, and not in their string literals, have tokens that differ at most in the case of
words. -/
theorem recased_tokenizeFrom {cs cs' : List Char} (position position' : Position)
    (hcase : cs.map Char.toLower = cs'.map Char.toLower)
    (hliterals : literals (tokenizeFrom position cs) = literals (tokenizeFrom position' cs')) :
    Recased (Input.ofTokens (tokenizeFrom position cs)).tokens (Input.ofTokens (tokenizeFrom position' cs')).tokens := by
  -- on the length of the text: a gap and a token are followed by a shorter one
  induction hlength : cs.length using Nat.strongRecOn generalizing position position' cs cs' with
  | _ length ih =>
    cases cs with
    | nil =>
      rw [List.map_nil, List.nil_eq, List.map_eq_nil_iff] at hcase
      rw [hcase, tokenizeFrom_nil, tokenizeFrom_nil]
      exact .nil
    | cons c cs =>
      obtain ⟨c', cs', rfl, hc, hcs⟩ := List.map_eq_cons_iff.1 hcase.symm
      have hshort : ∀ n, (cs.drop n).length < length := by
        intro n
        rw [← hlength, List.length_drop, List.length_cons]
        omega
      have hdrop : ∀ n, (cs.drop n).map Char.toLower = (cs'.drop n).map Char.toLower := by
        intro n
        rw [List.map_drop, List.map_drop, hcs]
      have hgap' : gap? c' cs' = gap? c cs := by
        rw [← gap?_map_toLower c', ← gap?_map_toLower c, hc, hcs]
      cases hgap : gap? c cs with
      | some n =>
        rw [hgap] at hgap'
        rw [tokenizeFrom_gap hgap, tokenizeFrom_gap hgap'] at *
        exact ih _ (hshort n) _ _ (hdrop n) hliterals rfl
      | none =>
        rw [hgap] at hgap'
        have hsmall : ((lexeme c' cs').1, (lexeme c' cs').2.1.toLower, (lexeme c' cs').2.2) =
            ((lexeme c cs).1, (lexeme c cs).2.1.toLower, (lexeme c cs).2.2) := by
          rw [← lexeme_map_toLower, ← lexeme_map_toLower, hc, hcs]
        rw [Prod.mk.injEq, Prod.mk.injEq] at hsmall
        obtain ⟨hkind, -, htaken⟩ := hsmall
        have hne := kind_lexeme c cs
        have hne' := kind_lexeme c' cs'
        rw [tokenizeFrom_token hgap, tokenizeFrom_token hgap'] at hliterals ⊢
        obtain ⟨hexact, hliterals⟩ := literals_cons_inj hkind hliterals
        rw [htaken] at hliterals
        rw [ofTokens_cons hne, ofTokens_cons hne', htaken]
        apply Recased.first (alike_lexeme hc.symm hcs.symm hexact position position')
        · intro hrest
          rw [hrest, tokenizeFrom_nil]
          rfl
        · exact ih _ (hshort _) _ _ (hdrop _) hliterals rfl

/-! ## Clauses -/

variable {tokens tokens' : List Token}

/-- The texts of tokens with a blank before each. -/
def spaced (tokens : List Token) : List Char :=
  tokens.flatMap fun token => ' ' :: (Parser.rendered token).toList

theorem notNext_spaced (tokens : List Token) : NotNext carriesOn (spaced tokens) := by
  cases tokens with
  | nil => exact notNext_nil _
  | cons token tokens => exact notNext_cons.2 (by decide)

theorem toList_rendered {token : Token} (h : token.kind ≠ .string) :
    (Parser.rendered token).toList = token.text.toList := by
  rw [Parser.rendered, if_neg h]

theorem Recased.cut_spaced (h : Recased tokens tokens') (mode : Mode) :
    CutAlike (cut mode (spaced tokens)) (cut mode (spaced tokens')) := by
  induction h generalizing mode with
  | nil =>
    rw [spaced, List.flatMap_nil, cut_nil]
    exact .read rfl
  | @word token token' tokens tokens' hword htext halike h ih =>
    have hkind : token.kind ≠ .string := by
      intro hstring
      rw [hstring] at hword
      cases hword
    obtain ⟨c, cs, htext, hstart, hchars⟩ := htext
    have hcase := congrArg String.toList halike.toLower
    rw [toList_toLower, toList_toLower, htext] at hcase
    have hdigit : isDecimalDigit c = false := by
      rw [← Bool.not_eq_true]
      intro hdigit
      rw [isWordStart_of_isDecimalDigit hdigit] at hstart
      cases hstart
    have hword : ∀ d ∈ c :: cs, isWordChar d = true :=
      List.forall_mem_cons.2 ⟨isWordChar_of_isWordStart hstart, hchars⟩
    rw [spaced, spaced, List.flatMap_cons, List.flatMap_cons, List.cons_append, List.cons_append, cut_blank, cut_blank,
      toList_rendered hkind, toList_rendered (halike.kind ▸ hkind), htext]
    exact .word hword hdigit hcase (notNext_spaced _) (notNext_spaced _) ih mode
  | @plain token token' tokens tokens' hkind htext halike h ih =>
    rw [spaced, spaced, List.flatMap_cons, List.flatMap_cons, List.cons_append, List.cons_append, cut_blank, cut_blank,
      toList_rendered hkind.2, toList_rendered (halike.kind ▸ hkind.2), ← halike.exact hkind.1]
    exact .unquoted htext (notNext_spaced _) (notNext_spaced _) ih mode
  | @literal token token' tokens tokens' hkind hlast halike h ih =>
    have hrendered : ∀ token : Token, token.kind = .string →
        (Parser.rendered token).toList = quoteChars token.text.toList := by
      intro token hkind
      rw [Parser.rendered, if_pos hkind, quote, String.toList_ofList]
    have hexact : token.text = token'.text := halike.exact (by rw [hkind]; rfl)
    have hrest : token.text.toList.getLast? = some '\\' → spaced tokens = [] ∧ spaced tokens' = [] := by
      intro hslash
      rw [hlast hslash] at h ⊢
      cases h
      exact ⟨rfl, rfl⟩
    rw [spaced, spaced, List.flatMap_cons, List.flatMap_cons, List.cons_append, List.cons_append, cut_blank, cut_blank,
      hrendered token hkind, hrendered token' (halike.kind ▸ hkind), ← hexact, ← spaced, ← spaced,
      cut_quoteChars fun hslash => (hrest hslash).1, cut_quoteChars fun hslash => (hrest hslash).2]
    have hpiece : [((.string, quoteChars token.text.toList) : Piece)].map Piece.smallReading = _ := rfl
    exact (ih .after).append hpiece

/-- The texts of two clauses that are the same condition but for the case of names, or neither of them is one. -/
structure ClausesAlike (text text' : String) : Prop where
  isEmpty : text.isEmpty = text'.isEmpty
  compile : ResultsAgree (fun _ _ => True) (fun c c' => c.small = c'.small) (Condition.compile text)
    (Condition.compile text')

theorem Recased.map_toLower_rendered (h : Recased tokens tokens') :
    (tokens.map Parser.rendered).map String.toLower = (tokens'.map Parser.rendered).map String.toLower := by
  rw [List.map_map, List.map_map, map_eq_iff_forall₂]
  refine h.forall₂.imp fun token token' halike => ?_
  show (Parser.rendered token).toLower = (Parser.rendered token').toLower
  rw [Parser.rendered, Parser.rendered, ← halike.kind]
  split
  · rename_i hkind
    rw [halike.exact (by rw [hkind]; rfl)]
  · exact halike.toLower

/-- What is kept of the tokens of a clause. -/
theorem Recased.clausesAlike (h : Recased tokens tokens') :
    ClausesAlike (" ".intercalate (tokens.map Parser.rendered)) (" ".intercalate (tokens'.map Parser.rendered)) := by
  constructor
  · have hlower : (" ".intercalate (tokens.map Parser.rendered)).toLower =
        (" ".intercalate (tokens'.map Parser.rendered)).toLower := by
      rw [toLower_intercalate, toLower_intercalate, h.map_toLower_rendered]
    rw [← isEmpty_toLower, hlower, isEmpty_toLower]
  · have hjoin : ∀ {tokens : List Token}, tokens ≠ [] →
        spaced tokens = ' ' :: (" ".intercalate (tokens.map Parser.rendered)).toList := by
      intro tokens hne
      rw [← flatMap_blank (by simpa using hne), List.flatMap_map]
      rfl
    apply CutAlike.compile
    have hcut := h.cut_spaced .predicate
    cases tokens with
    | nil =>
      cases h
      exact hcut
    | cons token tokens =>
      cases tokens' with
      | nil => cases h
      | cons token' tokens' =>
        rwa [hjoin (by simp), hjoin (by simp), cut_blank, cut_blank] at hcut

end Relational.Sql
