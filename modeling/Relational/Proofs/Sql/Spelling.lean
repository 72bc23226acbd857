import Relational.Proofs.Condition.Printer
import Relational.Proofs.Sql.Order
import Relational.Proofs.Sql.Quoting

/-!
# Writing values

A value is written with both operands of an operator in parentheses, so nothing depends on what stands beside it. What is
written is a list of words, the tokens of the statement and the blanks between them, and the text is read as exactly
these tokens.
-/

namespace Relational

open Text

/-! ## Words -/

namespace Sql

/-- What a token says, wherever it stands. -/
abbrev Lexeme := TokenKind × String

def Token.lexeme (token : Token) : Lexeme :=
  (token.kind, token.text)

/-- What a written statement is put together of. -/
inductive Word where
  | blank
  | token (kind : TokenKind) (text : String)

namespace Word

/-- The characters of a word. A string is quoted. -/
def chars : Word → List Char
  | .blank => [' ']
  | .token kind text => if kind = .string then quoteChars text.toList else text.toList

/-- What a word says, if it is none of the blanks. -/
def lexeme? : Word → Option Lexeme
  | .blank => none
  | .token kind text => some (kind, text)

/-- A keyword in capitals. -/
def keyword (word : Keyword) : Word :=
  .token (.keyword word) word.name

def name (text : String) : Word :=
  .token (wordKind text) text

def leftParen : Word :=
  .token .leftParen "("

def rightParen : Word :=
  .token .rightParen ")"

def comma : Word :=
  .token .comma ","

def dot : Word :=
  .token .dot "."

end Word

/-- The text of words. -/
def spelled (words : List Word) : List Char :=
  words.flatMap Word.chars

/-- What words say. -/
def lexemesOf (words : List Word) : List Lexeme :=
  words.filterMap Word.lexeme?

def inParentheses (words : List Word) : List Word :=
  .leftParen :: (words ++ [.rightParen])

/-- Parts with commas between them. -/
def separated : List (List Word) → List Word
  | [] => []
  | [part] => part
  | part :: part' :: parts => part ++ .comma :: .blank :: separated (part' :: parts)

end Sql

open Sql

/-! ## The words of a value -/

/-- The kind of the token of an operator. -/
def Arithmetic.kind : Arithmetic → TokenKind
  | .add => .plus
  | .sub => .minus
  | .mul => .asterisk
  | .div => .divide
  | .mod => .percent

/-- The words of a literal. A minus sign is a token of its own. -/
def Literal.spelling : Literal → List Word
  | .number text =>
    match text.toList with
    | '-' :: digits => [.token .minus "-", .token .number (String.ofList digits)]
    | _ => [.token .number text]
  | .string text => [.token .string text]
  | .bool b => [.keyword (if b then .TRUE else .FALSE)]
  | .null => [.keyword .NULL]

mutual

/-- The words of an expression. Both operands of an operator are in parentheses. -/
def Expr.spelling : Expr → List Word
  | .column none name => [.name name]
  | .column (some table) name => [.name table, .dot, .name name]
  | .literal value => value.spelling
  | .call function args => .name function :: inParentheses (separated (spellings args))
  | .binary op left right =>
    inParentheses left.spelling ++ .blank :: .token op.kind op.symbol :: .blank :: inParentheses right.spelling

/-- The words of each expression. -/
def spellings : List Expr → List (List Word)
  | [] => []
  | e :: es => e.spelling :: spellings es

end

namespace Sql

/-- Values in parentheses. -/
def tupleWords (values : List Expr) : List Word :=
  inParentheses (separated (spellings values))

/-- The list of columns of INSERT, or nothing. -/
def columnWords : Option (List String) → List Word
  | none => []
  | some columns => inParentheses (separated (columns.map fun column => [.name column])) ++ [.blank]

/-- The words of INSERT. -/
def Insert.words (statement : Insert) : List Word :=
  .keyword .INSERT :: .blank :: .keyword .INTO :: .blank :: .name statement.table :: .blank ::
    (columnWords statement.columns ++ .keyword .VALUES :: .blank :: separated (statement.values.map tupleWords))

/-- The text of INSERT. -/
def Insert.print (statement : Insert) : String :=
  String.ofList (spelled statement.words)

/-! ## What can be written -/

/-- A text is read as one token that may name a table or a column: an identifier or a keyword that is not reserved. -/
def IsName (text : String) : Prop :=
  ∃ kind, kind.isName = true ∧ (tokenize text).map Token.lexeme = [(kind, text), (.endOfFile, "")]

/-- A digit, and digits and dots after it. -/
def IsNumeral (digits : List Char) : Prop :=
  ∃ d ds, digits = d :: ds ∧ isDigitLike d = true ∧ ∀ c ∈ ds, isNumberPart c = true

end Sql

/-- A literal can be written: a number with or without a minus sign, and a text that does not end with a backslash. -/
def Literal.Spellable : Literal → Prop
  | .number text => IsNumeral text.toList ∨ ∃ digits, text.toList = '-' :: digits ∧ IsNumeral digits
  | .string text => text.toList.getLast? ≠ some '\\'
  | .bool _ => True
  | .null => True

mutual

/-- An expression can be written: its names and literals can, and its functions are in upper case. -/
def Expr.Spellable : Expr → Prop
  | .column table name => (∀ t ∈ table, Sql.IsName t) ∧ Sql.IsName name
  | .literal value => value.Spellable
  | .call function args => Sql.IsName function ∧ upper function = function ∧ AllSpellable args
  | .binary _ left right => left.Spellable ∧ right.Spellable

/-- All expressions can be written. -/
def AllSpellable : List Expr → Prop
  | [] => True
  | e :: es => e.Spellable ∧ AllSpellable es

end

namespace Sql

open Condition

/-- INSERT can be written: its names and values can, and no list of it is empty. -/
structure Insert.Spellable (statement : Insert) : Prop where
  table : IsName statement.table
  columns : ∀ columns ∈ statement.columns, columns ≠ [] ∧ ∀ column ∈ columns, IsName column
  ne : statement.values ≠ []
  values : ∀ values ∈ statement.values, values ≠ [] ∧ AllSpellable values

variable {c d : Char} {cs : List Char} {words left right : List Word} {kind : TokenKind}
  {text : String}

/-! ## Reading a text -/

@[simp] theorem spelled_cons (word : Word) (words : List Word) : spelled (word :: words) = word.chars ++ spelled words :=
  rfl

@[simp] theorem spelled_append (left right : List Word) : spelled (left ++ right) = spelled left ++ spelled right :=
  List.flatMap_append

@[simp] theorem lexemesOf_append (left right : List Word) :
    lexemesOf (left ++ right) = lexemesOf left ++ lexemesOf right :=
  List.filterMap_append

/-- The lexemes of parts after a first one. -/
theorem lexemesOf_separated (part : List Word) (parts : List (List Word)) : lexemesOf (separated (part :: parts)) =
    lexemesOf part ++ parts.flatMap fun part => (.comma, ",") :: lexemesOf part := by
  induction parts generalizing part with
  | nil => simp [separated]
  | cons part' parts ih =>
    rw [separated, lexemesOf_append, List.flatMap_cons, List.cons_append, ← ih part']
    rfl

theorem length_lexemesOf_le {part : List Word} {parts : List (List Word)} (h : part ∈ parts) :
    (lexemesOf part).length ≤ (lexemesOf (separated parts)).length := by
  fun_induction separated parts with
  | case1 => cases h
  | case2 part' =>
    rw [List.mem_singleton] at h
    rw [h]
  | case3 first second parts ih =>
    rw [lexemesOf_append, List.length_append]
    rcases List.mem_cons.1 h with rfl | h
    · exact Nat.le_add_right _ _
    · have hrest := ih h
      have hcomma : lexemesOf (.comma :: .blank :: separated (second :: parts)) =
          (.comma, ",") :: lexemesOf (separated (second :: parts)) := rfl
      rw [hcomma, List.length_cons]
      omega

theorem lexemesOf_inParentheses (words : List Word) :
    lexemesOf (inParentheses words) = (.leftParen, "(") :: (lexemesOf words ++ [(.rightParen, ")")]) := by
  rw [inParentheses, ← List.singleton_append, lexemesOf_append, lexemesOf_append]
  rfl

/-- What the tokens of a text say. -/
def readings (cs : List Char) : List Lexeme :=
  (tokenizeFrom .start cs).map Token.lexeme

/-- Where a text stands does not matter for what its tokens say. -/
theorem map_lexeme_tokenizeFrom (position : Position) (cs : List Char) :
    (tokenizeFrom position cs).map Token.lexeme = readings cs := by
  unfold readings
  generalize Position.start = position'
  fun_induction tokenizeFrom position cs generalizing position' with
  | case1 position =>
    rw [tokenizeFrom_nil]
    rfl
  | case2 position c cs n hgap ih =>
    rw [tokenizeFrom_gap hgap]
    exact ih _
  | case3 position c cs hgap kind text n hlexeme ih =>
    rw [tokenizeFrom_token hgap, hlexeme, List.map_cons, List.map_cons, ih]
    rfl

theorem readings_nil : readings [] = [(.endOfFile, "")] := by
  rw [readings, tokenizeFrom_nil]
  rfl

theorem readings_blank (cs : List Char) : readings (' ' :: cs) = readings cs := by
  have hgap : gap? ' ' cs = some 0 := if_pos (by decide)
  rw [readings, tokenizeFrom_gap hgap, map_lexeme_tokenizeFrom]
  rfl

theorem readings_token {n : Nat} (hgap : gap? c cs = none) (hlexeme : lexeme c cs = (kind, text, n)) :
    readings (c :: cs) = (kind, text) :: readings (cs.drop n) := by
  rw [readings, tokenizeFrom_token hgap, hlexeme, List.map_cons, map_lexeme_tokenizeFrom]
  rfl

/-! ## Reading words -/

/-- The text of words is read as what they say, whatever follows it. -/
def Reads (words : List Word) : Prop :=
  ∀ rest, Stops rest → readings (spelled words ++ rest) = lexemesOf words ++ readings rest

namespace Reads

theorem nil : Reads [] :=
  fun _ _ => rfl

/-- Words are read one part after the other, if the second part does not carry on the first one. -/
theorem append (h : Reads left) (h' : Reads right) (hstops : ∀ rest, Stops rest → Stops (spelled right ++ rest)) :
    Reads (left ++ right) := by
  intro rest hrest
  rw [spelled_append, List.append_assoc, h _ (hstops rest hrest), h' rest hrest, lexemesOf_append, List.append_assoc]

theorem blank (h : Reads words) : Reads (.blank :: words) := by
  intro rest hrest
  rw [spelled_cons, Word.chars, List.singleton_append, List.cons_append, readings_blank, h rest hrest]
  rfl

/-- A token at the start, which ends before the words that follow it. -/
theorem token (hchars : (Word.token kind text).chars = c :: cs) (hgap : ∀ rest, Stops rest →
    gap? c (cs ++ (spelled words ++ rest)) = none) (hlexeme : ∀ rest, Stops rest →
      lexeme c (cs ++ (spelled words ++ rest)) = (kind, text, cs.length)) (h : Reads words) :
    Reads (.token kind text :: words) := by
  intro rest hrest
  rw [spelled_cons, hchars, List.cons_append, List.cons_append, List.append_assoc,
    readings_token (hgap rest hrest) (hlexeme rest hrest), List.drop_left, h rest hrest]
  rfl

/-! ### Marks -/

/-- The marks that values are written with. -/
def plainMarks : List (TokenKind × String) :=
  [(.leftParen, "("), (.rightParen, ")"), (.comma, ","), (.dot, "."), (.plus, "+"), (.minus, "-"), (.asterisk, "*"),
    (.divide, "/"), (.percent, "%")]

/-- A mark, which does not begin a comment. -/
theorem mark (hmark : (kind, text) ∈ plainMarks)
    (hnext : kind = .minus → ∀ rest, Stops rest → NotNext (· == '-') (spelled words ++ rest)) (h : Reads words) :
    Reads (.token kind text :: words) := by
  have hplain : ∀ m ∈ plainMarks, m.1 ≠ .string ∧ ∃ c, m.2.toList = [c] ∧ (m.1 = .minus ∨ c ≠ '-') ∧
      isBlank c = false ∧ ∀ cs, lexeme c cs = (m.1, m.2, 0) := by
    simp only [plainMarks, List.forall_mem_cons]
    refine ⟨?_, ?_, ?_, ?_, ?_, ?_, ?_, ?_, ?_, by simp⟩
    all_goals exact ⟨by decide, _, rfl, by decide, by decide, fun _ => rfl⟩
  obtain ⟨hkind, c, hchars, hminus, hblank, hlexeme⟩ := hplain _ hmark
  have hword : (Word.token kind text).chars = c :: [] := by rw [Word.chars, if_neg hkind, hchars]
  refine token hword (fun rest hrest => gap?_eq_none hblank ?_) (fun _ _ => hlexeme _) h
  · rcases hminus with hminus | hdash
    · have hdash := hnext hminus rest hrest
      cases hspelled : spelled words ++ rest with
      | nil =>
        unfold startsComment
        split
        · rename_i heq
          cases heq
        · rfl
      | cons d cs =>
        rw [hspelled, notNext_cons, beq_eq_false_iff_ne] at hdash
        unfold startsComment
        split
        · rename_i heq
          cases heq
          exact absurd rfl hdash
        · rfl
    · exact startsComment_of_ne hdash

theorem append_close (h : Reads words) : Reads (words ++ [.rightParen]) :=
  h.append (mark (by decide) (by simp) nil) fun _ _ => stops_cons (.inr (.inl rfl))

theorem inParentheses (h : Reads words) : Reads (inParentheses words) :=
  mark (by decide) (by simp) h.append_close

theorem separated {parts : List (List Word)} (h : ∀ part ∈ parts, Reads part) : Reads (separated parts) := by
  fun_induction Sql.separated parts with
  | case1 => exact nil
  | case2 part => exact h part (by simp)
  | case3 part part' parts ih =>
    rw [List.forall_mem_cons] at h
    have htail := ih h.2
    exact h.1.append (mark (by decide) (by simp) htail.blank) fun _ _ => stops_cons (.inr (.inr rfl))

/-! ### Names and keywords -/

/-- A word, which ends before the words that follow it. -/
theorem word (hstart : isWordStart c = true) (hword : ∀ d ∈ cs, isWordChar d = true)
    (hnext : ∀ rest, Stops rest → NotNext isWordChar (spelled words ++ rest)) (h : Reads words) :
    Reads (.name (String.ofList (c :: cs)) :: words) := by
  have hfirst : isWordChar c = true := isWordChar_of_isWordStart hstart
  have hdash : c ≠ '-' := by
    rintro rfl
    revert hstart
    decide
  have hchars : (Word.name (String.ofList (c :: cs))).chars = c :: cs := by
    rw [Word.name, Word.chars, if_neg (wordKind_ne_string _), String.toList_ofList]
  refine token hchars (fun _ _ => ?_) (fun rest hrest => ?_) h
  · exact gap?_eq_none (isBlank_of_isWordChar hfirst) (startsComment_of_ne hdash)
  · exact lexeme_word hstart hword (hnext rest hrest)

end Reads

/-- A name is a word, and is read as what it is when it stands alone. -/
theorem IsName.exists_word (h : IsName text) : ∃ c cs, text = String.ofList (c :: cs) ∧ isWordStart c = true ∧
    (∀ d ∈ cs, isWordChar d = true) ∧ (wordKind text).isName = true := by
  obtain ⟨kind, hname, htokens⟩ := h
  obtain ⟨token, tokens, heq, htoken, -⟩ := List.map_eq_cons_iff.1 htokens
  obtain ⟨hkind, htext⟩ := Prod.mk.inj htoken
  obtain ⟨hne, hword⟩ := isWord_of_isName (heq ▸ List.mem_cons_self) (hkind ▸ hname)
  rw [htext] at hne hword
  obtain ⟨c, cs, hchars⟩ := List.exists_cons_of_ne_nil hne
  rw [hchars, List.forall_mem_cons] at hword
  have hdash : c ≠ '-' := by
    rintro rfl
    exact absurd hword.1 (by decide)
  have hgap : gap? c cs = none := gap?_eq_none (isBlank_of_isWordChar hword.1) (startsComment_of_ne hdash)
  rw [tokenize, hchars, tokenizeFrom_token hgap] at heq
  have hlexeme : (lexeme c cs).1.isName = true := by
    rw [← (List.cons.inj heq).1] at hkind
    rw [← hkind] at hname
    exact hname
  have hstart := isWordStart_of_isName hlexeme
  have hkind : (lexeme c cs).1 = wordKind (String.ofList (c :: cs)) := by
    have hlexeme : lexeme c (cs ++ []) = (wordKind (String.ofList (c :: cs)), String.ofList (c :: cs), cs.length) :=
      lexeme_word hstart hword.2 (notNext_nil _)
    rw [List.append_nil] at hlexeme
    rw [hlexeme]
  have htext : text = String.ofList (c :: cs) := by rw [← hchars, String.ofList_toList]
  exact ⟨c, cs, htext, hstart, hword.2, by rw [htext, ← hkind, hlexeme]⟩

namespace Reads

theorem name (hname : IsName text) (hnext : ∀ rest, Stops rest → NotNext isWordChar (spelled words ++ rest))
    (h : Reads words) : Reads (.name text :: words) := by
  obtain ⟨c, cs, rfl, hstart, hword, -⟩ := hname.exists_word
  exact word hstart hword hnext h

/-- A name at the end. -/
theorem name_last (hname : IsName text) : Reads [.name text] :=
  name hname (fun _ hrest => hrest.notNext_isWordChar) nil

/-- The keywords that values and INSERT are written with. -/
def plainKeywords : List Keyword :=
  [.INSERT, .INTO, .VALUES, .TRUE, .FALSE, .NULL]

theorem keyword {word : Keyword} (hword : word ∈ plainKeywords)
    (hnext : ∀ rest, Stops rest → NotNext isWordChar (spelled words ++ rest)) (h : Reads words) :
    Reads (.keyword word :: words) := by
  have hplain : ∀ word ∈ plainKeywords, wordKind word.name = .keyword word ∧ ∃ c cs, word.name.toList = c :: cs ∧
      isWordStart c = true ∧ ∀ d ∈ cs, isWordChar d = true := by
    simp only [plainKeywords, List.forall_mem_cons]
    refine ⟨?_, ?_, ?_, ?_, ?_, ?_, by simp⟩
    all_goals exact ⟨by decide +kernel, _, _, rfl, by decide, List.all_eq_true.1 (by decide)⟩
  obtain ⟨hkind, c, cs, hchars, hstart, hcs⟩ := hplain word hword
  have htext : String.ofList (c :: cs) = word.name := by rw [← hchars, String.ofList_toList]
  have hreads := Reads.word hstart hcs hnext h
  rw [htext, Word.name, hkind] at hreads
  exact hreads

theorem keyword_last (word : Keyword) (hword : word ∈ plainKeywords) : Reads [.keyword word] :=
  keyword hword (fun _ hrest => hrest.notNext_isWordChar) nil

theorem keyword_blank {word : Keyword} (hword : word ∈ plainKeywords) (h : Reads words) :
    Reads (.keyword word :: .blank :: words) :=
  keyword hword (fun _ _ => notNext_cons.2 (by decide)) h.blank

/-! ### Literals -/

theorem ne_dash_of_isDigitLike (h : isDigitLike d = true) : d ≠ '-' := by
  rintro rfl
  exact absurd h (by decide)

/-- A number ends where something follows that stops it. -/
theorem number (hnumeral : IsNumeral text.toList) : Reads [.token .number text] := by
  obtain ⟨d, ds, hchars, hdigit, hds⟩ := hnumeral
  have htext : String.ofList (d :: ds) = text := by rw [← hchars, String.ofList_toList]
  have hstart : isWordStart d = false := by
    rw [isWordStart, isLetter_of_isDigitLike hdigit, Bool.false_or, beq_eq_false_iff_ne]
    rintro rfl
    exact absurd hdigit (by decide)
  have hword : (Word.token .number text).chars = d :: ds := by rw [Word.chars, if_neg (by decide), hchars]
  refine token hword (fun _ _ => ?_) (fun rest hrest => ?_) nil
  · exact gap?_eq_none (isBlank_of_isDigitLike hdigit) (startsComment_of_ne (ne_dash_of_isDigitLike hdigit))
  · have hnext : NotNext isNumberPart (spelled [] ++ rest) := hrest.notNext (by decide)
    rw [lexeme, hstart, if_neg Bool.false_ne_true, if_pos hdigit, takeWhile_append_of_notNext hds hnext, ← htext]

theorem string (hlast : text.toList.getLast? ≠ some '\\') : Reads [.token .string text] := by
  have hchars : (Word.token .string text).chars = '\'' :: (escapeQuotes text.toList ++ ['\'']) := by
    rw [Word.chars, if_pos rfl, quoteChars]
  refine token hchars (fun _ _ => ?_) (fun rest _ => ?_) nil
  · exact gap?_eq_none (by decide) (startsComment_of_ne (by decide))
  · have hlast : text.toList.getLast? = some '\\' → NotNext (· == '\'') ('\'' :: (spelled [] ++ rest)) :=
      fun hslash => absurd hslash hlast
    have hbody := stringBody_escapeQuotes hlast
    rw [stringBody_close (by decide), List.append_nil] at hbody
    rw [List.append_assoc, List.singleton_append, lexeme, if_neg (by decide), if_neg (by decide), if_pos (by decide),
      hbody]
    dsimp only
    rw [String.ofList_toList, List.length_append]
    rfl

theorem literal {value : Literal} (h : value.Spellable) : Reads value.spelling := by
  cases value with
  | number text =>
    rw [Literal.spelling]
    rcases h with h | ⟨digits, heq, h⟩
    · split
      · rename_i heq
        obtain ⟨d, ds, hchars, hdigit, -⟩ := h
        rw [heq] at hchars
        cases hchars
        exact absurd rfl (ne_dash_of_isDigitLike hdigit)
      · exact number h
    · rw [heq]
      have hdigits : Reads [.token .number (String.ofList digits)] := number (by rwa [String.toList_ofList])
      obtain ⟨d, ds, rfl, hdigit, -⟩ := h
      refine mark (by decide) (fun _ rest _ => ?_) hdigits
      simpa [Word.chars] using ne_dash_of_isDigitLike hdigit
  | string text => exact string h
  | bool b =>
    cases b
    · exact keyword_last .FALSE (by decide)
    · exact keyword_last .TRUE (by decide)
  | null => exact keyword_last .NULL (by decide)

end Reads

end Sql

open Sql

mutual

/-- The text of an expression is read as its words. -/
theorem Expr.reads : (e : Expr) → e.Spellable → Reads e.spelling
  | .column none name, h => by
    rw [Expr.spelling]
    exact .name_last h.2
  | .column (some table) name, h => by
    rw [Expr.spelling]
    have hname : Reads [.dot, .name name] := .mark (by decide) (by simp) (.name_last h.2)
    exact .name (h.1 table rfl) (fun _ _ => Condition.notNext_cons.2 (by decide)) hname
  | .literal value, h => by
    rw [Expr.spelling]
    exact .literal h
  | .call function args, h => by
    rw [Expr.Spellable] at h
    rw [Expr.spelling]
    have hargs := (Reads.separated (reads_spellings args h.2.2)).inParentheses
    exact .name h.1 (fun _ _ => Condition.notNext_cons.2 (by decide)) hargs
  | .binary op left right, h => by
    rw [Expr.Spellable] at h
    rw [Expr.spelling]
    have hright := (right.reads h.2).inParentheses.blank
    have hoperator : Reads (.token op.kind op.symbol :: .blank :: inParentheses right.spelling) := by
      refine .mark (by cases op <;> decide) (fun _ _ _ => Condition.notNext_cons.2 (by decide)) hright
    exact (left.reads h.1).inParentheses.append hoperator.blank fun _ _ => Condition.stops_cons (.inl rfl)

theorem reads_spellings : (es : List Expr) → AllSpellable es → ∀ words ∈ spellings es, Reads words
  | [], _ => by simp [spellings]
  | e :: es, h => by
    rw [AllSpellable] at h
    rw [spellings, List.forall_mem_cons]
    exact ⟨e.reads h.1, reads_spellings es h.2⟩

end

namespace Sql

variable {statement : Insert}

/-- The text of INSERT is read as its words. -/
theorem Insert.reads (h : statement.Spellable) : Reads statement.words := by
  have htuples : Reads (separated (statement.values.map tupleWords)) := by
    refine .separated ?_
    rw [List.forall_mem_map]
    exact fun values hvalues => (Reads.separated (reads_spellings values (h.values values hvalues).2)).inParentheses
  have hvalues : Reads (.keyword .VALUES :: .blank :: separated (statement.values.map tupleWords)) :=
    .keyword_blank (by decide) htuples
  have hcolumns : Reads (columnWords statement.columns ++
      .keyword .VALUES :: .blank :: separated (statement.values.map tupleWords)) := by
    cases hcolumns : statement.columns with
    | none => exact hvalues
    | some columns =>
      have hnames : Reads (separated (columns.map fun column => [.name column])) := by
        refine .separated ?_
        rw [List.forall_mem_map]
        exact fun column hcolumn => .name_last ((h.columns columns hcolumns).2 column hcolumn)
      rw [columnWords, List.append_assoc]
      exact hnames.inParentheses.append hvalues.blank fun _ _ => Condition.stops_cons (.inl rfl)
  have htable : Reads (.name statement.table :: .blank :: _) :=
    .name h.table (fun _ _ => Condition.notNext_cons.2 (by decide)) hcolumns.blank
  exact .keyword_blank (by decide) (.keyword_blank (by decide) htable)

/-- The tokens of the text of INSERT are those of its words, and the end. -/
theorem Insert.readings_print (h : statement.Spellable) :
    readings statement.print.toList = lexemesOf statement.words ++ [(.endOfFile, "")] := by
  have hreads := Insert.reads h [] Condition.stops_nil
  rw [List.append_nil, readings_nil] at hreads
  rw [print, String.toList_ofList, hreads]

end Sql

end Relational
