import Relational.Proofs.Condition.Cutting

/-!
# Writing conditions

A condition is written with parentheses only where the strength of an operator, or its grouping to the left, asks for
them. What is written is a list of words, the pieces of the text and the blanks between them, and the text is cut into
exactly these pieces.
-/

namespace Relational

open Text

/-! ## Words -/

namespace Condition

/-- What a written condition is put together of. -/
inductive Word where
  | blank
  | piece (t : Terminal) (text : List Char)

/-- The characters of a word. -/
def Word.chars : Word → List Char
  | .blank => [' ']
  | .piece _ text => text

/-- The piece that a word is, if it is none of the blanks. -/
def Word.piece? : Word → Option Piece
  | .blank => none
  | .piece t text => some (t, text)

/-- The text of words. -/
def spelled (words : List Word) : List Char :=
  words.flatMap Word.chars

/-- The pieces among words. -/
def piecesOf (words : List Word) : List Piece :=
  words.filterMap Word.piece?

/-- A keyword or an operator. -/
def symbol (t : Terminal) (text : String) : Word :=
  .piece t text.toList

/-- A name. -/
def nameWord (name : String) : Word :=
  symbol .name name

/-- A mark of one character. -/
def mark (t : Terminal) (c : Char) : Word :=
  .piece t [c]

/-- Words in parentheses, if they need them. -/
def enclosed (needed : Bool) (words : List Word) : List Word :=
  if needed then mark .leftParen '(' :: (words ++ [mark .rightParen ')']) else words

/-- Two sides with an operator between them. -/
def joined (left : List Word) (operator : Word) (right : List Word) : List Word :=
  left ++ .blank :: operator :: .blank :: right

/-- The word that negates the predicate that follows. -/
def negation (negated : Bool) : List Word :=
  if negated then [symbol .not "NOT", .blank] else []

end Condition

open Condition

/-! ## Strength -/

/-- How strongly an operator holds its sides together. -/
def Arithmetic.strength : Arithmetic → Nat
  | .add | .sub => 0
  | .mul | .div | .mod => 1

/-- How strongly an expression holds together; what is no sum and no product never falls apart. -/
def Expr.strength : Expr → Nat
  | .binary op _ _ => op.strength
  | _ => 2

/-- How strongly a connective holds its sides together. -/
def Connective.strength : Connective → Nat
  | .or => 0
  | .and => 1

/-- How strongly a condition holds together; negations and predicates are as strong as can be. -/
def Condition.strength : Condition → Nat
  | .logic op _ _ => op.strength
  | _ => 2

/-! ## The words of a condition -/

/-- The terminal of an operator. -/
def Arithmetic.terminal : Arithmetic → Terminal
  | .add => .plus
  | .sub => .minus
  | .mul => .star
  | .div => .slash
  | .mod => .percent

/-- The terminal of a comparison. -/
def Comparison.terminal : Comparison → Terminal
  | .eq => .equal
  | .ne => .notEqual
  | .lt => .lessThan
  | .gt => .moreThan
  | .le => .lessEqual
  | .ge => .moreEqual

/-- The terminal of a connective. -/
def Connective.terminal : Connective → Terminal
  | .and => .and
  | .or => .or

/-- The words of a literal. -/
def Literal.words : Literal → List Word
  | .number text =>
    match text.toList with
    | '-' :: digits => [mark .minus '-', .piece .number digits]
    | digits => [.piece .number digits]
  | .string text => [.piece .string (quoteChars text.toList)]
  | .bool b => [symbol (if b then .true else .false) (boolText b)]
  | .null => [symbol .null "NULL"]

mutual

/-- The words of an expression. The right side of an operator is enclosed if it is not stronger. -/
def Expr.words : Expr → List Word
  | .column none name => [nameWord name]
  | .column (some table) name => [nameWord table, mark .dot '.', nameWord name]
  | .literal value => value.words
  | .call function args => nameWord function :: mark .leftParen '(' :: (listWords args ++ [mark .rightParen ')'])
  | .binary op left right =>
    joined (enclosed (left.strength < op.strength) left.words) (symbol op.terminal op.symbol)
      (enclosed (right.strength ≤ op.strength) right.words)

/-- The words of expressions, with commas between them. -/
def listWords : List Expr → List Word
  | [] => []
  | [e] => e.words
  | e :: e' :: es => e.words ++ mark .comma ',' :: .blank :: listWords (e' :: es)

end

/-- The words of a condition. The right side of a connective is enclosed if it is not stronger. -/
def Condition.words : Condition → List Word
  | .compare op left right => joined left.words (symbol op.terminal op.symbol) right.words
  | .logic op left right =>
    joined (enclosed (left.strength < op.strength) left.words) (symbol op.terminal op.symbol)
      (enclosed (right.strength ≤ op.strength) right.words)
  | .not operand => symbol .not "NOT" :: .blank :: enclosed (operand.strength < 2) operand.words
  | .isNull negated operand => joined operand.words (symbol .is "IS") (negation negated ++ [symbol .null "NULL"])
  | .inList negated operand items =>
    operand.words ++ .blank :: (negation negated ++ symbol .in "IN" :: .blank :: mark .leftParen '(' ::
      (listWords items ++ [mark .rightParen ')']))
  | .like negated operand pattern =>
    operand.words ++ .blank :: (negation negated ++ symbol .like "LIKE" :: .blank :: pattern.words)

/-- The text of a condition. -/
def Condition.print (c : Condition) : String :=
  String.ofList (spelled c.words)

/-! ## What can be written -/

namespace Condition

/-- A name as it is written: ASCII letters, digits and underscores, the first no digit, and no keyword in any case. -/
def IsName (name : String) : Prop :=
  ∃ c cs, name.toList = c :: cs ∧ isNameStart c = true ∧ (∀ d ∈ cs, isNamePart d = true) ∧
    ∀ w ∈ keywords, (c :: cs).map Char.toLower ≠ w.2.toList

/-- A number without a sign as it is written. -/
def IsUnsigned (digits : List Char) : Prop :=
  numberLength? digits = some (.number, digits.length)

end Condition

/-- A literal can be written: a number as the language has it, perhaps with a minus sign, and a text that does not end
with a backslash. -/
def Literal.Writable : Literal → Prop
  | .number text => IsUnsigned text.toList ∨ ∃ digits, text.toList = '-' :: digits ∧ IsUnsigned digits
  | .string text => text.toList.getLast? ≠ some '\\'
  | .bool _ => True
  | .null => True

mutual

/-- An expression can be written: its names and literals can, and its functions are in upper case. -/
def Expr.Writable : Expr → Prop
  | .column table name => (∀ t ∈ table, IsName t) ∧ IsName name
  | .literal value => value.Writable
  | .call function args => IsName function ∧ upper function = function ∧ AllWritable args
  | .binary _ left right => left.Writable ∧ right.Writable

/-- All expressions can be written. -/
def AllWritable : List Expr → Prop
  | [] => True
  | e :: es => e.Writable ∧ AllWritable es

end

/-- A condition can be written: its expressions can, and no list of it is empty. -/
def Condition.Writable : Condition → Prop
  | .compare _ left right => left.Writable ∧ right.Writable
  | .logic _ left right => left.Writable ∧ right.Writable
  | .not operand => operand.Writable
  | .isNull _ operand => operand.Writable
  | .inList _ operand items => operand.Writable ∧ items ≠ [] ∧ AllWritable items
  | .like _ operand pattern => operand.Writable ∧ pattern.Writable

/-! ## Cutting words -/

namespace Condition

variable {mode mode' mode'' : Mode} {words left right : List Word} {t : Terminal} {text : List Char} {c : Char}

@[simp] theorem spelled_nil : spelled [] = [] := rfl

@[simp] theorem spelled_cons (w : Word) (words : List Word) : spelled (w :: words) = w.chars ++ spelled words := rfl

@[simp] theorem spelled_append (left right : List Word) : spelled (left ++ right) = spelled left ++ spelled right :=
  List.flatMap_append

@[simp] theorem piecesOf_append (left right : List Word) : piecesOf (left ++ right) = piecesOf left ++ piecesOf right :=
  List.filterMap_append

/-- What follows the words of an expression or of a condition: a blank, a comma, the end of a group, or nothing. -/
def Stops (rest : List Char) : Prop :=
  ∀ c ∈ rest.head?, c = ' ' ∨ c = ')' ∨ c = ','

theorem stops_nil : Stops [] := by
  simp [Stops]

theorem stops_cons {rest : List Char} (h : c = ' ' ∨ c = ')' ∨ c = ',') : Stops (c :: rest) := by
  simpa [Stops] using h

theorem Stops.notNext {rest : List Char} (h : Stops rest) {p : Char → Bool}
    (hp : p ' ' = false ∧ p ')' = false ∧ p ',' = false) : NotNext p rest := by
  intro c hc
  rcases h c hc with rfl | rfl | rfl
  · exact hp.1
  · exact hp.2.1
  · exact hp.2.2

/-- The text of words is cut into their pieces, whatever follows it. -/
def Cuts (mode : Mode) (words : List Word) (mode' : Mode) : Prop :=
  ∀ rest, Stops rest → cut mode (spelled words ++ rest) = (cut mode' rest).map (piecesOf words ++ ·)

theorem Cuts.nil : Cuts mode [] mode := by
  intro rest _
  simp [piecesOf]

/-- Words are cut one part after the other, if the second part does not carry on the first one. -/
theorem Cuts.append (h : Cuts mode left mode') (h' : Cuts mode' right mode'')
    (hstops : ∀ rest, Stops rest → Stops (spelled right ++ rest)) : Cuts mode (left ++ right) mode'' := by
  intro rest hrest
  rw [spelled_append, List.append_assoc, h _ (hstops rest hrest), h' rest hrest, Option.map_map, piecesOf_append]
  exact congrArg (Option.map · _) (funext fun _ => (List.append_assoc _ _ _).symm)

theorem Cuts.blank (h : Cuts mode words mode') : Cuts mode (.blank :: words) mode' := by
  intro rest hrest
  rw [spelled_cons, List.append_assoc, Word.chars, List.singleton_append, cut_blank, h rest hrest]
  rfl

/-- A part ends before a blank. -/
theorem Cuts.append_blank (h : Cuts mode left mode') (h' : Cuts mode' right mode'') :
    Cuts mode (left ++ .blank :: right) mode'' :=
  h.append h'.blank fun _ _ => stops_cons (.inl rfl)

/-- A piece at the start, which ends before the words that follow it. -/
theorem Cuts.piece (hgap : isGap c = false)
    (hterminal : ∀ rest, Stops rest →
      terminal? mode (c :: text ++ (spelled words ++ rest)) = some (t, text.length + 1))
    (h : Cuts (mode.next t) words mode') : Cuts mode (.piece t (c :: text) :: words) mode' := by
  intro rest hrest
  rw [spelled_cons, List.append_assoc, Word.chars, cut_append hgap (hterminal rest hrest), h rest hrest, Option.map_map]
  rfl

/-! ### Marks and operators -/

/-- The marks that nothing carries on. -/
def freeMarks : List (Terminal × Char) :=
  [(.leftParen, '('), (.rightParen, ')'), (.comma, ','), (.dot, '.'), (.minus, '-')]

theorem Cuts.mark (hmark : (t, c) ∈ freeMarks) (h : Cuts (mode.next t) words mode') :
    Cuts mode (mark t c :: words) mode' := by
  have hfree : ∀ m ∈ freeMarks, m.2 ∈ marks ∧ ∀ cs, symbolLength? (m.2 :: cs) = some (m.1, 1) := by
    simp only [freeMarks, List.forall_mem_cons]
    refine ⟨?_, ?_, ?_, ?_, ?_, by simp⟩
    all_goals exact ⟨by decide, fun _ => rfl⟩
  obtain ⟨hc, hlength⟩ := hfree _ hmark
  exact h.piece (isGap_of_mem_marks hc) fun rest _ => (terminal?_of_mem_marks hc).trans (hlength _)

/-- The words of a list or of a group end with the mark that closes it. -/
theorem Cuts.append_close (h : Cuts mode left mode') :
    Cuts mode (left ++ [Condition.mark .rightParen ')']) .after := by
  refine h.append (Cuts.mark (by decide) ?_) fun _ _ => stops_cons (.inr (.inl rfl))
  exact .nil

/-- An operator is followed by a blank. -/
theorem Cuts.operator (hc : c ∈ marks)
    (hsymbol : ∀ cs, symbolLength? (c :: text ++ ' ' :: cs) = some (t, text.length + 1))
    (h : Cuts (mode.next t) words mode') : Cuts mode (.piece t (c :: text) :: .blank :: words) mode' := by
  refine Cuts.piece (isGap_of_mem_marks hc) (fun rest _ => ?_) h.blank
  rw [List.cons_append, terminal?_of_mem_marks hc]
  exact hsymbol _

/-! ### Names and keywords -/

/-- A word is cut off as what it is when it stands alone. -/
theorem Cuts.word (hword : ∀ d ∈ c :: text, isWordChar d = true) (hstarts : startsWord c = true)
    (hterminal : terminal? mode (c :: text) = some (t, text.length + 1))
    (hnext : ∀ rest, Stops rest → NotNext isWordChar (spelled words ++ rest))
    (h : Cuts (mode.next t) words mode') : Cuts mode (.piece t (c :: text) :: words) mode' := by
  refine Cuts.piece (isGap_of_isWordChar (hword c (by simp))) (fun rest hrest => ?_) h
  rw [terminal?_append hword hstarts mode (hnext rest hrest)]
  exact hterminal

theorem Stops.notNext_isWordChar {rest : List Char} (h : Stops rest) : NotNext isWordChar rest :=
  h.notNext (by decide)

/-- A letter of ASCII is a letter of a keyword if it is so in lower case. -/
theorem toLower_of_isLetterOf {letter d : Char} (hletter : IsKeywordLetter letter) (hd : isNamePart d = true)
    (h : isLetterOf letter d = true) : d.toLower = letter := by
  have hletters : ∀ letter, IsKeywordLetter letter → letter.toLower = letter ∧ letter.toUpper.toLower = letter := by
    unfold IsKeywordLetter
    exact List.all_iff_forall_prop.1 (by decide)
  have hascii : ∀ n ∈ [0x130, 0x131, 0x17f, 0x212a], d.toNat ≠ n := by
    intro n hn heq
    have hc : d = Char.ofNat n := by rw [← heq, Char.ofNat_toNat]
    have hall : ∀ n ∈ [0x130, 0x131, 0x17f, 0x212a], isNamePart (Char.ofNat n) = false := by
      decide
    rw [hc, hall n hn] at hd
    cases hd
  simp only [isLetterOf, Bool.or_eq_true, Bool.and_eq_true, beq_iff_eq] at h
  rcases h with (((rfl | rfl) | ⟨-, h | h⟩) | ⟨-, h⟩) | ⟨-, h⟩
  · exact (hletters _ hletter).1
  · exact (hletters letter hletter).2
  all_goals exact absurd h (hascii _ (by decide))

theorem map_toLower_of_startsWithWord {letters cs : List Char} (hletters : ∀ l ∈ letters, IsKeywordLetter l)
    (hcs : ∀ d ∈ cs, isNamePart d = true) (h : startsWithWord letters cs = true) : cs.map Char.toLower = letters := by
  induction letters generalizing cs with
  | nil =>
    cases cs with
    | nil => rfl
    | cons d cs => simp [startsWithWord, isWordChar_of_isNamePart (hcs d (by simp))] at h
  | cons l letters ih =>
    rw [List.forall_mem_cons] at hletters
    cases cs with
    | nil => cases h
    | cons d cs =>
      rw [List.forall_mem_cons] at hcs
      rw [startsWithWord, Bool.and_eq_true] at h
      rw [List.map_cons, toLower_of_isLetterOf hletters.1 hcs.1 h.1, ih hletters.2 hcs.2 h.2]

/-- A name that is no keyword reads as a name everywhere. -/
theorem IsName.terminal? {name : String} (h : IsName name) : ∃ c cs, name.toList = c :: cs ∧
    (∀ d ∈ c :: cs, isWordChar d = true) ∧ startsWord c = true ∧
      ∀ mode, terminal? mode (c :: cs) = some (.name, cs.length + 1) := by
  obtain ⟨c, cs, hname, hstart, hcs, hkeyword⟩ := h
  have hparts : ∀ d ∈ c :: cs, isNamePart d = true := by
    rw [List.forall_mem_cons]
    exact ⟨isNamePart_of_isNameStart hstart, hcs⟩
  have hnone : ∀ words : List (Terminal × String), (∀ w ∈ words, w ∈ keywords) →
      keywordLength? words (c :: cs) = none := by
    intro words hwords
    rw [keywordLength?, Option.map_eq_none_iff, List.find?_eq_none]
    intro w hw hstarts
    refine hkeyword w (hwords w hw) (map_toLower_of_startsWithWord (fun l hl => ?_) hparts hstarts)
    exact List.mem_flatMap.2 ⟨w, hwords w hw, hl⟩
  refine ⟨c, cs, hname, fun d hd => isWordChar_of_isNamePart (hparts d hd), ?_, fun mode => ?_⟩
  · rw [startsWord, hstart, Bool.true_or, Bool.true_or]
  · have htail : cs.takeWhile isNamePart = cs := List.takeWhile_eq_self_iff.2 hcs
    rw [Condition.terminal?, hnone _ fun w hw => (List.mem_filter.1 hw).1, nameLength?, if_pos hstart, htail,
      Nat.add_comm]
    rfl

theorem Cuts.name {name : String} (hname : IsName name)
    (hnext : ∀ rest, Stops rest → NotNext isWordChar (spelled words ++ rest)) (h : Cuts .after words mode') :
    Cuts mode (nameWord name :: words) mode' := by
  obtain ⟨c, cs, heq, hword, hstarts, hterminal⟩ := hname.terminal?
  rw [nameWord, symbol, heq]
  exact Cuts.word hword hstarts (hterminal mode) hnext h

/-- The keywords as they are written. -/
def writtenKeywords : List (Terminal × String) :=
  [(.or, "OR"), (.and, "AND"), (.not, "NOT"), (.is, "IS"), (.in, "IN"), (.like, "LIKE"), (.null, "NULL"),
    (.true, "TRUE"), (.false, "FALSE")]

/-- Where a keyword counts, it is cut off as such. -/
theorem Cuts.keyword {w : String} (hkeyword : (t, w) ∈ writtenKeywords) (hadmits : mode.admits t = true)
    (hnext : ∀ rest, Stops rest → NotNext isWordChar (spelled words ++ rest)) (h : Cuts (mode.next t) words mode') :
    Cuts mode (symbol t w :: words) mode' := by
  have hall : ∀ entry ∈ writtenKeywords, ∃ c cs, entry.2.toList = c :: cs ∧ (c :: cs).all isWordChar = true ∧
      startsWord c = true ∧
        ∀ mode, mode.admits entry.1 = true → terminal? mode (c :: cs) = some (entry.1, cs.length + 1) := by
    simp only [writtenKeywords, List.forall_mem_cons]
    refine ⟨?_, ?_, ?_, ?_, ?_, ?_, ?_, ?_, ?_, by simp⟩
    all_goals
      refine ⟨_, _, rfl, by decide, by decide, fun mode => ?_⟩
      cases mode
    all_goals decide
  obtain ⟨c, cs, heq, hword, hstarts, hterminal⟩ := hall _ hkeyword
  rw [symbol, heq]
  exact Cuts.word (List.all_eq_true.1 hword) hstarts (hterminal mode hadmits) hnext h

/-- A keyword before a blank. -/
theorem Cuts.keyword_blank {w : String} (hkeyword : (t, w) ∈ writtenKeywords) (hadmits : mode.admits t = true)
    (h : Cuts (mode.next t) words mode') : Cuts mode (symbol t w :: .blank :: words) mode' :=
  Cuts.keyword hkeyword hadmits (fun _ _ => notNext_cons.2 (by decide)) h.blank

/-- A keyword at the end. -/
theorem Cuts.keyword_last {w : String} (hkeyword : (t, w) ∈ writtenKeywords) (hadmits : mode.admits t = true) :
    Cuts mode [symbol t w] (mode.next t) :=
  Cuts.keyword hkeyword hadmits (fun _ hrest => hrest.notNext_isWordChar) .nil

/-! ### Literals -/

/-- A number ends where something follows that stops it. -/
theorem Cuts.number (h : IsUnsigned text) : Cuts mode [.piece .number text] .after := by
  intro rest hrest
  cases text with
  | nil => cases h
  | cons d digits =>
    have hdigit : isDecimalDigit d = true := by
      rw [← Bool.not_eq_false]
      intro hdigit
      rw [IsUnsigned, numberLength?_eq_none hdigit] at h
      cases h
    obtain ⟨mantissa, exponent, happend, hmantissa, hends⟩ := exists_mantissa hdigit digits
    rw [IsUnsigned, happend, numberLength?_append hmantissa hends, List.length_append] at h
    have hlength : exponentLength exponent = exponent.length := by
      have heq := congrArg Prod.snd (Option.some.inj h)
      exact Nat.add_left_cancel heq
    have hnext : NotNext isDecimalDigit rest := hrest.notNext (by decide)
    have hexponent : exponentLength (exponent ++ rest) = exponent.length := by
      cases exponent with
      | nil => exact exponentLength_eq_zero (hrest.notNext (by decide))
      | cons e exponent => rw [exponentLength_append hnext (by simp [hlength]), hlength]
    have hends' : EndsMantissa mantissa (exponent ++ rest) := by
      cases exponent with
      | nil => exact ⟨hnext, fun _ => fractionLength_eq_zero (hrest.notNext (by decide))⟩
      | cons e exponent =>
        have hpos : exponentLength (e :: exponent) ≠ 0 := by simp [hlength]
        obtain ⟨_, _, heq, he⟩ := exponentLength_pos hpos
        cases heq
        refine ⟨notNext_cons.2 (notNext_cons.1 hends.1), fun _ => fractionLength_eq_zero (notNext_cons.2 ?_)⟩
        rcases he with rfl | rfl <;> decide
    rw [happend, spelled_cons, Word.chars, spelled_nil, List.append_nil, List.append_assoc,
      cut_number mode hmantissa hends', hexponent, List.drop_left, List.take_left]
    rfl

theorem Cuts.literal {value : Literal} (h : value.Writable) (hmode : mode = .predicate ∨ mode = .operand) :
    Cuts mode value.words .after := by
  cases value with
  | number text =>
    rw [Literal.words]
    rcases h with h | ⟨digits, heq, h⟩
    · split
      · rename_i heq
        rw [IsUnsigned, heq, numberLength?_eq_none (by decide)] at h
        cases h
      · exact .number h
    · rw [heq]
      exact Cuts.mark (by decide) (.number h)
  | string text =>
    intro rest _
    rw [Literal.words, spelled_cons, Word.chars, spelled_nil, List.append_nil,
      cut_quoteChars fun hlast => absurd hlast h]
    rfl
  | bool b =>
    rcases hmode with rfl | rfl
    all_goals
      cases b
      · exact Cuts.keyword_last (w := "FALSE") (by decide) (by decide)
      · exact Cuts.keyword_last (w := "TRUE") (by decide) (by decide)
  | null =>
    rcases hmode with rfl | rfl
    · exact Cuts.keyword_last (by decide) (by decide)
    · exact Cuts.keyword_last (by decide) (by decide)

/-! ### Expressions and conditions -/

theorem Cuts.enclosed (hmode : mode = .predicate ∨ mode = .operand) (needed : Bool) (h : Cuts mode words .after) :
    Cuts mode (enclosed needed words) .after := by
  have hnext : mode.next .leftParen = mode := by
    rcases hmode with rfl | rfl
    · rfl
    · rfl
  cases needed with
  | false => exact h
  | true => exact Cuts.mark (by decide) (by rw [hnext]; exact h.append_close)

theorem Cuts.arithmetic (op : Arithmetic) (h : Cuts .operand words mode') :
    Cuts .after (symbol op.terminal op.symbol :: .blank :: words) mode' := by
  cases op
  all_goals exact Cuts.operator (by decide) (fun _ => rfl) h

theorem Cuts.comparison (op : Comparison) (h : Cuts .operand words mode') :
    Cuts .after (symbol op.terminal op.symbol :: .blank :: words) mode' := by
  cases op
  all_goals exact Cuts.operator (by decide) (fun _ => rfl) h

theorem Cuts.connective (op : Connective) (h : Cuts .predicate words mode') :
    Cuts .after (symbol op.terminal op.symbol :: .blank :: words) mode' := by
  cases op
  · exact Cuts.keyword_blank (by decide) rfl h
  · exact Cuts.keyword_blank (by decide) rfl h

end Condition

mutual

/-- The text of an expression is cut into its pieces where an operand may begin. -/
theorem Expr.cuts {mode : Mode} (hmode : mode = .predicate ∨ mode = .operand) : (e : Expr) → e.Writable →
    Cuts mode e.words .after
  | .column none name, h => by
    rw [Expr.words]
    exact Cuts.name h.2 (fun _ hrest => hrest.notNext_isWordChar) .nil
  | .column (some table) name, h => by
    rw [Expr.words]
    have hname : Cuts .column [nameWord name] .after := Cuts.name h.2 (fun _ hrest => hrest.notNext_isWordChar) .nil
    exact Cuts.name (h.1 table rfl) (fun _ _ => notNext_cons.2 (by decide)) (Cuts.mark (by decide) hname)
  | .literal value, h => by
    rw [Expr.words]
    exact Cuts.literal h hmode
  | .call function args, h => by
    rw [Expr.Writable] at h
    obtain ⟨hfunction, -, hargs⟩ := h
    rw [Expr.words]
    refine Cuts.name hfunction (fun _ _ => notNext_cons.2 (by decide)) (Cuts.mark (by decide) ?_)
    cases args with
    | nil => exact Cuts.nil.append_close
    | cons e es => exact (listCuts (e :: es) (by simp) hargs).append_close
  | .binary op left right, h => by
    rw [Expr.Writable] at h
    rw [Expr.words]
    have hleft := (left.cuts hmode h.1).enclosed hmode (left.strength < op.strength)
    have hright := (right.cuts (.inr rfl) h.2).enclosed (.inr rfl) (right.strength ≤ op.strength)
    exact hleft.append_blank (hright.arithmetic op)

theorem listCuts : (es : List Expr) → es ≠ [] → AllWritable es → Cuts .operand (listWords es) .after
  | [], hne, _ => absurd rfl hne
  | [e], _, h => by
    rw [listWords]
    exact e.cuts (.inr rfl) h.1
  | e :: e' :: es, _, h => by
    rw [AllWritable] at h
    rw [listWords]
    have htail := listCuts (e' :: es) (by simp) h.2
    exact (e.cuts (.inr rfl) h.1).append (Cuts.mark (by decide) htail.blank) fun _ _ => stops_cons (.inr (.inr rfl))

end

namespace Condition

variable {words : List Word} {mode' : Mode}

theorem Cuts.negation (negated : Bool) (h : Cuts .after words mode') :
    Cuts .after (negation negated ++ words) mode' := by
  cases negated with
  | false => exact h
  | true => exact Cuts.keyword_blank (by decide) rfl h

/-- The text of a condition is cut into its pieces where a predicate may begin. -/
theorem cuts {c : Condition} (h : c.Writable) : Cuts .predicate c.words .after := by
  have hmode : Mode.predicate = .predicate ∨ Mode.predicate = .operand := .inl rfl
  induction c with
  | compare op left right => exact (left.cuts hmode h.1).append_blank ((right.cuts (.inr rfl) h.2).comparison op)
  | logic op left right ihleft ihright =>
    have hleft := (ihleft h.1).enclosed hmode (left.strength < op.strength)
    have hright := (ihright h.2).enclosed hmode (right.strength ≤ op.strength)
    exact hleft.append_blank (hright.connective op)
  | not operand ih => exact Cuts.keyword_blank (by decide) rfl ((ih h).enclosed hmode (operand.strength < 2))
  | isNull negated operand =>
    have hnull : Cuts .after [symbol .null "NULL"] .after := Cuts.keyword_last (by decide) rfl
    exact (operand.cuts hmode h).append_blank (Cuts.keyword_blank (by decide) rfl (hnull.negation negated))
  | inList negated operand items =>
    obtain ⟨hoperand, hne, hitems⟩ := h
    have hlist := (listCuts items hne hitems).append_close
    refine (operand.cuts hmode hoperand).append_blank (Cuts.negation negated ?_)
    exact Cuts.keyword_blank (by decide) rfl (Cuts.mark (by decide) hlist)
  | like negated operand pattern =>
    refine (operand.cuts hmode h.1).append_blank (Cuts.negation negated ?_)
    exact Cuts.keyword_blank (by decide) rfl (pattern.cuts (.inr rfl) h.2)

/-- The text of a condition is cut into its pieces. -/
theorem cut_print {c : Condition} (h : c.Writable) : cut .predicate c.print.toList = some (piecesOf c.words) := by
  have hcut := cuts h [] stops_nil
  rw [List.append_nil, cut_nil] at hcut
  rw [print, String.toList_ofList, hcut, Option.map_some, List.append_nil]

end Condition

end Relational
