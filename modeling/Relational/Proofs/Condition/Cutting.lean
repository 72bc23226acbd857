import Relational.Condition.Parser
import Relational.Proofs.Condition.Lexer
import Relational.Text.Quoted

/-!
# The pieces of a condition

A text is cut into pieces, one after the other and with gaps between them. Where a piece stands matters for messages
only. A word, a number without an exponent, a mark and a quoted text whose own quotes are escaped are cut off in the same
way whatever follows them, as long as it does not carry them on.
-/

namespace Relational

open Text

namespace Condition

/-- A terminal and the characters it was written as. -/
abbrev Piece := Terminal × List Char

/-- What a piece contributes, together with its terminal. -/
def Piece.reading (piece : Piece) : Terminal × String :=
  (piece.1, Token.content ⟨piece.1, piece.2, .start⟩)

/-- The pieces of a text; none if no terminal stands somewhere. -/
def cut (mode : Mode) : List Char → Option (List Piece)
  | [] => some []
  | c :: cs =>
    if isGap c then cut mode cs
    else
      match terminal? mode (c :: cs) with
      | none => none
      | some (t, n) => (cut (mode.next t) (cs.drop (n - 1))).map ((t, c :: cs.take (n - 1)) :: ·)
termination_by cs => cs.length
decreasing_by
  · simp
  · simp only [List.length_drop, List.length_cons]
    omega

variable {mode : Mode} {c : Char} {cs rest : List Char} {t : Terminal} {n : Nat} {pieces : List Piece}

/-! ## Cutting -/

@[simp] theorem cut_nil : cut mode [] = some [] := by
  rw [cut]

theorem cut_gap (hgap : isGap c = true) : cut mode (c :: cs) = cut mode cs := by
  rw [cut, if_pos hgap]

@[simp] theorem cut_blank : cut mode (' ' :: cs) = cut mode cs :=
  cut_gap (by decide)

theorem cut_none (hgap : isGap c = false) (hterminal : terminal? mode (c :: cs) = none) :
    cut mode (c :: cs) = none := by
  rw [cut, hgap, if_neg Bool.false_ne_true, hterminal]

theorem cut_piece (hgap : isGap c = false) (hterminal : terminal? mode (c :: cs) = some (t, n)) :
    cut mode (c :: cs) = (cut (mode.next t) (cs.drop (n - 1))).map ((t, c :: cs.take (n - 1)) :: ·) := by
  rw [cut, hgap, if_neg Bool.false_ne_true, hterminal]

/-- The first piece of a text that is cut is its first token. -/
theorem exists_piece_of_cut (hgap : isGap c = false) (h : cut mode (c :: cs) = some pieces) :
    ∃ t n pieces', terminal? mode (c :: cs) = some (t, n) ∧ cut (mode.next t) (cs.drop (n - 1)) = some pieces' ∧
      pieces = (t, c :: cs.take (n - 1)) :: pieces' := by
  cases hterminal : terminal? mode (c :: cs) with
  | none =>
    rw [cut_none hgap hterminal] at h
    cases h
  | some found =>
    obtain ⟨t, n⟩ := found
    rw [cut_piece hgap hterminal, Option.map_eq_some_iff] at h
    obtain ⟨pieces', hcut, rfl⟩ := h
    exact ⟨t, n, pieces', rfl, hcut, rfl⟩

/-- What a text is cut into is built from its end: a blank adds nothing, and a token one piece. -/
@[elab_as_elim]
theorem cut_induction
    {motive : (mode : Mode) → (cs : List Char) → (pieces : List Piece) → cut mode cs = some pieces → Prop}
    (nil : ∀ mode, motive mode [] [] cut_nil)
    (gap : ∀ mode c cs pieces (hgap : isGap c = true) (hcut : cut mode cs = some pieces),
      motive mode cs pieces hcut → motive mode (c :: cs) pieces ((cut_gap hgap).trans hcut))
    (piece : ∀ mode c cs t n pieces (hgap : isGap c = false) (hterminal : terminal? mode (c :: cs) = some (t, n))
      (hcut : cut (mode.next t) (cs.drop (n - 1)) = some pieces), motive (mode.next t) (cs.drop (n - 1)) pieces hcut →
      motive mode (c :: cs) ((t, c :: cs.take (n - 1)) :: pieces)
        ((cut_piece hgap hterminal).trans (congrArg (Option.map _) hcut)))
    (h : cut mode cs = some pieces) : motive mode cs pieces h := by
  -- on the length of the text: a token is followed by a shorter one
  induction hlength : cs.length using Nat.strongRecOn generalizing mode cs pieces with
  | _ length ih =>
    subst hlength
    cases cs with
    | nil =>
      rw [cut_nil] at h
      cases h
      exact nil mode
    | cons c cs =>
      cases hgap : isGap c with
      | true =>
        have hcut : cut mode cs = some pieces := (cut_gap hgap).symm.trans h
        exact gap mode c cs pieces hgap hcut (ih cs.length (by simp) hcut rfl)
      | false =>
        obtain ⟨t, n, pieces', hterminal, hcut, rfl⟩ := exists_piece_of_cut hgap h
        have hshort : (cs.drop (n - 1)).length < (c :: cs).length := by
          rw [List.length_drop, List.length_cons]
          omega
        exact piece mode c cs t n pieces' hgap hterminal hcut (ih _ hshort hcut rfl)

/-- A token at the start of a text is its first piece. -/
theorem cut_append {word : List Char} (hgap : isGap c = false)
    (hterminal : terminal? mode (c :: word ++ rest) = some (t, word.length + 1)) :
    cut mode (c :: word ++ rest) = (cut (mode.next t) rest).map ((t, c :: word) :: ·) := by
  rw [List.cons_append] at hterminal ⊢
  rw [cut_piece hgap hterminal, Nat.add_sub_cancel, List.drop_left, List.take_left]

/-- Scanning cuts a text into the pieces of its tokens. -/
theorem cut_eq_some_iff (position : Position) : cut mode cs = some pieces ↔
    (scanFrom mode position cs).2 = none ∧
      (scanFrom mode position cs).1.map (fun token => (token.terminal, token.text)) = pieces := by
  -- on the length of the text: a token is followed by a shorter one
  induction hlength : cs.length using Nat.strongRecOn generalizing mode position cs pieces with
  | _ length ih =>
    cases cs with
    | nil =>
      rw [scanFrom]
      simp
    | cons c cs =>
      rw [List.length_cons] at hlength
      rw [scanFrom]
      cases hgap : isGap c with
      | true =>
        rw [if_pos rfl, cut_gap hgap]
        exact ih cs.length (by omega) _ rfl
      | false =>
        rw [if_neg Bool.false_ne_true]
        cases hterminal : terminal? mode (c :: cs) with
        | none => simp [cut_none hgap hterminal]
        | some found =>
          obtain ⟨t, n⟩ := found
          have hshort : (cs.drop (n - 1)).length < length := by
            rw [List.length_drop]
            omega
          rw [cut_piece hgap hterminal, Option.map_eq_some_iff]
          simp only [ih _ hshort (position.advanceOver (c :: cs.take (n - 1))) rfl, List.map_cons]
          constructor
          · rintro ⟨pieces, ⟨hend, rfl⟩, rfl⟩
            exact ⟨hend, rfl⟩
          · rintro ⟨hend, rfl⟩
            exact ⟨_, ⟨hend, rfl⟩, rfl⟩

theorem cut_of_isBlank (hblank : ∀ c ∈ cs, isBlank c = true) (h : cut mode cs = some pieces) :
    pieces = [] := by
  induction cs with
  | nil =>
    rw [cut_nil] at h
    cases h
    rfl
  | cons c cs ih =>
    rw [List.forall_mem_cons] at hblank
    cases hgap : isGap c with
    | true =>
      rw [cut_gap hgap] at h
      exact ih hblank.2 h
    | false =>
      rw [cut_none hgap (terminal?_of_isBlank hblank.1)] at h
      cases h

/-! ## Words -/

/-- A gap is blank, and no part of a word. -/
theorem gap_class (h : isGap c = true) : isBlank c = true ∧ isWordChar c = false := by
  simp only [isGap, Bool.or_eq_true, beq_iff_eq] at h
  rcases h with (((rfl | rfl) | rfl) | rfl) | rfl
  all_goals decide

theorem isGap_of_isWordChar (h : isWordChar c = true) : isGap c = false := by
  rw [← Bool.not_eq_true]
  intro hgap
  rw [(gap_class hgap).2] at h
  cases h

theorem isGap_of_isDecimalDigit (hdigit : isDecimalDigit c = true) : isGap c = false :=
  isGap_of_isWordChar (isWordChar_of_isDigitLike (isDigitLike_of_isDecimalDigit hdigit))

/-- A number is the first piece of a text that starts with a digit. -/
theorem exists_number_of_cut (hdigit : isDecimalDigit c = true) (h : cut mode (c :: cs) = some pieces) :
    ∃ number pieces', pieces = (.number, number) :: pieces' := by
  obtain ⟨mantissa, rest, happend, hmantissa, hends⟩ := exists_mantissa hdigit cs
  have hterminal : terminal? mode (c :: cs) = some (.number, mantissa.length + exponentLength rest) := by
    rw [terminal?_of_not_startsWord (startsWord_of_isDecimalDigit hdigit), happend,
      numberLength?_append hmantissa hends, Option.some_or]
  rw [cut_piece (isGap_of_isDecimalDigit hdigit) hterminal, Option.map_eq_some_iff] at h
  obtain ⟨pieces', -, rfl⟩ := h
  exact ⟨_, pieces', rfl⟩

/-- How a word is cut: not at all, in the same way whatever follows it, or into a name and a number right after it. -/
inductive WordCut (mode : Mode) (word : List Char) : Prop where
  | never (h : ∀ rest, NotNext isWordChar rest → cut mode (word ++ rest) = none)
  | always (pieces : List Piece) (mode' : Mode) (hpieces : ∀ piece ∈ pieces, piece.1 ≠ .number ∧ piece.1 ≠ .string)
      (h : ∀ rest, NotNext isWordChar rest → cut mode (word ++ rest) = (cut mode' rest).map (pieces ++ ·))
  | number (h : ∀ rest pieces, NotNext isWordChar rest → cut mode (word ++ rest) = some pieces →
      ∃ name number pieces', pieces = (.name, name) :: (.number, number) :: pieces')

theorem keyword_terminal {w : String} (h : (t, w) ∈ keywords) : t ≠ .number ∧ t ≠ .string := by
  have hall : ∀ entry ∈ keywords, entry.1 ≠ .number ∧ entry.1 ≠ .string := by
    decide
  exact hall _ h

/-- What follows a name within a word is a keyword or a number, or cannot be cut off. -/
theorem cut_afterName {d : Char} {tail : List Char} (hword : ∀ c ∈ d :: tail, isWordChar c = true)
    (hname : isNamePart d = false) :
    (∀ rest, NotNext isWordChar rest → cut .after (d :: tail ++ rest) = none) ∨
    (∃ t, (t ≠ .number ∧ t ≠ .string) ∧ ∀ rest, NotNext isWordChar rest →
      cut .after (d :: tail ++ rest) = (cut (Mode.next .after t) rest).map ((t, d :: tail) :: ·)) ∨
    isDecimalDigit d = true := by
  have hd := hword d (by simp)
  by_cases hdigit : isDecimalDigit d = true
  · exact .inr (.inr hdigit)
  · rw [Bool.not_eq_true] at hdigit
    by_cases hstarts : startsWord d = true
    · have hgap := isGap_of_isWordChar (isWordChar_of_startsWord hstarts)
      cases hterminal : terminal? .after (d :: tail) with
      | none =>
        refine .inl fun rest hrest => ?_
        exact cut_none hgap ((terminal?_append hword hstarts _ hrest).trans hterminal)
      | some found =>
        obtain ⟨t, n⟩ := found
        rcases terminal?_word_cases hword hstarts hterminal with ⟨w, hkeyword, rfl⟩ | ⟨-, hstart, -⟩
        · refine .inr (.inl ⟨t, keyword_terminal hkeyword, fun rest hrest => ?_⟩)
          exact cut_append hgap ((terminal?_append hword hstarts _ hrest).trans hterminal)
        · rw [isNamePart_of_isNameStart hstart] at hname
          cases hname
    · rw [Bool.not_eq_true] at hstarts
      refine .inl fun rest _ => cut_none (isGap_of_isWordChar hd) ?_
      rw [terminal?_of_not_startsWord hstarts]
      exact otherTerminal_eq_none _ hd hdigit

theorem cut_word (mode : Mode) (hword : ∀ d ∈ c :: cs, isWordChar d = true) (hstarts : startsWord c = true) :
    WordCut mode (c :: cs) := by
  have hgap := isGap_of_isWordChar (isWordChar_of_startsWord hstarts)
  cases hterminal : terminal? mode (c :: cs) with
  | none =>
    refine .never fun rest hrest => ?_
    exact cut_none hgap ((terminal?_append hword hstarts _ hrest).trans hterminal)
  | some found =>
    obtain ⟨t, n⟩ := found
    rcases terminal?_word_cases hword hstarts hterminal with ⟨w, hkeyword, rfl⟩ | ⟨rfl, -, rfl⟩
    · refine .always [(t, c :: cs)] (mode.next t) (by simpa using keyword_terminal hkeyword) fun rest hrest => ?_
      exact cut_append hgap ((terminal?_append hword hstarts _ hrest).trans hterminal)
    · -- the name is followed by the rest of the word, which does not carry it on
      have happend : cs.takeWhile isNamePart ++ cs.dropWhile isNamePart = cs := List.takeWhile_append_dropWhile
      have htail : NotNext isNamePart (cs.dropWhile isNamePart) := notNext_dropWhile _ _
      generalize cs.takeWhile isNamePart = name at *
      generalize cs.dropWhile isNamePart = tail at *
      subst happend
      have hcut : ∀ rest, NotNext isWordChar rest → cut mode (c :: (name ++ tail) ++ rest) =
          (cut .after (tail ++ rest)).map ((.name, c :: name) :: ·) := by
        intro rest hrest
        have hterminal' := (terminal?_append hword hstarts mode hrest).trans hterminal
        rw [List.cons_append, List.append_assoc] at hterminal' ⊢
        exact cut_append hgap hterminal'
      cases tail with
      | nil =>
        refine .always [(.name, c :: name)] .after (by simp) fun rest hrest => ?_
        exact hcut rest hrest
      | cons d tail =>
        have hword' : ∀ c ∈ d :: tail, isWordChar c = true := by
          intro c' hc'
          exact hword c' (List.mem_cons_of_mem c (List.mem_append_right name hc'))
        rcases cut_afterName hword' (notNext_cons.1 htail) with hnone | ⟨t, ht, hkeyword⟩ | hdigit
        · refine .never fun rest hrest => ?_
          rw [hcut rest hrest, hnone rest hrest]
          rfl
        · refine .always [(.name, c :: name), (t, d :: tail)] (Mode.next .after t) ?_ fun rest hrest => ?_
          · simpa using ht
          · rw [hcut rest hrest, hkeyword rest hrest, Option.map_map]
            rfl
        · refine .number fun rest pieces hrest h => ?_
          rw [hcut rest hrest, Option.map_eq_some_iff] at h
          obtain ⟨pieces', h, rfl⟩ := h
          obtain ⟨number, pieces', rfl⟩ := exists_number_of_cut hdigit h
          exact ⟨_, number, pieces', rfl⟩

/-! ## Numbers -/

theorem IsMantissa.exists_cons {mantissa : List Char} (h : IsMantissa mantissa) :
    ∃ d digits, mantissa = d :: digits ∧ isDecimalDigit d = true := by
  obtain ⟨whole, fraction, rfl, hne, hwhole, -⟩ := h
  cases whole with
  | nil => exact absurd rfl hne
  | cons d whole => exact ⟨d, whole ++ fraction, rfl, hwhole d (by simp)⟩

/-- A number is cut off with its exponent. -/
theorem cut_number {mantissa : List Char} (mode : Mode) (h : IsMantissa mantissa) (hends : EndsMantissa mantissa rest) :
    cut mode (mantissa ++ rest) = (cut .after (rest.drop (exponentLength rest))).map
      ((.number, mantissa ++ rest.take (exponentLength rest)) :: ·) := by
  obtain ⟨d, digits, rfl, hdigit⟩ := h.exists_cons
  have hterminal : terminal? mode (d :: digits ++ rest) =
      some (.number, (d :: digits).length + exponentLength rest) := by
    rw [List.cons_append, terminal?_of_not_startsWord (startsWord_of_isDecimalDigit hdigit), ← List.cons_append,
      numberLength?_append h hends, Option.some_or]
  rw [List.cons_append] at hterminal ⊢
  rw [cut_piece (isGap_of_isDecimalDigit hdigit) hterminal]
  have hlength : (d :: digits).length + exponentLength rest - 1 = digits.length + exponentLength rest := by
    rw [List.length_cons]
    omega
  have hdrop : (digits ++ rest).drop (digits.length + exponentLength rest) = rest.drop (exponentLength rest) := by
    rw [← List.drop_drop, List.drop_left]
  have htake : (digits ++ rest).take (digits.length + exponentLength rest) =
      digits ++ rest.take (exponentLength rest) := by
    rw [List.take_add, List.take_left, List.drop_left]
  rw [hlength, hdrop, htake]
  rfl

/-! ## Quoted texts -/

theorem terminal?_quote (hc : c = '\'' ∨ c = '"') : terminal? mode (c :: cs) = stringLength? (c :: cs) := by
  have hquote : ∀ c, c = '\'' ∨ c = '"' → isWordChar c = false ∧ c ∉ marks := by
    rintro c (rfl | rfl)
    · decide
    · decide
  rw [terminal?_of_not_isWordChar (hquote c hc).1, symbolLength?_eq_none (hquote c hc).2, Option.or_none]

theorem isGap_quote (hc : c = '\'' ∨ c = '"') : isGap c = false := by
  rcases hc with rfl | rfl
  · decide
  · decide

/-- A quoted text runs up to a quote like its first. -/
theorem exists_body_of_terminal? (hc : c = '\'' ∨ c = '"') (h : terminal? mode (c :: cs) = some (t, n)) :
    t = .string ∧ ∃ body, cs = body ++ c :: cs.drop (n - 1) ∧ cs.take (n - 1) = body ++ [c] := by
  obtain ⟨ht, -, body, rest, rfl, rfl⟩ := stringLength?_eq_some ((terminal?_quote hc).symm.trans h)
  have hdrop : (body ++ c :: rest).drop (body.length + 2 - 1) = rest := by
    rw [List.append_cons]
    exact List.drop_left' (by simp)
  have htake : (body ++ c :: rest).take (body.length + 2 - 1) = body ++ [c] := by
    rw [List.append_cons]
    exact List.take_left' (by simp)
  exact ⟨ht, body, by rw [hdrop], htake⟩

/-- A quoted text is cut off up to a quote like its first. -/
theorem exists_quoted_of_cut (hc : c = '\'' ∨ c = '"') (h : cut mode (c :: cs) = some pieces) :
    ∃ body rest pieces', cs = body ++ c :: rest ∧ cut .after rest = some pieces' ∧
      pieces = (.string, c :: (body ++ [c])) :: pieces' := by
  obtain ⟨t, n, pieces', hterminal, hcut, rfl⟩ := exists_piece_of_cut (isGap_quote hc) h
  obtain ⟨rfl, body, hbody, htake⟩ := exists_body_of_terminal? hc hterminal
  exact ⟨body, _, pieces', hbody, hcut, by rw [htake]⟩

theorem escapeQuotes_cons (c : Char) (cs : List Char) :
    escapeQuotes (c :: cs) = (if c = '\'' then ['\\', '\''] else [c]) ++ escapeQuotes cs := rfl

/-- A text with its quotes escaped starts with no quote. -/
theorem head_escapeQuotes (content : List Char) : NotNext (· == '\'') (escapeQuotes content) := by
  cases content with
  | nil => exact notNext_nil _
  | cons c content =>
    rw [escapeQuotes_cons]
    split
    · simp
    · simpa using ‹_›

theorem singleQuotedFrom_cons {position : Nat} {escaped : Option Nat} (hc : c ≠ '\'')
    (hnext : c = '\\' → NotNext (· == '\'') cs) :
    singleQuotedFrom position escaped (c :: cs) = singleQuotedFrom (position + 1) escaped cs := by
  rw [singleQuotedFrom, if_neg hc]
  rintro cs' hslash rfl
  have hquote := hnext hslash
  simp at hquote

/-- A text whose quotes are escaped is quoted up to its closing quote. If it ends with a backslash, which seems to escape
that quote, nothing else may follow. -/
theorem singleQuotedFrom_escapeQuotes (position : Nat) (escaped : Option Nat) (content : List Char)
    (hrest : content.getLast? = some '\\' → rest = []) :
    singleQuotedFrom position escaped (escapeQuotes content ++ '\'' :: rest) =
      some (position + (escapeQuotes content).length + 1) := by
  induction content generalizing position escaped with
  | nil => rfl
  | cons c content ih =>
    have hrest' : content.getLast? = some '\\' → rest = [] := by
      intro hlast
      refine hrest ?_
      rw [List.getLast?_cons, hlast]
      rfl
    rw [escapeQuotes_cons]
    by_cases hc : c = '\''
    · rw [if_pos hc, List.cons_append, List.cons_append, List.cons_append, List.cons_append, singleQuotedFrom,
        List.nil_append, ih _ _ hrest', List.length_cons, List.length_cons]
      exact congrArg some (by omega)
    · rw [if_neg hc, List.singleton_append, List.cons_append, List.length_cons]
      by_cases hlast : c = '\\' ∧ content = []
      · obtain ⟨rfl, rfl⟩ := hlast
        rw [hrest rfl]
        rfl
      · rw [singleQuotedFrom_cons hc, ih _ _ hrest']
        · exact congrArg some (by omega)
        · intro hslash
          have hnext := head_escapeQuotes content
          cases content with
          | nil => exact absurd ⟨hslash, rfl⟩ hlast
          | cons d content =>
            rw [escapeQuotes_cons] at hnext ⊢
            split
            · simp
            · simpa using ‹_›

theorem unescape_cons {mark : Char} (hnext : c = '\\' → NotNext (· == mark) cs) :
    unescape mark (c :: cs) = c :: unescape mark cs := by
  cases cs with
  | nil => rfl
  | cons d cs =>
    rw [unescape, if_neg]
    rintro hescape
    rw [Bool.and_eq_true, decide_eq_true_eq, decide_eq_true_eq] at hescape
    have hmark := hnext hescape.1
    simp [hescape.2] at hmark

theorem unescape_escapeQuotes (content : List Char) : unescape '\'' (escapeQuotes content) = content := by
  induction content with
  | nil => rfl
  | cons c content ih =>
    rw [escapeQuotes_cons]
    by_cases hc : c = '\''
    · rw [if_pos hc, List.cons_append, List.cons_append, List.nil_append, unescape, if_pos (by decide), ih, hc]
    · rw [if_neg hc, List.singleton_append, unescape_cons fun _ => head_escapeQuotes content, ih]

theorem cut_quoteChars {content : List Char} (hrest : content.getLast? = some '\\' → rest = []) :
    cut mode (quoteChars content ++ rest) = (cut .after rest).map ((.string, quoteChars content) :: ·) := by
  have hterminal : terminal? mode ('\'' :: (escapeQuotes content ++ ['\'']) ++ rest) =
      some (.string, (escapeQuotes content ++ ['\'']).length + 1) := by
    rw [List.cons_append, terminal?_quote (.inl rfl), stringLength?, List.append_assoc, List.singleton_append,
      singleQuotedFrom_escapeQuotes 1 none content hrest]
    simp
    omega
  exact cut_append (isGap_quote (.inl rfl)) hterminal

theorem reading_quoteChars (content : List Char) :
    Piece.reading (.string, quoteChars content) = (.string, String.ofList content) := by
  simp [Piece.reading, quoteChars, Token.content, unescape_escapeQuotes]

/-! ## Marks -/

theorem isGap_of_mem_marks (hc : c ∈ marks) : isGap c = false := by
  rw [← Bool.not_eq_true]
  intro hgap
  have hblank := (gap_class hgap).1
  rw [(mem_marks hc).2] at hblank
  cases hblank

theorem terminal?_of_mem_marks (hc : c ∈ marks) : terminal? mode (c :: cs) = symbolLength? (c :: cs) := by
  rw [terminal?_of_not_isWordChar (mem_marks hc).1, stringLength?_of_mem_marks hc, Option.none_or]

theorem cut_mark (hc : c ∈ marks) (hsymbol : symbolLength? (c :: cs) = some (t, 1)) :
    cut mode (c :: cs) = (cut (mode.next t) cs).map ((t, [c]) :: ·) :=
  cut_piece (isGap_of_mem_marks hc) ((terminal?_of_mem_marks hc).trans hsymbol)

/-- A mark is cut off in the same way before anything that it is not part of, and before a blank. -/
theorem exists_symbol_of_cut (hc : c ∈ marks) (h : cut mode (c :: cs) = some pieces) :
    ∃ symbol rest t pieces', cs = symbol ++ rest ∧ symbolLength? (c :: cs) = some (t, symbol.length + 1) ∧
      (t ≠ .number ∧ t ≠ .string) ∧ cut (mode.next t) rest = some pieces' ∧ pieces = (t, c :: symbol) :: pieces' ∧
        ∀ rest, NotNext (· != ' ') rest →
          cut mode (c :: symbol ++ rest) = (cut (mode.next t) rest).map ((t, c :: symbol) :: ·) := by
  have hgap := isGap_of_mem_marks hc
  obtain ⟨t, n, pieces', hterminal, hcut, rfl⟩ := exists_piece_of_cut hgap h
  have hsymbol := (terminal?_of_mem_marks hc).symm.trans hterminal
  obtain ⟨ht, hpos, hlength, hagain⟩ := symbolLength?_eq_some hsymbol
  obtain ⟨n, rfl⟩ : ∃ m, n = m + 1 := ⟨n - 1, by omega⟩
  rw [List.length_cons] at hlength
  have htake : (cs.take n).length = n := List.length_take_of_le (by omega)
  refine ⟨cs.take n, cs.drop n, t, pieces', (List.take_append_drop n cs).symm, by rw [hsymbol, htake], ht, hcut, rfl,
    fun rest hrest => cut_append hgap ?_⟩
  rw [htake, List.cons_append, terminal?_of_mem_marks hc]
  exact hagain rest hrest

end Condition

end Relational
