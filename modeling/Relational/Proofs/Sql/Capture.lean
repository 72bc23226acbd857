import Relational.Proofs.Condition.Reading
import Relational.Proofs.Sql.Lexer
import Relational.Proofs.Sql.Limit

/-!
# The condition of a query

A condition is read twice: as the tokens of its statement, whose texts are kept with blanks between them, and then, from
the text that is kept, by its own grammar. The two cut a text at the same places but for a number with an exponent, which
a statement takes for a number and a name, and a quoted text whose closing quote is not where a statement finds it. What
is kept is the same condition if and only if there is neither.
-/

namespace Relational.Sql

open Text Condition

/-! ## Pieces that are kept -/

/-- A piece is a token of a statement: a number without an exponent, a quoted text that its last character closes and no
one before it, or any other piece. -/
def isPlain : Piece → Bool
  | (.number, text) => text.all fun c => c != 'e' && c != 'E'
  | (.string, mark :: cs) => closesAtEnd mark cs
  | _ => true

theorem isPlain_of_other {piece : Piece} (h : piece.1 ≠ .number ∧ piece.1 ≠ .string) : isPlain piece = true := by
  obtain ⟨hnumber, hstring⟩ := h
  unfold isPlain
  split
  · exact absurd rfl hnumber
  · exact absurd rfl hstring
  · rfl

/-- Pieces of a text, and those of what is kept of it: they are read alike if all of them are plain, and otherwise their
readings differ. -/
inductive Kept (pieces : List Piece) (result : Option (List Piece)) : Prop where
  | alike (hplain : ∀ piece ∈ pieces, isPlain piece = true) (pieces' : List Piece) (hresult : result = some pieces')
      (hreadings : pieces'.map Piece.reading = pieces.map Piece.reading)
  | differently (hplain : ∃ piece ∈ pieces, isPlain piece = false)
      (h : ∀ pieces', result = some pieces' → Diverges (pieces.map Piece.reading) (pieces'.map Piece.reading))

theorem Kept.append {pieces before before' : List Piece} {result : Option (List Piece)} (h : Kept pieces result)
    (hplain : ∀ piece ∈ before, isPlain piece = true)
    (hreadings : before'.map Piece.reading = before.map Piece.reading) :
    Kept (before ++ pieces) (result.map (before' ++ ·)) := by
  cases h with
  | alike hpieces pieces' hresult hpieces' =>
    refine .alike ?_ (before' ++ pieces') (by rw [hresult]; rfl) ?_
    · intro piece hpiece
      rcases List.mem_append.1 hpiece with hbefore | hafter
      · exact hplain piece hbefore
      · exact hpieces piece hafter
    · rw [List.map_append, List.map_append, hreadings, hpieces']
  | differently hpieces h =>
    obtain ⟨piece, hpiece, hother⟩ := hpieces
    refine .differently ⟨piece, List.mem_append_right before hpiece, hother⟩ fun pieces' hresult => ?_
    obtain ⟨after, hafter, rfl⟩ := Option.map_eq_some_iff.1 hresult
    rw [List.map_append, List.map_append, hreadings]
    exact (h after hafter).append _

/-- Whenever pieces of a text can be read, they are kept. -/
def ReadsKept (cs : List Char) : Prop :=
  ∀ mode pieces p q, cut mode cs = some pieces → readAll p (pieces.map Piece.reading) = some q →
    Kept pieces (cut mode (kept cs))

variable {c : Char} {cs letters rest digits : List Char} {pieces : List Piece}

theorem endsMantissa_of_blank (mantissa : List Char) (h : NotNext (· != ' ') rest) :
    EndsMantissa mantissa rest ∧ exponentLength rest = 0 := by
  cases rest with
  | nil => exact ⟨⟨notNext_nil _, fun _ => rfl⟩, rfl⟩
  | cons c cs =>
    rw [notNext_cons, bne_eq_false_iff_eq] at h
    subst h
    exact ⟨⟨notNext_cons.2 (by decide), fun _ => rfl⟩, rfl⟩

/-! ## One piece after the other -/

theorem readsKept_nil : ReadsKept [] := by
  intro mode pieces p q hcut _
  rw [cut_nil] at hcut
  cases hcut
  refine .alike (by simp) [] ?_ rfl
  rw [kept_nil, cut_nil]

theorem ReadsKept.gap (hgap : isGap c = true) (h : ReadsKept cs) : ReadsKept (c :: cs) := by
  intro mode pieces p q hcut hread
  rw [cut_gap hgap] at hcut
  rw [kept_blank (gap_class hgap).1]
  exact h mode pieces p q hcut hread

/-- No terminal stands at the start. -/
theorem readsKept_of_none (hgap : isGap c = false) (h : ∀ mode, terminal? mode (c :: cs) = none) :
    ReadsKept (c :: cs) := by
  intro mode pieces p q hcut _
  rw [cut_none hgap (h mode)] at hcut
  cases hcut

/-- Pieces are kept if they are cut off in the same way before what is kept of the rest. -/
theorem ReadsKept.step {mode mode' : Mode} {p q : Partial} {after : List Piece} (before before' : List Piece)
    (h : ReadsKept rest)
    (hread : readAll p ((before ++ after).map Piece.reading) = some q) (hafter : cut mode' rest = some after)
    (hplain : ∀ piece ∈ before, isPlain piece = true)
    (hreadings : before'.map Piece.reading = before.map Piece.reading)
    (hcut : cut mode (kept cs) = (cut mode' (kept rest)).map (before' ++ ·)) :
    Kept (before ++ after) (cut mode (kept cs)) := by
  rw [List.map_append, readAll_append, Option.bind_eq_some_iff] at hread
  obtain ⟨p', -, hread⟩ := hread
  rw [hcut]
  exact (h mode' after p' q hafter hread).append hplain hreadings

theorem ReadsKept.word (hstarts : startsWord c = true) (hword : ∀ d ∈ letters, isWordChar d = true)
    (hrest : NotNext isWordChar rest) (h : ReadsKept rest) : ReadsKept (c :: (letters ++ rest)) := by
  intro mode pieces p q hcut hread
  have hword' : ∀ d ∈ c :: letters, isWordChar d = true :=
    List.forall_mem_cons.2 ⟨isWordChar_of_startsWord hstarts, hword⟩
  have hkept := kept_word hstarts hword hrest
  cases cut_word mode hword' hstarts with
  | never hnever =>
    have hnone := hnever rest hrest
    rw [List.cons_append, hcut] at hnone
    cases hnone
  | always before mode' hbefore halways =>
    have hpieces := halways rest hrest
    rw [List.cons_append, hcut] at hpieces
    obtain ⟨after, hafter, rfl⟩ := Option.map_eq_some_iff.1 hpieces.symm
    refine h.step before before hread hafter ?_ rfl ?_
    · intro piece hpiece
      exact isPlain_of_other (hbefore piece hpiece)
    · rw [hkept, List.cons_append, cut_blank]
      exact halways _ ((notNext_kept rest).of_blank (by decide))
  | number hnumber =>
    obtain ⟨name, number, pieces', rfl⟩ := hnumber rest pieces hrest hcut
    obtain ⟨p', hname, hread⟩ := Option.bind_eq_some_iff.1 hread
    obtain ⟨p'', hread, -⟩ := Option.bind_eq_some_iff.1 hread
    cases (read_number_after_name hname).symm.trans hread

/-- What follows a number does not carry it on in a statement either, or it starts with a point. -/
theorem notNext_isNumberPart {mode : Mode} (hdigit : NotNext isDecimalDigit rest) (hcut : cut mode rest = some pieces) :
    NotNext isNumberPart rest ∨ ∃ text pieces', pieces = (.dot, text) :: pieces' := by
  cases rest with
  | nil => exact .inl (notNext_nil _)
  | cons c cs =>
    rw [notNext_cons] at hdigit ⊢
    by_cases hpoint : c = '.'
    · subst hpoint
      have hterminal : terminal? mode ('.' :: cs) = some (.dot, 1) := by
        rw [terminal?_of_not_isWordChar (by decide)]
        rfl
      rw [cut_piece (by decide) hterminal] at hcut
      obtain ⟨pieces', -, rfl⟩ := Option.map_eq_some_iff.1 hcut
      exact .inr ⟨_, pieces', rfl⟩
    · left
      rw [isNumberPart, Bool.or_eq_false_iff, beq_eq_false_iff_ne, ← Bool.not_eq_true]
      refine ⟨fun hlike => ?_, hpoint⟩
      have hword := isWordChar_of_isDigitLike hlike
      have hterminal : terminal? mode (c :: cs) = none := by
        rw [terminal?_of_not_startsWord (startsWord_of_isDigitLike hlike), otherTerminal_eq_none _ hword hdigit]
      rw [cut_none (isGap_of_isWordChar hword) hterminal] at hcut
      cases hcut

theorem isPlain_mantissa {mantissa : List Char} (h : IsMantissa mantissa) : isPlain (.number, mantissa) = true := by
  rw [isPlain, List.all_eq_true]
  intro c hc
  rw [Bool.and_eq_true, bne_iff_ne, bne_iff_ne]
  rcases h.mem hc with hdigit | rfl
  · constructor
    · rintro rfl
      revert hdigit
      decide
    · rintro rfl
      revert hdigit
      decide
  · decide

/-- An exponent becomes a name of its own. -/
theorem exists_name_of_cut_kept {mode : Mode} (hc : c = 'e' ∨ c = 'E') (h : cut mode (kept (c :: cs)) = some pieces) :
    ∃ name pieces', pieces = (.name, name) :: pieces' := by
  have hstarts : startsWord c = true := by
    rcases hc with rfl | rfl
    · decide
    · decide
  have hletters : ∀ d ∈ cs.takeWhile isWordChar, isWordChar d = true := fun d hd => List.mem_takeWhile_imp hd
  have hkept := kept_word hstarts hletters (notNext_dropWhile isWordChar cs)
  rw [List.takeWhile_append_dropWhile] at hkept
  obtain ⟨n, hterminal⟩ := terminal?_exponent mode (cs.takeWhile isWordChar ++ kept (cs.dropWhile isWordChar)) hc
  rw [hkept, List.cons_append, cut_blank, List.cons_append,
    cut_piece (isGap_of_isWordChar (isWordChar_of_startsWord hstarts)) hterminal, Option.map_eq_some_iff] at h
  obtain ⟨pieces', -, rfl⟩ := h
  exact ⟨_, pieces', rfl⟩

theorem ReadsKept.number (hmantissa : IsMantissa (c :: digits)) (hends : EndsMantissa (c :: digits) rest)
    (h : ReadsKept rest) : ReadsKept (c :: (digits ++ rest)) := by
  intro mode pieces p q hcut hread
  have hcut' := cut_number mode hmantissa hends
  rw [List.cons_append, hcut] at hcut'
  obtain ⟨after, hafter, rfl⟩ := Option.map_eq_some_iff.1 hcut'.symm
  have hdigit : isDecimalDigit c = true := by
    obtain ⟨d, digits, heq, hd⟩ := hmantissa.exists_cons
    cases heq
    exact hd
  have hparts : ∀ d ∈ digits, isNumberPart d = true := by
    intro d hd
    rw [isNumberPart, Bool.or_eq_true, beq_iff_eq]
    exact (hmantissa.mem (List.mem_cons_of_mem c hd)).imp_left isDigitLike_of_isDecimalDigit
  have hkept : NotNext isNumberPart rest → cut mode (kept (c :: (digits ++ rest))) =
      (cut .after (kept rest)).map ((.number, c :: digits) :: ·) := by
    intro hnext
    obtain ⟨hends', hexponent⟩ := endsMantissa_of_blank (c :: digits) (notNext_kept rest)
    rw [kept_number hdigit hparts hnext, List.cons_append, cut_blank, cut_number _ hmantissa hends', hexponent]
    simp
  by_cases hexponent : exponentLength rest = 0
  · rw [hexponent, List.take_zero, List.append_nil] at hread ⊢
    rw [hexponent, List.drop_zero] at hafter
    refine h.step [(.number, c :: digits)] [(.number, c :: digits)] hread hafter ?_ rfl (hkept ?_)
    · simpa using isPlain_mantissa hmantissa
    · -- after a number no point can be read
      rcases notNext_isNumberPart hends.1 hafter with hnext | ⟨text, after, rfl⟩
      · exact hnext
      · obtain ⟨p', hnumber, hread⟩ := Option.bind_eq_some_iff.1 hread
        obtain ⟨p'', hdot, -⟩ := Option.bind_eq_some_iff.1 hread
        cases (read_after_number hnumber (.inr (.inr rfl))).symm.trans hdot
  · obtain ⟨e, rest, rfl, he⟩ := exponentLength_pos hexponent
    have hnext : NotNext isNumberPart (e :: rest) := by
      rcases he with rfl | rfl
      · exact notNext_cons.2 (by decide)
      · exact notNext_cons.2 (by decide)
    refine .differently ⟨_, List.mem_cons_self, ?_⟩ fun pieces' hpieces' => ?_
    · obtain ⟨n, hn⟩ : ∃ n, exponentLength (e :: rest) = n + 1 := ⟨_, (Nat.succ_pred hexponent).symm⟩
      rw [hn, List.take_succ_cons, isPlain, List.all_eq_false]
      refine ⟨e, by simp, ?_⟩
      rcases he with rfl | rfl
      · decide
      · decide
    · rw [hkept hnext] at hpieces'
      obtain ⟨after', hafter', rfl⟩ := Option.map_eq_some_iff.1 hpieces'
      obtain ⟨name, after', rfl⟩ := exists_name_of_cut_kept he hafter'
      exact .number

theorem ReadsKept.quote (hc : c = '\'' ∨ c = '"') (h : ∀ rest, rest <:+ cs → ReadsKept rest) : ReadsKept (c :: cs) := by
  intro mode pieces p q hcut hread
  obtain ⟨body, rest, after, rfl, hafter, rfl⟩ := exists_quoted_of_cut hc hcut
  have hmark : c ≠ '\\' := by
    rcases hc with rfl | rfl
    · decide
    · decide
  have hsuffix : rest <:+ body ++ c :: rest := by
    rw [List.append_cons]
    exact List.suffix_append _ _
  have hreading : Piece.reading (.string, c :: (body ++ [c])) = (.string, String.ofList (unescape c body)) := by
    simp [Piece.reading, Token.content]
  have hkept : cut mode (kept (c :: (body ++ c :: rest))) =
      (cut .after (kept ((body ++ c :: rest).drop (stringBody c (body ++ c :: rest)).2))).map
        ((.string, quoteChars (stringBody c (body ++ c :: rest)).1) :: ·) := by
    rw [kept_quote hc, List.cons_append, cut_blank, cut_quoteChars]
    intro hslash
    rw [stringBody_unclosed hmark hslash, kept_nil]
  cases hclosed : closesAtEnd c (body ++ [c]) with
  | true =>
    have hdrop : (body ++ c :: rest).drop (body.length + 1) = rest := by
      rw [List.append_cons]
      exact List.drop_left' (by simp)
    rw [stringBody_of_closesAtEnd hmark hclosed, hdrop] at hkept
    refine (h rest hsuffix).step [(.string, c :: (body ++ [c]))] [(.string, quoteChars (unescape c body))] hread hafter
      ?_ ?_ hkept
    · simpa [isPlain] using hclosed
    · rw [List.map_singleton, List.map_singleton, hreading, reading_quoteChars]
  | false =>
    refine .differently ⟨_, List.mem_cons_self, hclosed⟩ fun pieces' hpieces' => ?_
    rw [hkept] at hpieces'
    obtain ⟨after', hafter', rfl⟩ := Option.map_eq_some_iff.1 hpieces'
    rw [List.map_cons, List.map_cons, hreading, reading_quoteChars]
    refine .quoted fun heq => ?_
    exact stringBody_ne_unescape hmark hclosed (String.ofList_injective heq).symm

theorem ReadsKept.symbol (hc : c ∈ marks) (hcomment : startsComment (c :: cs) = false)
    (h : ∀ rest, rest <:+ cs → ReadsKept rest) : ReadsKept (c :: cs) := by
  intro mode pieces p q hcut hread
  obtain ⟨symbol, rest, t, after, rfl, hsymbol, ht, hafter, rfl, hagain⟩ := exists_symbol_of_cut hc hcut
  refine (h rest (List.suffix_append _ _)).step [(t, c :: symbol)] [(t, c :: symbol)] hread hafter ?_ rfl ?_
  · rw [List.forall_mem_singleton]
    exact isPlain_of_other ht
  · rw [kept_symbol hc hsymbol hcomment, List.cons_append, cut_blank]
    exact hagain _ (notNext_kept rest)

/-! ## Whole texts -/

theorem startsComment_of_uncommented (h : ¬ ['-', '-'] <:+: cs) : startsComment cs = false := by
  unfold startsComment
  split
  · rename_i rest
    exact absurd (List.prefix_append ['-', '-'] rest).isInfix h
  · rfl

/-- What is kept of a text without comments. -/
theorem readsKept (cs : List Char) (hcomment : ¬ ['-', '-'] <:+: cs) : ReadsKept cs := by
  -- on the length of the text: whatever is cut off is followed by a shorter one
  induction hlength : cs.length using Nat.strongRecOn generalizing cs with
  | _ length ih =>
    have hshort : ∀ rest, rest <:+ cs → rest.length < length → ReadsKept rest := fun rest hsuffix hless =>
      ih _ hless rest (fun hdashes => hcomment (List.IsInfix.trans hdashes hsuffix.isInfix)) rfl
    cases cs with
    | nil => exact readsKept_nil
    | cons c cs =>
      rw [List.length_cons] at hlength
      have htail : ∀ rest, rest <:+ cs → ReadsKept rest := fun rest hsuffix =>
        hshort rest (hsuffix.trans (List.suffix_cons c cs)) (by have hle := hsuffix.length_le; omega)
      cases hgap : isGap c with
      | true => exact (htail cs (List.suffix_refl cs)).gap hgap
      | false =>
        by_cases hdigit : isDecimalDigit c = true
        · obtain ⟨mantissa, rest, happend, hmantissa, hends⟩ := exists_mantissa hdigit cs
          obtain ⟨d, digits, rfl, -⟩ := hmantissa.exists_cons
          cases happend
          exact (htail rest (List.suffix_append digits rest)).number hmantissa hends
        · rw [Bool.not_eq_true] at hdigit
          by_cases hstarts : startsWord c = true
          · have hletters : ∀ d ∈ cs.takeWhile isWordChar, isWordChar d = true := fun d hd => List.mem_takeWhile_imp hd
            have hword := ReadsKept.word hstarts hletters (notNext_dropWhile isWordChar cs)
              (htail (cs.dropWhile isWordChar) (List.dropWhile_suffix _))
            rwa [List.takeWhile_append_dropWhile] at hword
          · rw [Bool.not_eq_true] at hstarts
            by_cases hquote : c = '\'' ∨ c = '"'
            · exact .quote hquote htail
            · by_cases hmark : c ∈ marks
              · refine .symbol hmark ?_ htail
                exact startsComment_of_uncommented hcomment
              · rw [not_or] at hquote
                refine readsKept_of_none hgap fun mode => ?_
                rw [terminal?_of_not_startsWord hstarts, numberLength?_eq_none hdigit,
                  stringLength?_eq_none hquote.1 hquote.2, symbolLength?_eq_none hmark]
                rfl

/-! ## The statement around a condition -/

/-- A query takes a whole text as its condition: nothing in it ends the condition, and it is kept in this form. -/
structure Captures (text condition : String) : Prop where
  parses : parse ("SELECT * FROM t WHERE " ++ text) = .ok (.select ⟨.all, "t", some condition, none, none, none⟩)
  unended : ∀ token ∈ tokenize ("SELECT * FROM t WHERE " ++ text), token.kind ≠ .semicolon

theorem tokenizeFrom_space (position : Position) (cs : List Char) :
    tokenizeFrom position (' ' :: cs) = tokenizeFrom (position.advance ' ') cs := by
  have hgap : gap? ' ' cs = some 0 := by
    rw [gap?, if_pos (by decide)]
  rw [tokenizeFrom_gap hgap]
  rfl

/-- A word and the blank after it. -/
theorem tokenizeFrom_word {text : String} {kind : TokenKind} (position : Position) (rest : List Char)
    (htext : text.toList = c :: letters) (hstart : isWordStart c = true) (hblank : isBlank c = false) (hdash : c ≠ '-')
    (hletters : letters.all isWordChar = true) (hkind : wordKind text = kind) : ∃ position',
      tokenizeFrom position (text.toList ++ ' ' :: rest) = ⟨kind, text, position⟩ :: tokenizeFrom position' rest := by
  have hrest : NotNext isWordChar (' ' :: rest) := notNext_cons.2 (by decide)
  have hofList : String.ofList (c :: letters) = text := by
    rw [← htext, String.ofList_toList]
  refine ⟨(position.advanceOver (c :: letters)).advance ' ', ?_⟩
  rw [htext, List.cons_append, tokenizeFrom_token (gap?_eq_none hblank (startsComment_of_ne hdash)),
    lexeme_word hstart (List.all_eq_true.1 hletters) hrest, hofList, hkind]
  dsimp only
  rw [List.take_left, List.drop_left, tokenizeFrom_space]

theorem tokenize_query (text : String) : ∃ p₁ p₂ p₃ p₄ p₅ p₆, tokenize ("SELECT * FROM t WHERE " ++ text) =
    ⟨.keyword .SELECT, "SELECT", p₁⟩ :: ⟨.asterisk, "*", p₂⟩ :: ⟨.keyword .FROM, "FROM", p₃⟩ ::
      ⟨.identifier, "t", p₄⟩ :: ⟨.keyword .WHERE, "WHERE", p₅⟩ :: tokenizeFrom p₆ text.toList := by
  have hchars : ("SELECT * FROM t WHERE " ++ text).toList = "SELECT".toList ++ ' ' :: '*' :: ' ' ::
      ("FROM".toList ++ ' ' :: ("t".toList ++ ' ' :: ("WHERE".toList ++ ' ' :: text.toList))) := by
    rw [String.toList_append]
    rfl
  have hselect : ∀ position cs, ∃ position', tokenizeFrom position ("SELECT".toList ++ ' ' :: cs) =
      ⟨.keyword .SELECT, "SELECT", position⟩ :: tokenizeFrom position' cs := fun position cs =>
    tokenizeFrom_word position cs rfl (by decide) (by decide) (by decide) (by decide) (by decide +kernel)
  have hasterisk : ∀ position cs, ∃ position', tokenizeFrom position ('*' :: ' ' :: cs) =
      ⟨.asterisk, "*", position⟩ :: tokenizeFrom position' cs := by
    intro position cs
    have hgap : gap? '*' (' ' :: cs) = none := gap?_eq_none (by decide) rfl
    have hlexeme : lexeme '*' (' ' :: cs) = (.asterisk, "*", 0) := rfl
    refine ⟨(position.advance '*').advance ' ', ?_⟩
    rw [tokenizeFrom_token hgap, hlexeme]
    exact congrArg _ (tokenizeFrom_space _ cs)
  have hfrom : ∀ position cs, ∃ position', tokenizeFrom position ("FROM".toList ++ ' ' :: cs) =
      ⟨.keyword .FROM, "FROM", position⟩ :: tokenizeFrom position' cs := fun position cs =>
    tokenizeFrom_word position cs rfl (by decide) (by decide) (by decide) (by decide) (by decide +kernel)
  have htable : ∀ position cs, ∃ position', tokenizeFrom position ("t".toList ++ ' ' :: cs) =
      ⟨.identifier, "t", position⟩ :: tokenizeFrom position' cs := fun position cs =>
    tokenizeFrom_word position cs rfl (by decide) (by decide) (by decide) (by decide) (by decide +kernel)
  have hwhere : ∀ position cs, ∃ position', tokenizeFrom position ("WHERE".toList ++ ' ' :: cs) =
      ⟨.keyword .WHERE, "WHERE", position⟩ :: tokenizeFrom position' cs := fun position cs =>
    tokenizeFrom_word position cs rfl (by decide) (by decide) (by decide) (by decide) (by decide +kernel)
  rw [tokenize, hchars]
  obtain ⟨p₂, h₁⟩ := hselect .start ('*' :: ' ' ::
    ("FROM".toList ++ ' ' :: ("t".toList ++ ' ' :: ("WHERE".toList ++ ' ' :: text.toList))))
  obtain ⟨p₃, h₂⟩ := hasterisk p₂ ("FROM".toList ++ ' ' :: ("t".toList ++ ' ' :: ("WHERE".toList ++ ' ' :: text.toList)))
  obtain ⟨p₄, h₃⟩ := hfrom p₃ ("t".toList ++ ' ' :: ("WHERE".toList ++ ' ' :: text.toList))
  obtain ⟨p₅, h₄⟩ := htable p₄ ("WHERE".toList ++ ' ' :: text.toList)
  obtain ⟨p₆, h₅⟩ := hwhere p₅ text.toList
  exact ⟨.start, p₂, p₃, p₄, p₅, p₆, by rw [h₁, h₂, h₃, h₄, h₅]⟩

/-- All tokens of a text are tokens of the condition that a query takes from it. -/
theorem Captures.clause {text condition : String} (h : Captures text condition) :
    condition ≠ "" ∧ ∃ position texts, condition = " ".intercalate texts ∧
      texts = (Input.ofTokens (tokenizeFrom position text.toList)).tokens.map Parser.rendered := by
  obtain ⟨p₁, p₂, p₃, p₄, p₅, p₆, htokens⟩ := tokenize_query text
  have hparses := h.parses
  have hunended := h.unended
  rw [parse, parseTokens, htokens] at hparses
  rw [htokens] at hunended
  generalize hinput : Input.ofTokens _ = input at hparses
  have hfinish : input.finish.kind = .endOfFile := by
    rw [← hinput]
    exact kind_finish_ofTokens _
  have hmembers : ∀ token ∈ input.tokens, token.kind ≠ .semicolon ∧ token.kind ≠ .endOfFile := by
    rw [← hinput]
    intro token htoken
    obtain ⟨hmem, hkind⟩ := mem_ofTokens htoken
    exact ⟨hunended token hmem, hkind⟩
  have htokens : input.tokens = ⟨.keyword .SELECT, "SELECT", p₁⟩ :: ⟨.asterisk, "*", p₂⟩ ::
      ⟨.keyword .FROM, "FROM", p₃⟩ :: ⟨.identifier, "t", p₄⟩ :: ⟨.keyword .WHERE, "WHERE", p₅⟩ ::
        (Input.ofTokens (tokenizeFrom p₆ text.toList)).tokens := by
    rw [← hinput]
    rfl
  generalize htaken : (Input.ofTokens (tokenizeFrom p₆ text.toList)).tokens = tokens at htokens
  obtain ⟨inputTokens, finish⟩ := input
  subst htokens
  cases hscript : Parser.script.run _ with
  | error failure =>
    rw [hscript] at hparses
    cases hparses
  | ok found =>
    obtain ⟨statement, rest⟩ := found
    rw [hscript] at hparses
    cases hparses
    obtain ⟨after, hstatement, hend⟩ := Parser.script_eq_ok hscript
    replace hstatement : (Statement.select <$> Parser.select).run _ = _ := hstatement
    obtain ⟨found, hselect, hfound⟩ := Parser.run_map_eq_ok.1 hstatement
    cases hfound
    rw [Parser.select, Parser.run_bind_eq_ok] at hselect
    obtain ⟨found, afterOrder, hquery, hselect⟩ := hselect
    rw [Parser.run_bind_eq_ok] at hselect
    obtain ⟨count, afterLimit, hlimit, hpure⟩ := hselect
    -- the table is named by one word, and WHERE follows it
    replace hquery : (do
        let condition ← Parser.whereClause Parser.endsCondition
        let order ← Parser.orderClause
        pure ⟨.all, "t", condition, order, none, none⟩ : Parser Select).run
          ⟨⟨.keyword .WHERE, "WHERE", p₅⟩ :: tokens, finish⟩ = _ := hquery
    rw [Parser.run_bind_eq_ok] at hquery
    obtain ⟨where?, afterWhere, hwhere, hquery⟩ := hquery
    rw [Parser.run_bind_eq_ok] at hquery
    obtain ⟨order, afterOrder', horder, hfound⟩ := hquery
    cases hfound
    cases hpure
    cases Parser.orderClause_eq_none horder
    cases Parser.limitClause_eq_none hlimit
    obtain ⟨hne, texts, hcondition, hclause, hfinish'⟩ := Parser.whereClause_eq_some hwhere
    have htexts := Parser.clauseFrom_texts (fun kind => Parser.endsCondition kind || kind == .semicolon) 0 tokens
    replace hclause : Parser.clauseFrom _ 0 tokens = _ := hclause
    rw [hclause] at htexts
    have hsuffix := Parser.clauseFrom_suffix (fun kind => Parser.endsCondition kind || kind == .semicolon) 0 tokens
    rw [hclause] at hsuffix
    -- a token that is left would be a semicolon
    have hleft : after.tokens = [] := by
      cases hnext : after.tokens with
      | nil => rfl
      | cons token left =>
        rw [Parser.next, hnext, List.headD_cons] at hend
        rw [hnext] at hsuffix
        obtain ⟨hsemicolon, hendOfFile⟩ := hmembers token (by simp [hsuffix.subset List.mem_cons_self])
        exact absurd hend (not_or.2 ⟨hsemicolon, hendOfFile⟩)
    rw [hleft, List.map_nil, List.append_nil] at htexts
    exact ⟨hne, p₆, texts, hcondition, by rw [htaken]; exact htexts⟩

/-- The condition of a query is what is kept of its text. -/
theorem Captures.kept_eq {text condition : String} (h : Captures text condition) :
    kept text.toList = ' ' :: condition.toList := by
  obtain ⟨hne, position, texts, rfl, htexts⟩ := h.clause
  have hkept : kept text.toList = texts.flatMap fun text => ' ' :: text.toList := by
    rw [← keptFrom_eq position, keptFrom, htexts, List.flatMap_map]
  rw [hkept]
  apply flatMap_blank
  rintro rfl
  exact hne rfl

/-- A text that can be read as a condition by itself is read as the same condition in a query if and only if no number in
it has an exponent and each quoted text in it is closed by its last character and no one before it. -/
theorem compile_captured_iff {text condition : String} {c : Condition} (hcomment : ¬ ['-', '-'] <:+: text.toList)
    (hcompile : compile text = .ok c) (hcaptures : Captures text condition) : compile condition = .ok c ↔
      ∀ token ∈ (Condition.scan text.toList).1, isPlain (token.terminal, token.text) = true := by
  obtain ⟨pieces, q, hcut, hread, hfinish⟩ := compile_eq_ok.1 hcompile
  have htokens := ((cut_eq_some_iff .start).1 hcut).2
  have hplain : (∀ token ∈ (Condition.scan text.toList).1, isPlain (token.terminal, token.text) = true) ↔
      ∀ piece ∈ pieces, isPlain piece = true := by
    rw [← htokens, List.forall_mem_map]
    rfl
  have hkept := readsKept text.toList hcomment .predicate pieces _ q hcut hread
  rw [hcaptures.kept_eq, cut_blank] at hkept
  rw [hplain, compile_eq_ok]
  cases hkept with
  | alike hplain pieces' hresult hreadings =>
    refine iff_of_true ⟨pieces', q, hresult, ?_, hfinish⟩ hplain
    rw [hreadings]
    exact hread
  | differently hother hdiverges =>
    refine iff_of_false ?_ ?_
    · rintro ⟨pieces', q', hresult, hread', hfinish'⟩
      exact (hdiverges pieces' hresult).condition_ne hread hread' hfinish hfinish' rfl
    · intro hall
      obtain ⟨piece, hpiece, hnot⟩ := hother
      rw [hall piece hpiece] at hnot
      cases hnot

/-- A text between double quotes is kept between single ones. -/
theorem compile_requoted : (¬ ['-', '-'] <:+: "x = \"it's\" OR y<1.50".toList) ∧
    Captures "x = \"it's\" OR y<1.50" "x = 'it\\'s' OR y < 1.50" ∧
      compile "x = 'it\\'s' OR y < 1.50" = .ok (.logic .or
        (.compare .eq (.column none "x") (.literal (.string "it's")))
        (.compare .lt (.column none "y") (.literal (.number "1.50")))) := by
  have hcomment : ¬ ['-', '-'] <:+: "x = \"it's\" OR y<1.50".toList := by
    decide +kernel
  have hcompile : compile "x = \"it's\" OR y<1.50" = .ok (.logic .or
      (.compare .eq (.column none "x") (.literal (.string "it's")))
      (.compare .lt (.column none "y") (.literal (.number "1.50")))) := by
    with_unfolding_all rfl
  have hcaptures : Captures "x = \"it's\" OR y<1.50" "x = 'it\\'s' OR y < 1.50" := by
    constructor
    · with_unfolding_all rfl
    · decide +kernel
  refine ⟨hcomment, hcaptures, (compile_captured_iff hcomment hcompile hcaptures).2 ?_⟩
  decide +kernel

/-- A number with an exponent is kept as a number and a name, which is no condition. -/
theorem exponent_misread : (¬ ['-', '-'] <:+: "x < 1e5".toList) ∧
    compile "x < 1e5" = .ok (.compare .lt (.column none "x") (.literal (.number "1e5"))) ∧
      Captures "x < 1e5" "x < 1 e5" ∧ ∀ c, compile "x < 1 e5" ≠ .ok c := by
  have hcompile : compile "x < 1e5" = .ok (.compare .lt (.column none "x") (.literal (.number "1e5"))) := by
    with_unfolding_all rfl
  have hcaptures : Captures "x < 1e5" "x < 1 e5" := by
    constructor
    · with_unfolding_all rfl
    · decide +kernel
  have hfails : compile "x < 1 e5" =
      refuse (.condition (some "x < 1 e5") (.unexpected ⟨.name, ['e', '5'], ⟨1, 7⟩⟩)) := by
    with_unfolding_all rfl
  refine ⟨by decide +kernel, hcompile, hcaptures, fun c hc => ?_⟩
  rw [hfails] at hc
  simp at hc

end Relational.Sql
