import Relational.Proofs.Sql.Lexer

/-!
# Where the tokens of a text stand

The tokens of a text and the gaps between them tile it: one after the other they are the whole text, so no character is
lost and none is read twice. A gap is white space and comments. A token other than a string literal is the piece of text
that it stands for, a string literal is that piece without its quotes, and the position of a token counts the lines and
the characters before it.
-/

namespace Relational

namespace Text.Position

variable {p q r : Position} {c : Char} {cs : List Char}

/-- The place of what follows some text from its start. Lines and columns are counted from one, and each newline starts
a line. -/
def after (before : List Char) : Position :=
  ⟨before.count '\n' + 1, (before.reverse.takeWhile (· != '\n')).length + 1⟩

theorem advance_after (before : List Char) (c : Char) : (after before).advance c = after (before ++ [c]) := by
  unfold advance
  split
  · rename_i hc
    simp [after, hc]
  · rename_i hc
    simp [after, hc]

theorem advanceOver_after (before cs : List Char) : (after before).advanceOver cs = after (before ++ cs) := by
  induction cs generalizing before with
  | nil => simp [advanceOver]
  | cons c cs ih =>
    have hstep : (after before).advanceOver (c :: cs) = ((after before).advance c).advanceOver cs := rfl
    rw [hstep, advance_after, ih, List.append_assoc]
    rfl

/-- One place is on an earlier line than another, or on the same line and further left. -/
def Before (p q : Position) : Prop :=
  p.line < q.line ∨ p.line = q.line ∧ p.column < q.column

theorem Before.trans (h : p.Before q) (h' : q.Before r) : p.Before r := by
  unfold Before at *
  omega

theorem before_advance (p : Position) (c : Char) : p.Before (p.advance c) := by
  unfold advance Before
  split
  · exact .inl (Nat.lt_succ_self _)
  · exact .inr ⟨rfl, Nat.lt_succ_self _⟩

theorem before_advanceOver (p : Position) (c : Char) (cs : List Char) : p.Before (p.advanceOver (c :: cs)) := by
  induction cs generalizing p c with
  | nil => exact before_advance p c
  | cons d cs ih => exact (before_advance p c).trans (ih (p.advance c) d)

/-- What is reached from a place after some text is behind it. -/
theorem before_of_reached (h : q = p.advanceOver (c :: cs) ∨ (p.advanceOver (c :: cs)).Before q) : p.Before q := by
  rcases h with rfl | h
  · exact before_advanceOver p c cs
  · exact (before_advanceOver p c cs).trans h

end Text.Position

namespace Sql

open Text Condition

variable {before cs : List Char} {c : Char} {position : Position} {tokens : List Token}

/-! ## Gaps and tiles -/

/-- White space and comments. A comment runs to the end of its line; only in the last gap of a text may it run to the
end of the text instead. -/
inductive IsGap (last : Bool) : List Char → Prop where
  | nil : IsGap last []
  | blank {c : Char} {cs : List Char} (hc : isBlank c = true) (hcs : IsGap last cs) : IsGap last (c :: cs)
  | comment {body cs : List Char} (hbody : '\n' ∉ body) (hcs : IsGap last cs) :
    IsGap last ('-' :: '-' :: (body ++ '\n' :: cs))
  | unended {body : List Char} (hlast : last = true) (hbody : '\n' ∉ body) : IsGap last ('-' :: '-' :: body)

/-- A token with the gap before it and the piece of text that it was read from. -/
structure Tile where
  gap : List Char
  token : Token
  source : List Char

/-- The text under a tile. -/
def Tile.chars (tile : Tile) : List Char :=
  tile.gap ++ tile.source

/-- A token is read from its source. The source of a string literal starts with a quote and ends with the same one, or
with the text; between them it is the content of the literal, but for the backslashes that escape the quote. -/
structure Token.ReadFrom (token : Token) (source : List Char) : Prop where
  kind_ne : token.kind ≠ .endOfFile
  starts : ∃ c cs, source = c :: cs ∧ isBlank c = false
  verbatim : token.kind ≠ .string → token.text.toList = source
  quoted : token.kind = .string → ∃ mark body closing, (mark = '\'' ∨ mark = '"') ∧
    (closing = [mark] ∨ closing = []) ∧ source = mark :: (body ++ closing) ∧ token.text.toList = unescape mark body

/-- Tiles and a last gap make up a text that follows `before`, and `tokens` are the tokens of the tiles and one for the
end of the text. -/
structure Tiles (before : List Char) (tiles : List Tile) (ending cs : List Char) (tokens : List Token) : Prop where
  chars_eq : cs = tiles.flatMap Tile.chars ++ ending
  tokens_eq : tokens = tiles.map Tile.token ++ [⟨.endOfFile, "", .after (before ++ cs)⟩]
  gap_ending : IsGap true ending
  gap : ∀ tile ∈ tiles, IsGap false tile.gap
  source : ∀ tile ∈ tiles, tile.token.ReadFrom tile.source
  position : ∀ earlier tile later, tiles = earlier ++ tile :: later →
    tile.token.position = .after (before ++ earlier.flatMap Tile.chars ++ tile.gap)

/-! ## The source of a token -/

/-- What is read of a string literal: a body, and its closing quote if it has one. -/
theorem exists_body_of_stringBody {mark : Char} (hmark : mark ≠ '\\') (cs : List Char) :
    ∃ body closing, (closing = [mark] ∨ closing = []) ∧ cs.take (stringBody mark cs).2 = body ++ closing ∧
      (stringBody mark cs).1 = unescape mark body := by
  induction cs using quoted_induction mark with
  | nil => exact ⟨[], [], .inr rfl, rfl, rfl⟩
  | escape cs ih =>
    obtain ⟨body, closing, hclosing, htake, hcontent⟩ := ih
    refine ⟨'\\' :: mark :: body, closing, hclosing, ?_, ?_⟩
    · rw [stringBody_escape, List.take_succ_cons, List.take_succ_cons, htake]
      rfl
    · rw [stringBody_escape, hcontent, unescape, if_pos (by simp)]
  | close cs =>
    refine ⟨[], [mark], .inl rfl, ?_, ?_⟩
    · rw [stringBody_close hmark]
      rfl
    · rw [stringBody_close hmark]
      rfl
  | other c cs hc hnext ih =>
    obtain ⟨body, closing, hclosing, htake, hcontent⟩ := ih
    have hnext' : c = '\\' → NotNext (· == mark) body := by
      intro hslash
      cases body with
      | nil => exact notNext_nil _
      | cons d body =>
        -- the body starts as the text does
        cases cs with
        | nil => simp at htake
        | cons e cs =>
          have hcs := hnext hslash
          cases hn : (stringBody mark (e :: cs)).2 with
          | zero =>
            rw [hn] at htake
            cases htake
          | succ n =>
            rw [hn, List.take_succ_cons, List.cons_append] at htake
            rw [← (List.cons.inj htake).1]
            simpa using hcs
    refine ⟨c :: body, closing, hclosing, ?_, ?_⟩
    · rw [stringBody_other hc hnext, List.take_succ_cons, htake]
      rfl
    · rw [stringBody_other hc hnext, hcontent, unescape_cons hnext']

theorem symbol?_ne_string {kind : TokenKind} {n : Nat} (h : symbol? cs = some (kind, n)) : kind ≠ .string := by
  unfold symbol? at h
  split at h
  case h_18 => cases h
  all_goals
    cases h
    decide

/-- A token has the text that it takes, unless it is a string literal, which has the content of its body. -/
theorem lexeme_text (c : Char) (cs : List Char) :
    (lexeme c cs).1 ≠ .string ∧ (lexeme c cs).2.1 = String.ofList (c :: cs.take (lexeme c cs).2.2) ∨
      (c = '\'' ∨ c = '"') ∧ lexeme c cs = (.string, String.ofList (stringBody c cs).1, (stringBody c cs).2) := by
  have htaken : ∀ p : Char → Bool, cs.takeWhile p = cs.take (cs.takeWhile p).length := fun p =>
    List.prefix_iff_eq_take.1 (List.takeWhile_prefix p)
  unfold lexeme
  split
  · dsimp only
    exact .inl ⟨wordKind_ne_string _, by rw [← htaken]⟩
  · split
    · dsimp only
      exact .inl ⟨by simp, by rw [← htaken]⟩
    · split
      · rename_i hquote
        exact .inr ⟨by simpa using hquote, rfl⟩
      · split
        · rename_i hsymbol
          exact .inl ⟨symbol?_ne_string hsymbol, rfl⟩
        · exact .inl ⟨by simp, rfl⟩

theorem readFrom_lexeme (h : gap? c cs = none) (position : Position) :
    Token.ReadFrom ⟨(lexeme c cs).1, (lexeme c cs).2.1, position⟩ (c :: cs.take (lexeme c cs).2.2) := by
  have hblank : isBlank c = false := by
    unfold gap? at h
    split at h
    · cases h
    · rename_i hblank
      simpa using hblank
  refine ⟨kind_lexeme c cs, ⟨c, _, rfl, hblank⟩, fun hkind => ?_, fun hkind => ?_⟩
  · rcases lexeme_text c cs with ⟨-, htext⟩ | ⟨-, hlexeme⟩
    · dsimp only
      rw [htext, String.toList_ofList]
    · exact absurd (congrArg Prod.fst hlexeme) hkind
  · rcases lexeme_text c cs with ⟨hne, -⟩ | ⟨hquote, hlexeme⟩
    · exact absurd hkind hne
    · have hmark : c ≠ '\\' := by
        rintro rfl
        rcases hquote with hquote | hquote
        · cases hquote
        · cases hquote
      obtain ⟨body, closing, hclosing, htake, hcontent⟩ := exists_body_of_stringBody hmark cs
      refine ⟨c, body, closing, hquote, hclosing, ?_, ?_⟩
      · rw [hlexeme, ← htake]
      · rw [hlexeme, ← hcontent, String.toList_ofList]

/-! ## Tiling -/

theorem gap?_of_isBlank (h : isBlank c = true) : gap? c cs = some 0 :=
  if_pos h

namespace Tiles

variable {tiles : List Tile} {ending chunk : List Char}

theorem nil (before : List Char) : Tiles before [] [] [] [⟨.endOfFile, "", .after before⟩] where
  chars_eq := rfl
  tokens_eq := by simp
  gap_ending := .nil
  gap := by simp
  source := by simp
  position := by simp

/-- A text that ends within a comment. -/
theorem comment {body : List Char} (hbody : '\n' ∉ body) (before : List Char) :
    Tiles before [] ('-' :: '-' :: body) ('-' :: '-' :: body)
      [⟨.endOfFile, "", .after (before ++ '-' :: '-' :: body)⟩] where
  chars_eq := rfl
  tokens_eq := rfl
  gap_ending := .unended rfl hbody
  gap := by simp
  source := by simp
  position := by simp

/-- A gap before a text is part of the gap before its first token, or of its last gap. -/
theorem widen (hchunk : ∀ last cs, IsGap last cs → IsGap last (chunk ++ cs))
    (h : Tiles (before ++ chunk) tiles ending cs tokens) :
    ∃ tiles ending, Tiles before tiles ending (chunk ++ cs) tokens := by
  obtain ⟨hchars, htokens, hending, hgap, hsource, hposition⟩ := h
  cases tiles with
  | nil =>
    refine ⟨[], chunk ++ ending, ?_, ?_, hchunk _ _ hending, by simp, by simp, by simp⟩
    · rw [hchars]
      rfl
    · rw [htokens, List.append_assoc]
  | cons tile tiles =>
    rw [List.forall_mem_cons] at hgap hsource
    refine ⟨{ tile with gap := chunk ++ tile.gap } :: tiles, ending, ?_, ?_, hending, ?_, ?_, ?_⟩
    · simp [hchars, Tile.chars]
    · rw [htokens, List.append_assoc]
      rfl
    · exact List.forall_mem_cons.2 ⟨hchunk _ _ hgap.1, hgap.2⟩
    · exact List.forall_mem_cons.2 hsource
    · intro earlier other later hsplit
      cases earlier with
      | nil =>
        cases hsplit
        simpa using hposition [] tile tiles rfl
      | cons first earlier =>
        cases hsplit
        simpa [Tile.chars] using hposition (tile :: earlier) other later rfl

/-- A token at the start of a text. -/
theorem token {token : Token} {source : List Char} (hsource : token.ReadFrom source)
    (hposition : token.position = .after before) (h : Tiles (before ++ source) tiles ending cs tokens) :
    Tiles before (⟨[], token, source⟩ :: tiles) ending (source ++ cs) (token :: tokens) where
  chars_eq := by simp [h.chars_eq, Tile.chars]
  tokens_eq := by
    rw [h.tokens_eq, List.append_assoc]
    rfl
  gap_ending := h.gap_ending
  gap := List.forall_mem_cons.2 ⟨.nil, h.gap⟩
  source := List.forall_mem_cons.2 ⟨hsource, h.source⟩
  position := by
    intro earlier other later hsplit
    cases earlier with
    | nil =>
      cases hsplit
      simpa using hposition
    | cons first earlier =>
      cases hsplit
      simpa [Tile.chars] using h.position earlier other later rfl

end Tiles

/-- A comment is two dashes and what stands before the next newline. -/
theorem exists_comment (h : startsComment (c :: cs) = true) : ∃ body, c = '-' ∧
    cs.takeWhile isCommentPart = '-' :: body ∧ '\n' ∉ body ∧
      (cs = '-' :: body ∨ ∃ rest, cs = '-' :: (body ++ '\n' :: rest)) := by
  unfold startsComment at h
  split at h
  · rename_i cs heq
    cases heq
    refine ⟨cs.takeWhile isCommentPart, rfl, List.takeWhile_cons_of_pos (by decide), fun hmem => ?_, ?_⟩
    · have hpart := List.mem_takeWhile_imp hmem
      simp [isCommentPart] at hpart
    · have hsplit := @List.takeWhile_append_dropWhile _ isCommentPart cs
      have hnext := notNext_dropWhile isCommentPart cs
      cases hrest : cs.dropWhile isCommentPart with
      | nil =>
        rw [hrest, List.append_nil] at hsplit
        rw [hsplit]
        exact .inl rfl
      | cons d rest =>
        rw [hrest] at hsplit hnext
        obtain rfl : d = '\n' := by simpa [isCommentPart] using hnext
        exact .inr ⟨rest, congrArg _ hsplit.symm⟩
  · cases h

/-- The tokens of a text tile it. -/
theorem exists_tiles (before cs : List Char) :
    ∃ tiles ending, Tiles before tiles ending cs (tokenizeFrom (.after before) cs) := by
  -- on the length of the text: a blank, a comment with its newline and a token are followed by a shorter one
  induction hlength : cs.length using Nat.strongRecOn generalizing before cs with
  | _ length ih =>
    subst hlength
    cases cs with
    | nil =>
      rw [tokenizeFrom_nil]
      exact ⟨[], [], .nil before⟩
    | cons c cs =>
      cases hgap : gap? c cs with
      | none =>
        rw [tokenizeFrom_token hgap, Position.advanceOver_after]
        obtain ⟨tiles, ending, htiles⟩ := ih _ (by simp only [List.length_drop, List.length_cons]; omega)
          (before ++ c :: cs.take (lexeme c cs).2.2) (cs.drop (lexeme c cs).2.2) rfl
        have htoken := htiles.token (readFrom_lexeme hgap (.after before)) rfl
        rw [List.cons_append, List.take_append_drop] at htoken
        exact ⟨_, ending, htoken⟩
      | some n =>
        rw [tokenizeFrom_gap hgap, Position.advanceOver_after]
        unfold gap? at hgap
        split at hgap
        · rename_i hblank
          cases hgap
          obtain ⟨tiles, ending, htiles⟩ := ih cs.length (by simp) (before ++ [c]) cs rfl
          exact htiles.widen fun _ _ hcs => .blank hblank hcs
        · split at hgap
          · rename_i hcomment
            cases hgap
            obtain ⟨body, rfl, htake, hbody, rfl | ⟨rest, rfl⟩⟩ := exists_comment hcomment
            · rw [htake, List.take_length, List.drop_length, tokenizeFrom_nil]
              exact ⟨[], _, .comment hbody before⟩
            · rw [htake, List.length_cons, List.take_succ_cons, List.take_left, List.drop_succ_cons, List.drop_left,
                tokenizeFrom_gap (gap?_of_isBlank (by decide)), Position.advanceOver_after]
              obtain ⟨tiles, ending, htiles⟩ := ih rest.length (by simp; omega)
                (before ++ '-' :: '-' :: (body ++ ['\n'])) rest rfl
              have hwide := htiles.widen fun last cs hcs => by
                simpa using IsGap.comment hbody hcs
              simpa using hwide
          · cases hgap

/-! ## Order of the positions -/

/-- No token stands before the place where its text starts. -/
theorem position_of_mem_tokenizeFrom {token : Token} (h : token ∈ tokenizeFrom position cs) :
    token.position = position ∨ position.Before token.position := by
  fun_induction tokenizeFrom position cs with
  | case1 position =>
    rw [List.mem_singleton] at h
    exact .inl (congrArg Token.position h)
  | case2 position c cs n hgap ih => exact .inr (Position.before_of_reached (ih h))
  | case3 position c cs hgap kind text n hlexeme ih =>
    rw [List.mem_cons] at h
    rcases h with rfl | h
    · exact .inl rfl
    · exact .inr (Position.before_of_reached (ih h))

/-- Each token stands before those that come after it. -/
theorem pairwise_tokenizeFrom (position : Position) (cs : List Char) :
    (tokenizeFrom position cs).Pairwise fun token later => token.position.Before later.position := by
  fun_induction tokenizeFrom position cs with
  | case1 position => exact List.pairwise_singleton _ _
  | case2 position c cs n hgap ih => exact ih
  | case3 position c cs hgap kind text n hlexeme ih =>
    exact List.pairwise_cons.2 ⟨fun later hlater => Position.before_of_reached (position_of_mem_tokenizeFrom hlater), ih⟩

/-- The tokens of a text tile it: the last one is the only one for its end, each stands where the text before it ends, and
each is read from its piece of the text. -/
theorem tokenize_tiles (text : String) : (∃ tiles ending, Tiles [] tiles ending text.toList (tokenize text)) ∧
    (tokenize text).Pairwise fun token later => token.position.Before later.position :=
  ⟨exists_tiles [] text.toList, pairwise_tokenizeFrom .start text.toList⟩

end Sql

end Relational
