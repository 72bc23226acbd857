import Relational.Proofs.Sql.Lexer
import Relational.Proofs.Sql.Passing

/-!
# The keys of ORDER BY

The parser of a query turns the keys of ORDER BY into one text with commas in it, and this text is cut into keys again
when the query runs. What comes out are the keys as they stand in the query, because the name of a column is a word:
there is neither a comma nor a blank in it.
-/

namespace Relational.Sql

open Text Condition

/-! ## Cutting at commas and blanks -/

section Cutting

variable {sep : Char} {part rest : List Char}

theorem splitAt_sep (sep : Char) (cs : List Char) : splitAt sep (sep :: cs) = [] :: splitAt sep cs :=
  if_pos rfl

theorem splitAt_ne_nil (sep : Char) (cs : List Char) : splitAt sep cs ≠ [] := by
  cases cs with
  | nil => simp [splitAt]
  | cons c cs =>
    rw [splitAt, List.foldr_cons]
    split
    · simp
    · split
      · simp
      · simp

theorem splitAt_append (h : ∀ c ∈ part, c ≠ sep) (rest : List Char) :
    splitAt sep (part ++ rest) = (part ++ (splitAt sep rest).head (splitAt_ne_nil sep rest)) ::
      (splitAt sep rest).tail := by
  induction part with
  | nil => exact (List.cons_head_tail _).symm
  | cons c part ih =>
    rw [List.forall_mem_cons] at h
    replace ih := ih h.2
    rw [splitAt] at ih
    rw [List.cons_append, splitAt, List.foldr_cons, if_neg h.1, ih]
    rfl

theorem wordsFrom_append (h : ∀ c ∈ part, isBlank c = false) (word rest : List Char) :
    wordsFrom word (part ++ rest) = wordsFrom (part.reverse ++ word) rest := by
  induction part generalizing word with
  | nil => rfl
  | cons c part ih =>
    rw [List.forall_mem_cons] at h
    rw [List.cons_append, wordsFrom, if_neg (by simp [h.1]), ih h.2]
    simp

theorem wordsFrom_word (hne : part ≠ []) (h : ∀ c ∈ part, isBlank c = false) : wordsFrom [] part = [part] := by
  have hcut := wordsFrom_append h [] []
  rw [List.append_nil, List.append_nil] at hcut
  rw [hcut, wordsFrom, if_neg (by simp [hne]), List.reverse_reverse]

theorem wordsFrom_word_space (hne : part ≠ []) (h : ∀ c ∈ part, isBlank c = false) (rest : List Char) :
    wordsFrom [] (part ++ ' ' :: rest) = part :: wordsFrom [] rest := by
  rw [wordsFrom_append h, List.append_nil, wordsFrom, if_pos (by decide), if_neg (by simp [hne]), List.reverse_reverse]

end Cutting

/-! ## Names -/

/-- A text that is a word. -/
structure IsWord (text : String) : Prop where
  ne : text.toList ≠ []
  word : ∀ c ∈ text.toList, isWordChar c = true

theorem IsWord.not_isBlank {text : String} (h : IsWord text) : ∀ c ∈ text.toList, isBlank c = false :=
  fun c hc => isBlank_of_isWordChar (h.word c hc)

/-- Only a word names anything. -/
theorem isWordStart_of_isName {c : Char} {cs : List Char} (h : (lexeme c cs).1.isName = true) :
    isWordStart c = true := by
  have hsymbol : ∀ cs kind n, symbol? cs = some (kind, n) → kind.isName = false := by
    intro cs kind n h
    unfold symbol? at h
    split at h
    case h_18 => cases h
    all_goals
      cases h
      rfl
  unfold lexeme at h
  split at h
  · rename_i hstart
    exact hstart
  · split at h
    · cases h
    · split at h
      · cases h
      · split at h
        · rename_i hfound
          rw [hsymbol _ _ _ hfound] at h
          cases h
        · cases h

theorem isWordChar_of_isWordStart {c : Char} (h : isWordStart c = true) : isWordChar c = true := by
  rw [isWordStart, Bool.or_eq_true] at h
  rw [isWordChar, Bool.or_eq_true]
  exact h.symm.imp_right isLetterOrNumber_of_isLetter

theorem isName_lexeme (c : Char) (cs : List Char) (h : (lexeme c cs).1.isName = true) : IsWord (lexeme c cs).2.1 := by
  have hstart := isWordStart_of_isName h
  rw [lexeme, if_pos hstart]
  refine ⟨by simp, ?_⟩
  rw [String.toList_ofList, List.forall_mem_cons]
  exact ⟨isWordChar_of_isWordStart hstart, fun d hd => List.mem_takeWhile_imp hd⟩

/-- The name of a table or a column is a word. -/
theorem isWord_of_isName {position : Position} {cs : List Char} {token : Token}
    (htoken : token ∈ tokenizeFrom position cs) (hname : token.kind.isName = true) : IsWord token.text := by
  induction position, cs using tokenizeFrom.induct with
  | case1 position =>
    rw [tokenizeFrom_nil, List.mem_singleton] at htoken
    subst htoken
    cases hname
  | case2 position c cs n hgap ih =>
    rw [tokenizeFrom_gap hgap] at htoken
    exact ih htoken
  | case3 position c cs hgap kind text n hlexeme ih =>
    rw [tokenizeFrom_token hgap, hlexeme, List.mem_cons] at htoken
    rcases htoken with rfl | htoken
    · have hword := isName_lexeme c cs
      rw [hlexeme] at hword
      exact hword hname
    · exact ih htoken

/-! ## Keys -/

/-- The text of a key in which the column is a word. -/
inductive KeyText : String → OrderKey → Prop where
  | column {column : String} (hword : IsWord column) : KeyText column ⟨column, false⟩
  | ascending {column : String} (hword : IsWord column) : KeyText (column ++ " ASC") ⟨column, false⟩
  | descending {column : String} (hword : IsWord column) : KeyText (column ++ " DESC") ⟨column, true⟩

/-- The key that a part of the text of ORDER BY stands for. -/
def keyOfPart (part : List Char) : Option OrderKey :=
  match wordsFrom [] part with
  | [] => none
  | column :: rest => some ⟨String.ofList column, rest.head?.any fun word => upper (String.ofList word) == "DESC"⟩

theorem orderKeys_eq (text : String) : orderKeys text = (splitAt ',' text.toList).filterMap keyOfPart := rfl

theorem KeyText.keyOfPart {text : String} {key : OrderKey} (h : KeyText text key) :
    keyOfPart text.toList = some key := by
  cases h with
  | column hword =>
    rw [Sql.keyOfPart, wordsFrom_word hword.ne hword.not_isBlank]
    simp
  | ascending hword =>
    have hcut : wordsFrom [] (_ ++ " ASC".toList) = _ := wordsFrom_word_space hword.ne hword.not_isBlank ['A', 'S', 'C']
    rw [Sql.keyOfPart, String.toList_append, hcut]
    simp only [String.ofList_toList]
    rfl
  | descending hword =>
    have hcut : wordsFrom [] (_ ++ " DESC".toList) = _ :=
      wordsFrom_word_space hword.ne hword.not_isBlank ['D', 'E', 'S', 'C']
    rw [Sql.keyOfPart, String.toList_append, hcut]
    simp only [String.ofList_toList]
    rfl

namespace Parser

variable {α β : Type} {input between rest : Input} {text : String} {used : List Token}

/-- What a parser leaves is the end of its tokens. -/
structure Leaves (p : Parser α) : Prop where
  suffix : ∀ {input rest : Input} {a : α}, p.run input = .ok (a, rest) → rest.tokens <:+ input.tokens

namespace Leaves

variable {p q : Parser α}

theorem pure (a : α) : Leaves (Pure.pure a) where
  suffix h := by
    cases h
    exact List.suffix_refl _

theorem bind {f : α → Parser β} (hp : Leaves p) (hf : ∀ a, Leaves (f a)) : Leaves (p >>= f) where
  suffix h := by
    obtain ⟨a, between, hfirst, hsecond⟩ := run_bind_eq_ok.1 h
    exact ((hf a).suffix hsecond).trans (hp.suffix hfirst)

theorem map (hp : Leaves p) (g : α → β) : Leaves (g <$> p) := by
  rw [map_eq_pure_bind]
  exact hp.bind fun a => .pure (g a)

theorem ite {c : Prop} [Decidable c] (hp : Leaves p) (hq : Leaves q) : Leaves (if c then p else q) := by
  split
  · exact hp
  · exact hq

theorem mismatch (expected : String) : Leaves (Parser.mismatch expected : Parser α) :=
  ⟨fun h => absurd h mismatch_ne_ok⟩

theorem current : Leaves current where
  suffix h := by
    cases h
    exact List.suffix_refl _

theorem advance : Leaves advance where
  suffix h := by
    cases h
    exact List.tail_suffix _

theorem sees (test : TokenKind → Bool) : Leaves (sees test) :=
  current.bind fun _ => .pure _

theorem takes (kind : TokenKind) : Leaves (takes kind) :=
  (sees _).bind fun _ => .ite (advance.bind fun _ => .pure _) (.pure _)

theorem expect (kind : TokenKind) : Leaves (expect kind) :=
  (takes kind).bind fun _ => .ite (.pure _) (.mismatch _)

theorem name : Leaves name :=
  (sees _).bind fun _ => .ite (advance.bind fun _ => .pure _) (.mismatch _)

theorem moreItems (hp : Leaves p) (fuel : Nat) : Leaves (moreItems p fuel) := by
  induction fuel with
  | zero => exact .pure _
  | succ fuel ih => exact (takes _).bind fun _ => .ite (hp.bind fun _ => ih.bind fun _ => .pure _) (.pure _)

theorem get : Leaves (MonadState.get : Parser Input) where
  suffix h := by
    cases h
    exact List.suffix_refl _

theorem items (hp : Leaves p) : Leaves (items p) :=
  hp.bind fun _ => get.bind fun _ => (hp.moreItems _).bind fun _ => .pure _

theorem clause (stop : TokenKind → Bool) : Leaves (clause stop) where
  suffix {input rest text} h := by
    obtain ⟨texts, -, hclause, -⟩ := clause_eq_ok.1 h
    have hsuffix := clauseFrom_suffix stop 0 input.tokens
    rwa [hclause] at hsuffix

theorem whereClause (stop : TokenKind → Bool) : Leaves (whereClause stop) :=
  (takes _).bind fun _ => .ite ((clause _).bind fun _ => .ite ((mismatch _).bind fun _ => .pure _) (.pure _)) (.pure _)

end Leaves

/-- A parser of queries reads ORDER BY at last. -/
structure OrdersLast (p : Parser Select) : Prop where
  last : ∀ {input rest : Input} {found : Select}, p.run input = .ok (found, rest) →
    ∃ between, between.tokens <:+ input.tokens ∧ orderClause.run between = .ok (found.order, rest)

namespace OrdersLast

theorem bind {p : Parser α} {f : α → Parser Select} (hp : Leaves p) (hf : ∀ a, OrdersLast (f a)) :
    OrdersLast (p >>= f) where
  last h := by
    obtain ⟨a, between, hfirst, hsecond⟩ := run_bind_eq_ok.1 h
    obtain ⟨last, hsuffix, horder⟩ := (hf a).last hsecond
    exact ⟨last, hsuffix.trans (hp.suffix hfirst), horder⟩

theorem either {c : Prop} [Decidable c] {p q : Parser α} {f : α → Parser Select} (hp : Leaves p) (hq : Leaves q)
    (hf : ∀ a, OrdersLast (f a)) : OrdersLast (if c then p >>= f else q >>= f) := by
  split
  · exact .bind hp hf
  · exact .bind hq hf

theorem orderClause (found : Option String → Select) (h : ∀ order, (found order).order = order) :
    OrdersLast (orderClause >>= fun order => pure (found order)) where
  last {input rest result} hrun := by
    obtain ⟨order, between, horder, hpure⟩ := run_bind_eq_ok.1 hrun
    cases hpure
    exact ⟨input, List.suffix_refl _, by rwa [h]⟩

theorem query : OrdersLast query :=
  .bind (.expect _) fun _ => .bind (.takes _) fun _ => .either (.pure _) ((Leaves.items .name).map _) fun _ =>
    .bind (.expect _) fun _ => .bind .name fun _ => .bind (.sees _) fun _ => .either ((Leaves.clause _).map _) (.pure _)
      fun _ => .bind (.whereClause _) fun _ => .orderClause _ fun _ => rfl

end OrdersLast

end Parser

/-- Queries can be compared, while statements cannot. -/
theorem parse_eq_select {text : String} {statement : Select}
    (h : (match parse text with
      | .ok (.select found) => some found
      | _ => none) = some statement) : parse text = .ok (.select statement) := by
  split at h
  · rename_i hparse
    rw [hparse, Option.some.inj h]
  · cases h

end Relational.Sql
