import Relational.Proofs.Sql.Limit
import Relational.Proofs.Sql.Recased

/-!
# Reading statements that differ in case

The parser of each part of a statement that works on rows gives the same for tokens that differ in the case of words
only, but for the case of the names in it. Where it fails it fails on both, and a fault is one of both.
-/

namespace Relational.Sql

open Text

/-! ## Tokens that are left -/

section Tokens

variable {token token' : Token} {tokens tokens' : List Token}

/-- Tokens that differ in case only, one by one. The first ones stay such tokens before others that do, if these are not
more. -/
theorem Recased.cons_inv (h : Recased (token :: tokens) (token' :: tokens')) :
    token.Alike token' ∧ Recased tokens tokens' ∧ ∀ {taken taken'}, (tokens = [] → taken = []) → Recased taken taken' →
      Recased (token :: taken) (token' :: taken') := by
  cases h with
  | word hword htext halike h => exact ⟨halike, h, fun _ h => .word hword htext halike h⟩
  | plain hkind htext halike h => exact ⟨halike, h, fun _ h => .plain hkind htext halike h⟩
  | literal hkind hlast halike h => exact ⟨halike, h, fun hnil h => .literal hkind (fun hs => hnil (hlast hs)) halike h⟩

theorem Recased.map_kind (h : Recased tokens tokens') : tokens.map Token.kind = tokens'.map Token.kind :=
  map_eq_iff_forall₂.2 (h.forall₂.imp fun _ _ halike => halike.kind)

/-- What a clause takes of tokens that differ in case, and what it leaves. -/
theorem Recased.clauseFrom (h : Recased tokens tokens') (stop : TokenKind → Bool) (depth : Nat) :
    Recased (Parser.clauseFrom stop depth tokens).2.1 (Parser.clauseFrom stop depth tokens').2.1 ∧
      (Parser.clauseFrom stop depth tokens).2.2 = (Parser.clauseFrom stop depth tokens').2.2 ∧
      ∃ taken taken', Recased taken taken' ∧ (Parser.clauseFrom stop depth tokens).1 = taken.map Parser.rendered ∧
        (Parser.clauseFrom stop depth tokens').1 = taken'.map Parser.rendered := by
  induction tokens generalizing tokens' depth with
  | nil =>
    cases h
    exact ⟨.nil, rfl, [], [], .nil, rfl, rfl⟩
  | cons token tokens ih =>
    cases tokens' with
    | nil => cases h
    | cons token' tokens' =>
      obtain ⟨halike, hrest, hcons⟩ := h.cons_inv
      simp only [Parser.clauseFrom, ← halike.kind]
      split
      · exact ⟨h, rfl, [], [], .nil, rfl, rfl⟩
      · split
        · exact ⟨h, rfl, [], [], .nil, rfl, rfl⟩
        · split
          · exact ⟨h, rfl, [], [], .nil, rfl, rfl⟩
          · generalize (if token.kind = .leftParen then depth + 1 else if token.kind = .rightParen then depth - 1
              else depth) = depth'
            obtain ⟨hleft, hunknown, taken, taken', htaken, htexts, htexts'⟩ := ih hrest depth'
            refine ⟨hleft, hunknown, token :: taken, token' :: taken', hcons ?_ htaken, ?_, ?_⟩
            · rintro rfl
              rw [Parser.clauseFrom, eq_comm, List.map_eq_nil_iff] at htexts
              exact htexts
            · rw [htexts, List.map_cons]
            · rw [htexts', List.map_cons]

end Tokens

/-! ## Keys of ORDER BY -/

theorem splitAt_map_toLower {sep : Char} (hsep : ∀ c : Char, c.toLower = sep ↔ c = sep) (cs : List Char) :
    splitAt sep (cs.map Char.toLower) = (splitAt sep cs).map (List.map Char.toLower) := by
  induction cs with
  | nil => rfl
  | cons c cs ih =>
    by_cases hc : c = sep
    · rw [List.map_cons, (hsep c).2 hc, hc, splitAt_sep, splitAt_sep, ih]
      rfl
    · have hpart : ∀ d ∈ [c], d ≠ sep := by simpa using hc
      have hpart' : ∀ d ∈ [c.toLower], d ≠ sep := by simpa [hsep] using hc
      have hsplit := splitAt_append hpart cs
      have hsplit' := splitAt_append hpart' (cs.map Char.toLower)
      rw [List.singleton_append] at hsplit hsplit'
      rw [List.map_cons, hsplit, hsplit']
      simp only [ih, List.map_cons, List.head_map, List.map_tail, List.singleton_append]

/-- The key with its column in small letters. -/
def OrderKey.small (key : OrderKey) : OrderKey :=
  { key with column := key.column.toLower }

theorem keyOfPart_map_toLower (part : List Char) :
    keyOfPart (part.map Char.toLower) = (keyOfPart part).map OrderKey.small := by
  have hwords := wordsFrom_map_toLower [] part
  rw [List.map_nil] at hwords
  rw [keyOfPart, keyOfPart, hwords]
  cases wordsFrom [] part with
  | nil => rfl
  | cons column rest =>
    cases rest with
    | nil => simp [OrderKey.small, toLower_ofList]
    | cons word rest => simp [OrderKey.small, ← toLower_ofList, upper_toLower]

theorem orderKeys_toLower (text : String) : orderKeys text.toLower = (orderKeys text).map OrderKey.small := by
  have hcomma : ∀ c : Char, c.toLower = ',' ↔ c = ',' := fun c => toLower_eq_iff (by decide) (by decide)
  rw [orderKeys_eq, orderKeys_eq, toList_toLower, splitAt_map_toLower hcomma, List.filterMap_map, List.map_filterMap]
  exact List.filterMap_congr fun part _ => keyOfPart_map_toLower part

/-! ## Statements that are left alike -/

/-- The selection with its names in small letters. -/
def Selection.small : Selection → Selection
  | .all => .all
  | .columns names => .columns (names.map String.toLower)

/-- Queries that differ in case only. Of a join nothing counts but that it is there. -/
structure Select.Alike (statement statement' : Select) : Prop where
  selection : statement.selection.small = statement'.selection.small
  table : statement.table.toLower = statement'.table.toLower
  condition : Option.Rel ClausesAlike statement.condition statement'.condition
  order : statement.order.map String.toLower = statement'.order.map String.toLower
  limit : statement.limit = statement'.limit
  join : statement.join.map String.isEmpty = statement'.join.map String.isEmpty

/-- Insertions that differ in case only. -/
structure Insert.Alike (statement statement' : Insert) : Prop where
  table : statement.table.toLower = statement'.table.toLower
  columns : statement.columns.map (List.map String.toLower) = statement'.columns.map (List.map String.toLower)
  values : statement.values.map (List.map Expr.small) = statement'.values.map (List.map Expr.small)

/-- The assignment with its names in small letters. -/
def smallAssignment (assignment : String × Expr) : String × Expr :=
  (assignment.1.toLower, assignment.2.small)

/-- Updates that differ in case only. -/
structure Update.Alike (statement statement' : Update) : Prop where
  table : statement.table.toLower = statement'.table.toLower
  assignments : statement.assignments.map smallAssignment = statement'.assignments.map smallAssignment
  condition : Option.Rel ClausesAlike statement.condition statement'.condition

/-- Deletions that differ in case only. -/
structure Delete.Alike (statement statement' : Delete) : Prop where
  table : statement.table.toLower = statement'.table.toLower
  condition : Option.Rel ClausesAlike statement.condition statement'.condition

/-- Statements on rows that differ in case only. -/
inductive Statement.Alike : Statement → Statement → Prop where
  | select {statement statement' : Select} (h : statement.Alike statement') :
      Statement.Alike (.select statement) (.select statement')
  | insert {statement statement' : Insert} (h : statement.Alike statement') :
      Statement.Alike (.insert statement) (.insert statement')
  | update {statement statement' : Update} (h : statement.Alike statement') :
      Statement.Alike (.update statement) (.update statement')
  | delete {statement statement' : Delete} (h : statement.Alike statement') :
      Statement.Alike (.delete statement) (.delete statement')

namespace Parser

variable {α β γ δ : Type} {R : α → β → Prop} {S : γ → δ → Prop} {p : Parser α} {q : Parser β}

/-- Inputs whose tokens differ in the case of words only. -/
structure InputsAlike (input input' : Input) : Prop where
  tokens : Recased input.tokens input'.tokens
  finish : input.finish.Alike input'.finish

section Inputs

variable {input input' : Input}

theorem InputsAlike.next (h : InputsAlike input input') : (next input).Alike (next input') := by
  obtain ⟨tokens, finish⟩ := input
  obtain ⟨tokens', finish'⟩ := input'
  obtain ⟨htokens, hfinish⟩ := h
  cases tokens with
  | nil =>
    cases htokens
    exact hfinish
  | cons token tokens =>
    cases tokens' with
    | nil => cases htokens
    | cons token' tokens' => exact htokens.cons_inv.1

theorem InputsAlike.tail (h : InputsAlike input input') : InputsAlike (tail input) (tail input') := by
  obtain ⟨tokens, finish⟩ := input
  obtain ⟨tokens', finish'⟩ := input'
  obtain ⟨htokens, hfinish⟩ := h
  cases tokens with
  | nil =>
    cases htokens
    exact ⟨.nil, hfinish⟩
  | cons token tokens =>
    cases tokens' with
    | nil => cases htokens
    | cons token' tokens' => exact ⟨htokens.cons_inv.2.1, hfinish⟩

end Inputs

/-- Only the kinds of the first two tokens count. -/
theorem seesNegativeNumber_run (input : Input) : seesNegativeNumber.run input =
    .ok (decide ((input.tokens.map Token.kind).take 2 = [.minus, .number]), input) := by
  obtain ⟨tokens, finish⟩ := input
  cases tokens with
  | nil => rfl
  | cons token tokens =>
    obtain ⟨kind, text, position⟩ := token
    cases tokens with
    | nil => cases kind <;> rfl
    | cons token tokens =>
      obtain ⟨kind', text', position'⟩ := token
      cases kind with
      | minus => cases kind' <;> rfl
      | _ => rfl

theorem run_seesNegativeNumber_bind {f : Bool → Parser γ} {input : Input} : (seesNegativeNumber >>= f).run input =
    (f (decide ((input.tokens.map Token.kind).take 2 = [.minus, .number]))).run input := by
  have hrun : (seesNegativeNumber >>= f).run input =
      seesNegativeNumber.run input >>= fun found => (f found.1).run found.2 := rfl
  rw [hrun, seesNegativeNumber_run]
  rfl

/-- On inputs that differ in case both parsers fail, or both give results that are related and leave such inputs. -/
def Agree (R : α → β → Prop) (p : Parser α) (q : Parser β) : Prop :=
  ∀ input input', InputsAlike input input' → ResultsAgree Failure.SameKind
    (fun found found' => R found.1 found'.1 ∧ InputsAlike found.2 found'.2) (p.run input) (q.run input')

/-- The names differ in case only. -/
abbrev SameLetters (name name' : String) : Prop :=
  name.toLower = name'.toLower

/-- The expressions differ in the case of names only. -/
abbrev SameNames (e e' : Expr) : Prop :=
  e.small = e'.small

namespace Agree

/-! ### Chains of steps -/

theorem pure {a : α} {b : β} (h : R a b) : Agree R (Pure.pure a) (Pure.pure b) :=
  fun _ _ hinput => .done ⟨h, hinput⟩

theorem bind {f : α → Parser γ} {g : β → Parser δ} (h : Agree R p q) (hstep : ∀ a b, R a b → Agree S (f a) (g b)) :
    Agree S (p >>= f) (q >>= g) :=
  fun input input' hinput => ResultsAgree.bind (h input input' hinput) fun found found' hfound =>
    hstep found.1 found'.1 hfound.1 found.2 found'.2 hfound.2

/-- A step that gives the same on both sides. -/
theorem step {p q : Parser α} {f : α → Parser γ} {g : α → Parser δ} (h : Agree (· = ·) p q)
    (hstep : ∀ a, Agree S (f a) (g a)) : Agree S (p >>= f) (q >>= g) := by
  apply h.bind
  intro a b hab
  rw [hab]
  exact hstep b

theorem map {f : α → γ} {g : β → δ} (h : Agree R p q) (hmap : ∀ a b, R a b → S (f a) (g b)) :
    Agree S (f <$> p) (g <$> q) := by
  rw [map_eq_pure_bind, map_eq_pure_bind]
  exact h.bind fun a b hab => .pure (hmap a b hab)

theorem ite {c : Prop} [Decidable c] {p' : Parser α} {q' : Parser β} (h : Agree R p q) (h' : Agree R p' q') :
    Agree R (if c then p else p') (if c then q else q') := by
  split
  · exact h
  · exact h'

/-- One of two parsers, and what follows both. -/
theorem either {c : Prop} [Decidable c] {p' : Parser α} {q' : Parser β} {f : α → Parser γ} {g : β → Parser δ}
    (h : Agree R p q) (h' : Agree R p' q') (hstep : ∀ a b, R a b → Agree S (f a) (g b)) :
    Agree S (if c then p >>= f else p' >>= f) (if c then q >>= g else q' >>= g) :=
  (h.bind hstep).ite (h'.bind hstep)

theorem mismatch (expected : String) : Agree R (mismatch expected) (Parser.mismatch expected) :=
  fun _ _ _ => .failed .refusal

/-- Parsers that go on unless something is wrong. -/
theorem guard {c : Prop} [Decidable c] (expected : String) (h : Agree R p q) :
    Agree R (if c then (Parser.mismatch expected : Parser Unit) >>= fun _ => p else p)
      (if c then (Parser.mismatch expected : Parser Unit) >>= fun _ => q else q) :=
  ((mismatch (R := fun _ _ => True) expected).bind fun _ _ _ => h).ite h

theorem get : Agree InputsAlike (MonadState.get : Parser Input) MonadState.get :=
  fun _ _ hinput => .done ⟨hinput, hinput⟩

theorem setTokens {tokens tokens' : List Token} (h : Recased tokens tokens') :
    Agree (· = ·) (modify fun input => { input with tokens := tokens } : Parser Unit)
      (modify fun input => { input with tokens := tokens' }) :=
  fun _ _ hinput => .done ⟨rfl, h, hinput.finish⟩

/-! ### Tokens -/

theorem current : Agree Token.Alike current current :=
  fun _ _ hinput => .done ⟨hinput.next, hinput⟩

theorem advance : Agree Token.Alike advance advance :=
  fun _ _ hinput => .done ⟨hinput.next, hinput.tail⟩

theorem sees (test : TokenKind → Bool) : Agree (· = ·) (sees test) (Parser.sees test) :=
  fun _ _ hinput => .done ⟨congrArg test hinput.next.kind, hinput⟩

theorem takes (kind : TokenKind) : Agree (· = ·) (takes kind) (Parser.takes kind) :=
  (sees _).step fun _ => .ite (advance.bind fun _ _ _ => .pure rfl) (.pure rfl)

theorem takesWord (word : Keyword) : Agree (· = ·) (takesWord word) (Parser.takesWord word) :=
  takes _

theorem expect (kind : TokenKind) : Agree (· = ·) (expect kind) (Parser.expect kind) :=
  (takes kind).step fun _ => .ite (.pure rfl) (mismatch _)

theorem expectWord (word : Keyword) : Agree (· = ·) (expectWord word) (Parser.expectWord word) :=
  expect _

theorem name : Agree SameLetters name name :=
  (sees _).step fun _ => .ite (advance.bind fun _ _ h => .pure h.toLower) (mismatch _)

theorem seesNegativeNumber : Agree (· = ·) seesNegativeNumber seesNegativeNumber := by
  intro input input' hinput
  rw [seesNegativeNumber_run, seesNegativeNumber_run, hinput.tokens.map_kind]
  exact .done ⟨rfl, hinput⟩

/-! ### Lists -/

theorem moreItems (h : Agree R p q) (fuel : Nat) :
    Agree (List.Forall₂ R) (moreItems p fuel) (Parser.moreItems q fuel) := by
  induction fuel with
  | zero => exact .pure .nil
  | succ fuel ih =>
    apply (takes _).step
    intro taken
    apply ite
    · exact h.bind fun a b hab => ih.bind fun as bs hrest => .pure (.cons hab hrest)
    · exact .pure .nil

theorem items (h : Agree R p q) : Agree (List.Forall₂ R) (items p) (Parser.items q) := by
  apply h.bind
  intro a b hab
  apply get.bind
  intro input input' hinput
  rw [hinput.tokens.forall₂.length_eq]
  exact (h.moreItems _).bind fun as bs hrest => .pure (.cons hab hrest)

theorem parenthesized (h : Agree R p q) : Agree (List.Forall₂ R) (parenthesized p) (Parser.parenthesized q) :=
  (expect _).step fun _ => h.items.bind fun _ _ hitems => (expect _).step fun _ => .pure hitems

theorem names : Agree (List.Forall₂ SameLetters) names names :=
  name.parenthesized

/-! ### Clauses -/

theorem clauseTexts (what : String) (stop : TokenKind → Bool) :
    Agree (fun texts texts' => ∃ taken taken', Recased taken taken' ∧ texts = taken.map rendered ∧
      texts' = taken'.map rendered) (clauseTexts what stop) (Parser.clauseTexts what stop) := by
  apply get.bind
  intro input input' hinput
  obtain ⟨hrest, hunknown, htexts⟩ := hinput.tokens.clauseFrom stop 0
  generalize clauseFrom stop 0 input.tokens = found at *
  generalize clauseFrom stop 0 input'.tokens = found' at *
  obtain ⟨texts, rest, unknown⟩ := found
  obtain ⟨texts', rest', unknown'⟩ := found'
  obtain rfl : unknown = unknown' := hunknown
  exact (setTokens hrest).step fun _ => .guard what (.pure htexts)

theorem clause (stop : TokenKind → Bool) : Agree ClausesAlike (clause stop) (Parser.clause stop) := by
  apply (clauseTexts _ stop).bind
  rintro _ _ ⟨taken, taken', htaken, rfl, rfl⟩
  exact .pure htaken.clausesAlike

theorem whereClause (stop : TokenKind → Bool) :
    Agree (Option.Rel ClausesAlike) (whereClause stop) (Parser.whereClause stop) := by
  apply (takesWord _).step
  intro taken
  apply ite
  · apply (clause _).bind
    intro text text' htext
    rw [htext.isEmpty]
    exact .guard _ (.pure (.some htext))
  · exact .pure .none

/-! ### Expressions -/

section Expressions

variable {expression expression' : Parser Expr} (h : Agree SameNames expression expression')
include h

theorem afterName {first first' : String} (hfirst : SameLetters first first') :
    Agree SameNames (afterName expression first) (Parser.afterName expression' first') := by
  have hupper : upper first = upper first' := by
    rw [← upper_toLower, hfirst, upper_toLower]
  apply (takes _).step
  intro taken
  apply ite
  · apply (sees _).step
    intro seen
    apply either (.pure .nil) h.items
    intro args args' hargs
    apply (expect _).step
    intro _
    apply pure
    show (Expr.call _ args).small = (Expr.call _ args').small
    rw [Expr.small, Expr.small, hupper, allSmall_eq_map, allSmall_eq_map, map_eq_iff_forall₂.2 hargs]
  · apply (takes _).step
    intro taken
    apply ite
    · apply name.bind
      intro column column' hcolumn
      apply pure
      show (Expr.column (some first) column).small = (Expr.column (some first') column').small
      rw [Expr.small, Expr.small, hcolumn, Option.map_some, Option.map_some, hfirst]
    · apply pure
      show (Expr.column none first).small = (Expr.column none first').small
      rw [Expr.small, Expr.small, hfirst]

theorem primary : Agree SameNames (primary expression) (Parser.primary expression') := by
  intro input input' hinput
  rw [Parser.primary, Parser.primary, run_seesNegativeNumber_bind, run_seesNegativeNumber_bind, ← hinput.tokens.map_kind]
  by_cases hnegative : (input.tokens.map Token.kind).take 2 = [.minus, .number]
  · obtain ⟨tokens, finish⟩ := input
    obtain ⟨tokens', finish'⟩ := input'
    cases tokens with
    | nil => simp at hnegative
    | cons minus tokens =>
      cases tokens with
      | nil => simp at hnegative
      | cons number tokens =>
        cases tokens' with
        | nil => cases hinput.tokens
        | cons minus' tokens' =>
          cases tokens' with
          | nil => cases hinput.tokens.cons_inv.2.1
          | cons number' tokens' =>
            have hkind : number.kind = .number := by simpa using (List.cons.inj hnegative).2
            have htext := hinput.tokens.cons_inv.2.1.cons_inv.1.exact (by rw [hkind]; rfl)
            rw [if_pos (decide_eq_true hnegative), if_pos (decide_eq_true hnegative)]
            refine .done ⟨?_, hinput.tail.tail⟩
            show (Expr.literal (.number ("-" ++ number.text))).small = _
            rw [htext]
            rfl
  · rw [if_neg (by simpa using hnegative), if_neg (by simpa using hnegative), run_current_bind, run_current_bind,
      ← hinput.next.kind]
    have htext := hinput.next.exact
    split
    · rename_i hkind
      refine .done ⟨?_, hinput.tail⟩
      show (Expr.literal (.string (next input).text)).small = (Expr.literal (.string (next input').text)).small
      rw [htext (by rw [hkind]; rfl)]
    · rename_i hkind
      refine .done ⟨?_, hinput.tail⟩
      show (Expr.literal (.number (next input).text)).small = (Expr.literal (.number (next input').text)).small
      rw [htext (by rw [hkind]; rfl)]
    · exact .done ⟨rfl, hinput.tail⟩
    · exact .done ⟨rfl, hinput.tail⟩
    · exact .done ⟨rfl, hinput.tail⟩
    · exact (advance.bind fun _ _ _ => h.bind fun _ _ he => (expect _).step fun _ => .pure he) input input' hinput
    · exact ite (name.bind fun _ _ hname => h.afterName hname) (mismatch _) input input' hinput

end Expressions

theorem expressionWithin (fuel : Nat) : Agree SameNames (expressionWithin fuel) (Parser.expressionWithin fuel) := by
  induction fuel with
  | zero => exact mismatch _
  | succ fuel ih =>
    apply ih.primary.bind
    intro left left' hleft
    apply current.bind
    intro token token' htoken
    rw [← htoken.kind]
    split
    · exact .pure hleft
    · apply advance.bind
      intro _ _ _
      apply ih.bind
      intro right right' hright
      apply pure
      show (Expr.binary _ left right).small = (Expr.binary _ left' right').small
      rw [Expr.small, Expr.small, hleft, hright]

theorem expression : Agree SameNames expression expression := by
  apply get.bind
  intro input input' hinput
  rw [hinput.tokens.forall₂.length_eq]
  exact expressionWithin _

/-! ### Queries -/

theorem orderKey : Agree SameLetters orderKey orderKey := by
  apply name.bind
  intro column column' hcolumn
  have happend : ∀ direction : String, SameLetters (column ++ direction) (column' ++ direction) := by
    intro direction
    show (column ++ direction).toLower = (column' ++ direction).toLower
    rw [toLower_append, toLower_append, hcolumn]
  exact (takesWord _).step fun _ => .ite (.pure (happend _)) <|
    (takesWord _).step fun _ => .ite (.pure (happend _)) (.pure hcolumn)

theorem orderClause :
    Agree (fun order order' => order.map String.toLower = order'.map String.toLower) orderClause orderClause := by
  apply (takesWord _).step
  intro taken
  apply ite
  · apply (expectWord _).step
    intro _
    apply orderKey.items.bind
    intro keys keys' hkeys
    apply pure
    rw [Option.map_some, Option.map_some, toLower_intercalate, toLower_intercalate, map_eq_iff_forall₂.2 hkeys]
  · exact .pure rfl

theorem limit : Agree (· = ·) limit limit := by
  apply current.bind
  intro token token' htoken
  by_cases hkind : token.kind = .number
  · have htext := htoken.exact (by rw [hkind]; rfl)
    rw [← htoken.kind, ← htext]
    apply ite
    · apply advance.bind
      intro _ _ _
      split
      · exact .pure rfl
      · exact fun _ _ _ => .failed .fault
    · exact mismatch _
  · rw [if_neg (by simp [hkind]), if_neg (by simp [← htoken.kind, hkind])]
    exact mismatch _

theorem limitClause : Agree (· = ·) limitClause limitClause :=
  (takesWord _).step fun _ => .ite (limit.map fun _ _ h => congrArg some h) (.pure rfl)

theorem query : Agree Select.Alike query query := by
  apply (expectWord _).step
  intro _
  apply (takes _).step
  intro _
  have hcolumns : Agree (fun selection selection' => Selection.small selection = Selection.small selection')
      (Selection.columns <$> Parser.items Parser.name) (Selection.columns <$> Parser.items Parser.name) := by
    apply name.items.map
    intro names names' hnames
    exact congrArg Selection.columns (map_eq_iff_forall₂.2 hnames)
  refine either ?_ hcolumns ?_
  · exact .pure rfl
  intro selection selection' hselection
  apply (expectWord _).step
  intro _
  apply name.bind
  intro table table' htable
  apply (sees _).step
  intro _
  have hjoined : ∀ stop, Agree (fun join join' => join.map String.isEmpty = join'.map String.isEmpty)
      (some <$> Parser.clause stop) (some <$> Parser.clause stop) := by
    intro stop
    apply (clause stop).map
    intro text text' htext
    exact congrArg some htext.isEmpty
  apply either (hjoined _) (.pure rfl)
  intro join join' hjoin
  apply (whereClause _).bind
  intro condition condition' hcondition
  apply orderClause.bind
  intro order order' horder
  exact .pure ⟨hselection, htable, hcondition, horder, rfl, hjoin⟩

theorem select : Agree Select.Alike select select := by
  apply query.bind
  intro found found' hfound
  apply limitClause.bind
  intro count count' hcount
  exact .pure ⟨hfound.selection, hfound.table, hfound.condition, hfound.order, hcount, hfound.join⟩

/-! ### Changes -/

theorem insert : Agree Insert.Alike insert insert := by
  apply (expectWord _).step
  intro _
  apply (expectWord _).step
  intro _
  apply name.bind
  intro table table' htable
  apply (sees _).step
  intro _
  have hnames : Agree (fun columns columns' => columns.map (List.map String.toLower) =
      columns'.map (List.map String.toLower)) (some <$> Parser.names) (some <$> Parser.names) := by
    apply names.map
    intro columns columns' hcolumns
    exact congrArg some (map_eq_iff_forall₂.2 hcolumns)
  apply either hnames (.pure rfl)
  intro columns columns' hcolumns
  apply (expectWord _).step
  intro _
  apply expression.parenthesized.items.bind
  intro values values' hvalues
  refine .pure ⟨htable, hcolumns, map_eq_iff_forall₂.2 (hvalues.imp fun _ _ => map_eq_iff_forall₂.2)⟩

theorem assignment : Agree (fun assignment assignment' => smallAssignment assignment = smallAssignment assignment')
    assignment assignment := by
  apply name.bind
  intro column column' hcolumn
  apply (expect _).step
  intro _
  apply expression.bind
  intro e e' he
  apply pure
  rw [smallAssignment, smallAssignment, hcolumn, he]

theorem update : Agree Update.Alike update update := by
  apply (expectWord _).step
  intro _
  apply name.bind
  intro table table' htable
  apply (expectWord _).step
  intro _
  apply assignment.items.bind
  intro assignments assignments' hassignments
  apply (whereClause _).bind
  intro condition condition' hcondition
  exact .pure ⟨htable, map_eq_iff_forall₂.2 hassignments, hcondition⟩

theorem delete : Agree Delete.Alike delete delete := by
  apply (expectWord _).step
  intro _
  apply (expectWord _).step
  intro _
  apply name.bind
  intro table table' htable
  apply (whereClause _).bind
  intro condition condition' hcondition
  exact .pure ⟨htable, hcondition⟩

end Agree

/-! ## Whole statements -/

/-- The keywords with which the statements on rows start. -/
def rowKeywords : List Keyword :=
  [.SELECT, .INSERT, .UPDATE, .DELETE]

variable {input input' : Input}

theorem statement_agree (h : InputsAlike input input')
    (hfirst : ∃ word ∈ rowKeywords, (next input).kind = .keyword word) :
    ResultsAgree Failure.SameKind
      (fun found found' => Statement.Alike found.1 found'.1 ∧ InputsAlike found.2 found'.2) (statement.run input)
      (statement.run input') := by
  obtain ⟨word, hword, hkind⟩ := hfirst
  have hkind' := h.next.kind.symm.trans hkind
  rw [statement, run_current_bind, run_current_bind, hkind, hkind']
  simp only [rowKeywords, List.mem_cons, List.not_mem_nil, or_false] at hword
  rcases hword with rfl | rfl | rfl | rfl
  · exact (Agree.select.map fun _ _ => .select) input input' h
  · exact (Agree.insert.map fun _ _ => .insert) input input' h
  · exact (Agree.update.map fun _ _ => .update) input input' h
  · exact (Agree.delete.map fun _ _ => .delete) input input' h

theorem script_agree (h : InputsAlike input input')
    (hfirst : ∃ word ∈ rowKeywords, (next input).kind = .keyword word) :
    ResultsAgree Failure.SameKind (fun found found' => Statement.Alike found.1 found'.1 ∧ InputsAlike found.2 found'.2)
      (script.run input) (script.run input') := by
  apply (statement_agree h hfirst).bind
  rintro ⟨found, rest⟩ ⟨found', rest'⟩ ⟨hfound, hrest⟩
  exact ((Agree.takes _).step fun _ => (Agree.expect _).step fun _ => .pure hfound) rest rest' hrest

end Parser

/-- Two texts differ only in the case of ASCII letters, and not in their string literals. -/
structure SameButCase (sql sql' : String) : Prop where
  letters : sql.toLower = sql'.toLower
  literals : literals (tokenize sql) = literals (tokenize sql')

/-- The text starts with the keyword of a statement on rows. -/
def OnRows (sql : String) : Prop :=
  ∃ word ∈ Parser.rowKeywords, (tokenize sql).head?.map Token.kind = some (.keyword word)

theorem finish_tokenize (sql : String) : (Input.ofTokens (tokenize sql)).finish.kind = .endOfFile ∧
    (Input.ofTokens (tokenize sql)).finish.text = "" := by
  refine ⟨kind_finish_ofTokens _, ?_⟩
  obtain ⟨tiles, ending, htiles⟩ := exists_tiles [] sql.toList
  have htokens : tokenize sql = _ := htiles.tokens_eq
  have hnone : (tiles.map Tile.token).find? (fun token => token.kind == .endOfFile) = none := by
    rw [List.find?_eq_none]
    intro token htoken
    obtain ⟨tile, htile, rfl⟩ := List.mem_map.1 htoken
    simpa using (htiles.source tile htile).kind_ne
  rw [htokens, Input.ofTokens, List.find?_append, hnone]
  rfl

theorem OnRows.next {sql : String} (h : OnRows sql) :
    ∃ word ∈ Parser.rowKeywords, (Parser.next (.ofTokens (tokenize sql))).kind = .keyword word := by
  obtain ⟨word, hword, hfirst⟩ := h
  refine ⟨word, hword, ?_⟩
  cases htokens : tokenize sql with
  | nil =>
    rw [htokens] at hfirst
    cases hfirst
  | cons token tokens =>
    rw [htokens, List.head?_cons, Option.map_some, Option.some.injEq] at hfirst
    have hkind : token.kind ≠ .endOfFile := by simp [hfirst]
    rw [Parser.next, ofTokens_cons hkind]
    exact hfirst

theorem SameButCase.inputsAlike {sql sql' : String} (h : SameButCase sql sql') :
    Parser.InputsAlike (.ofTokens (tokenize sql)) (.ofTokens (tokenize sql')) := by
  obtain ⟨hkind, htext⟩ := finish_tokenize sql
  obtain ⟨hkind', htext'⟩ := finish_tokenize sql'
  constructor
  · exact recased_tokenizeFrom _ _ (toLower_eq_iff_map.1 h.letters) h.literals
  · exact ⟨hkind.trans hkind'.symm, by rw [htext, htext'], fun _ => htext.trans htext'.symm⟩

/-- Texts that differ in case only are statements that differ in case only, or none of them is a statement. -/
theorem SameButCase.parse {sql sql' : String} (h : SameButCase sql sql') (hrows : OnRows sql) :
    ResultsAgree Failure.SameKind Statement.Alike (parse sql) (Sql.parse sql') :=
  (Parser.script_agree h.inputsAlike hrows.next).map fun _ _ hfound => hfound.1

end Relational.Sql
