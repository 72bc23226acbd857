import Relational.Proofs.Sql.Defaults
import Relational.Proofs.Sql.Run

/-!
# The tokens that a parser takes

The parsers of names, lists, conditions, values and references take tokens in which every parenthesis that opens
closes. Outside of parentheses these tokens begin neither a rule nor a default, so that the rules and the defaults of a
definition can be read off without knowing where such a part begins and ends.
-/

namespace Relational.Sql

namespace Parser

variable {α β : Type} {input between rest : Input} {kind : TokenKind} {used more : List Token}

/-! ## Single tokens -/

/-- Tokens are read, and the token that marks the end is left. -/
structure Passes (input : Input) (used : List Token) (rest : Input) : Prop where
  tokens : input.tokens = used ++ rest.tokens
  ends : rest.finish.kind = .endOfFile

theorem Passes.none (hend : input.finish.kind = .endOfFile) : Passes input [] input :=
  ⟨rfl, hend⟩

theorem Passes.trans (h : Passes input used between) (hmore : Passes between more rest) :
    Passes input (used ++ more) rest :=
  ⟨by rw [h.tokens, hmore.tokens, List.append_assoc], hmore.ends⟩

theorem Passes.next_eq {token : Token} (h : Passes input (token :: used) rest) : next input = token := by
  rw [next, h.tokens]
  rfl

/-- A token that was read is not the token that marks the end. -/
theorem passes_tail (hend : input.finish.kind = .endOfFile) (hkind : (next input).kind ≠ .endOfFile) :
    Passes input [next input] (tail input) := by
  refine ⟨?_, hend⟩
  obtain ⟨tokens, finish⟩ := input
  cases tokens with
  | nil => exact absurd hend hkind
  | cons token tokens => rfl

theorem run_sees_bind {test : TokenKind → Bool} {f : Bool → Parser β} :
    (sees test >>= f).run input = (f (test (next input).kind)).run input := rfl

theorem run_current_bind {f : Token → Parser β} : (current >>= f).run input = (f (next input)).run input := rfl

theorem run_takes_bind {f : Bool → Parser β} {b : β} (hne : kind ≠ .endOfFile)
    (hend : input.finish.kind = .endOfFile) (h : (takes kind >>= f).run input = .ok (b, rest)) :
    (∃ token between, token.kind = kind ∧ Passes input [token] between ∧ (f true).run between = .ok (b, rest)) ∨
      (next input).kind ≠ kind ∧ (f false).run input = .ok (b, rest) := by
  obtain ⟨taken, between, htaken, h⟩ := run_bind_eq_ok.1 h
  rw [takes_run] at htaken
  split at htaken
  · rename_i hkind
    cases htaken
    exact .inl ⟨next input, _, hkind, passes_tail hend (hkind ▸ hne), h⟩
  · rename_i hkind
    cases htaken
    exact .inr ⟨hkind, h⟩

theorem run_expect_bind {f : Unit → Parser β} {b : β} (hne : kind ≠ .endOfFile)
    (hend : input.finish.kind = .endOfFile) (h : (expect kind >>= f).run input = .ok (b, rest)) :
    ∃ token between, token.kind = kind ∧ Passes input [token] between ∧ (f ()).run between = .ok (b, rest) := by
  obtain ⟨_, between, hexpect, h⟩ := run_bind_eq_ok.1 h
  obtain ⟨hkind, rfl⟩ := expect_eq_ok.1 hexpect
  exact ⟨next input, _, hkind, passes_tail hend (hkind ▸ hne), h⟩

theorem mismatch_ne_ok {expected : String} {a : α} : (mismatch expected : Parser α).run input ≠ .ok (a, rest) := by
  intro h
  cases h

/-- A parser that reads one token whose kind passes a test, and gives its text. -/
def ReadsToken (test : TokenKind → Bool) (p : Parser String) : Prop :=
  ∀ {input rest : Input} {text : String}, input.finish.kind = .endOfFile → p.run input = .ok (text, rest) →
    ∃ token, test token.kind = true ∧ token.text = text ∧ Passes input [token] rest

/-- Reads the next token if it passes a test that the end does not pass. -/
theorem readsToken_advance {test : TokenKind → Bool} (htest : test .endOfFile = false) (g : String → String)
    (expected : String) {text : String} (hend : input.finish.kind = .endOfFile)
    (h : (do if ← sees test then pure (g (← advance).text) else mismatch expected).run input = .ok (text, rest)) :
    ∃ token, test token.kind = true ∧ g token.text = text ∧ Passes input [token] rest := by
  rw [run_sees_bind] at h
  cases hpass : test (next input).kind with
  | false =>
    rw [hpass, if_neg Bool.false_ne_true] at h
    exact absurd h mismatch_ne_ok
  | true =>
    rw [hpass, if_pos rfl] at h
    cases h
    refine ⟨next input, hpass, rfl, passes_tail hend fun hkind => ?_⟩
    rw [hkind, htest] at hpass
    cases hpass

theorem readsToken_name : ReadsToken TokenKind.isName name :=
  fun hend h => readsToken_advance rfl id _ hend h

theorem readsToken_typeParam : ReadsToken (fun kind => kind == .number || kind == .string) typeParam :=
  fun hend h => readsToken_advance rfl id _ hend h

/-! ## Tokens in parentheses -/

/-- Tokens in parentheses, of which all that are opened in them are closed. -/
inductive Group (inner : List Token) : List Token → Prop where
  | intro {left right : Token} (hleft : left.kind = .leftParen) (hinner : Level (fun _ => true) 0 inner)
      (hright : right.kind = .rightParen) : Group inner (left :: (inner ++ [right]))

namespace Group

variable {inner tokens : List Token} {test : TokenKind → Bool}

theorem level (h : Group inner tokens) (htest : test .leftParen = true) : Level test 0 tokens := by
  obtain ⟨hleft, hinner, hright⟩ := h
  exact hinner.group hleft htest hright

theorem silent (h : Group inner tokens) : Silent tokens :=
  (h.level rfl).silent

theorem enclosed_append (h : Group inner tokens) (more : List Token) : enclosed (tokens ++ more) = inner := by
  obtain ⟨hleft, hinner, hright⟩ := h
  rw [List.cons_append, List.append_assoc, List.singleton_append]
  exact enclosed_group hleft hinner hright more

theorem enclosedNames_append (h : Group inner tokens) (before more : List Token)
    (hbefore : ∀ token ∈ before, token.kind ≠ .leftParen) :
    enclosedNames (before ++ (tokens ++ more)) = texts inner := by
  rw [enclosedNames, Sql.enclosed_append hbefore, h.enclosed_append]

theorem enclosedText_append (h : Group inner tokens) (more : List Token) :
    enclosedText (tokens ++ more) = " ".intercalate (inner.map rendered) := by
  rw [enclosedText, h.enclosed_append]

theorem opens (h : Group inner tokens) (more : List Token) :
    (tokens ++ more).head?.any (·.kind == .leftParen) = true := by
  obtain ⟨hleft, -, -⟩ := h
  simp [hleft]

end Group

/-- Names, numbers and the like: no token of a list of them is a parenthesis or a comma. -/
def Plain (test : TokenKind → Bool) : Prop :=
  test .leftParen = false ∧ test .rightParen = false ∧ test .comma = false

theorem Plain.ne {test : TokenKind → Bool} (h : Plain test) {kind : TokenKind} (hkind : test kind = true) :
    (kind ≠ .leftParen ∧ kind ≠ .rightParen) ∧ kind ≠ .comma := by
  obtain ⟨hleft, hright, hcomma⟩ := h
  refine ⟨⟨?_, ?_⟩, ?_⟩
  · rintro rfl
    rw [hleft] at hkind
    cases hkind
  · rintro rfl
    rw [hright] at hkind
    cases hkind
  · rintro rfl
    rw [hcomma] at hkind
    cases hkind

section Lists

variable {test : TokenKind → Bool} {p : Parser String} {found : List String}

theorem moreItems_texts (hp : ReadsToken test p) (hplain : Plain test) {fuel : Nat}
    (hend : input.finish.kind = .endOfFile) (h : (moreItems p fuel).run input = .ok (found, rest)) :
    ∃ used, Passes input used rest ∧ (∀ token ∈ used, test token.kind = true ∨ token.kind = .comma) ∧
      texts used = found := by
  induction fuel generalizing input found with
  | zero =>
    cases h
    exact ⟨[], .none hend, by simp, rfl⟩
  | succ fuel ih =>
    rw [moreItems] at h
    rcases run_takes_bind (by decide) hend h with ⟨comma, between, hcomma, hpass, h⟩ | ⟨-, h⟩
    · obtain ⟨text, after, hitem, h⟩ := run_bind_eq_ok.1 h
      obtain ⟨token, htoken, rfl, hpass'⟩ := hp hpass.ends hitem
      obtain ⟨items, after, hmore, h⟩ := run_bind_eq_ok.1 h
      cases h
      obtain ⟨used, hpass'', hused, rfl⟩ := ih hpass'.ends hmore
      refine ⟨_, (hpass.trans hpass').trans hpass'', ?_, ?_⟩
      · simpa [hcomma, htoken] using hused
      · simp [texts, hcomma, (hplain.ne htoken).2]
    · cases h
      exact ⟨[], .none hend, by simp, rfl⟩

/-- A list in parentheses holds the texts of its tokens. -/
theorem parenthesized_group (hp : ReadsToken test p) (hplain : Plain test) (hend : input.finish.kind = .endOfFile)
    (h : (parenthesized p).run input = .ok (found, rest)) :
    ∃ inner used, Group inner used ∧ Passes input used rest ∧ texts inner = found ∧
      ∀ token ∈ inner, test token.kind = true ∨ token.kind = .comma := by
  rw [parenthesized] at h
  obtain ⟨left, between, hleft, hpass, h⟩ := run_expect_bind (by decide) hend h
  obtain ⟨items, after, hitems, h⟩ := run_bind_eq_ok.1 h
  obtain ⟨text, between', hitem, hitems⟩ := run_bind_eq_ok.1 hitems
  obtain ⟨token, htoken, rfl, hpass'⟩ := hp hpass.ends hitem
  obtain ⟨_, between', hget, hitems⟩ := run_bind_eq_ok.1 hitems
  cases hget
  obtain ⟨more, between', hmore, hitems⟩ := run_bind_eq_ok.1 hitems
  cases hitems
  obtain ⟨used, hpass'', hused, rfl⟩ := moreItems_texts hp hplain hpass'.ends hmore
  obtain ⟨right, between, hright, hlast, h⟩ := run_expect_bind (by decide) hpass''.ends h
  cases h
  have hinner : ∀ item ∈ token :: used, test item.kind = true ∨ item.kind = .comma := by
    rw [List.forall_mem_cons]
    exact ⟨.inl htoken, hused⟩
  have hlevel : Level (fun _ => true) 0 (token :: used) := by
    refine .of_forall fun item hitem => ⟨?_, rfl⟩
    rcases hinner item hitem with hkind | hkind
    · exact (hplain.ne hkind).1
    · simp [hkind]
  refine ⟨token :: used, _, .intro hleft hlevel hright, ?_, ?_, hinner⟩
  · simpa using ((hpass.trans hpass').trans hpass'').trans hlast
  · simp [texts, (hplain.ne htoken).2]

end Lists

theorem plain_isName : Plain TokenKind.isName :=
  ⟨rfl, rfl, rfl⟩

theorem plain_typeParam : Plain fun kind => kind == .number || kind == .string :=
  ⟨rfl, rfl, rfl⟩

theorem names_group {found : List String} (hend : input.finish.kind = .endOfFile)
    (h : names.run input = .ok (found, rest)) :
    ∃ inner used, Group inner used ∧ Passes input used rest ∧ texts inner = found ∧
      ∀ token ∈ used, token.kind ≠ .keyword .REFERENCES := by
  obtain ⟨inner, used, ⟨hleft, hinner, hright⟩, hpass, hfound, hnames⟩ :=
    parenthesized_group readsToken_name plain_isName hend h
  refine ⟨inner, _, .intro hleft hinner hright, hpass, hfound, fun token htoken hkind => ?_⟩
  rw [List.mem_cons, List.mem_append, List.mem_singleton] at htoken
  rcases htoken with rfl | htoken | rfl
  · rw [hleft] at hkind
    cases hkind
  · have hname := hnames token htoken
    rw [hkind] at hname
    cases hname with
    | inl hname => cases hname
    | inr hcomma => cases hcomma
  · rw [hright] at hkind
    cases hkind

/-! ## Clauses in parentheses -/

/-- A clause that nothing stops ends where a parenthesis closes that it has not opened. -/
theorem clauseFrom_level {depth : Nat} {tokens left : List Token} {found : List String} {right : Token}
    (h : clauseFrom (fun _ => false) depth tokens = (found, right :: left, false)) :
    ∃ inner, tokens = inner ++ right :: left ∧ found = inner.map rendered ∧ Level (fun _ => true) depth inner ∧
      right.kind = .rightParen := by
  induction tokens generalizing depth found with
  | nil => cases h
  | cons token tokens ih =>
    rw [clauseFrom, if_neg (by simp)] at h
    split at h
    · cases h
    · split at h
      · rename_i hclose
        rw [Bool.and_eq_true, decide_eq_true_eq, decide_eq_true_eq] at hclose
        cases h
        exact ⟨[], rfl, rfl, hclose.2, hclose.1⟩
      · rename_i hopen
        rw [Bool.and_eq_true, decide_eq_true_eq, decide_eq_true_eq] at hopen
        have hdepth : (if token.kind = .leftParen then depth + 1 else if token.kind = .rightParen then depth - 1
            else depth) = depthAfter depth token.kind := by
          cases token.kind <;> rfl
        dsimp only at h
        rw [hdepth] at h
        generalize hrest : clauseFrom (fun _ => false) (depthAfter depth token.kind) tokens = outcome at h
        obtain ⟨found', left', unknown⟩ := outcome
        cases h
        obtain ⟨inner, rfl, rfl, hlevel, hright⟩ := ih hrest
        refine ⟨token :: inner, rfl, rfl, ?_, hright⟩
        exact ⟨fun hzero => ⟨fun hkind => hopen ⟨hkind, hzero⟩, rfl⟩, hlevel⟩

theorem clauseTexts_level {what : String} {found : List String} (h : (clauseTexts what fun _ => false).run input =
    .ok (found, rest)) {right : Token} {left : List Token} (hrest : rest.tokens = right :: left) :
    ∃ inner, input.tokens = inner ++ right :: left ∧ found = inner.map rendered ∧ Level (fun _ => true) 0 inner ∧
      right.kind = .rightParen := by
  obtain ⟨hclause, -⟩ := clauseTexts_eq_ok.1 h
  rw [hrest] at hclause
  exact clauseFrom_level hclause

theorem parenthesizedText_group {what text : String} (hend : input.finish.kind = .endOfFile)
    (h : (parenthesizedText what).run input = .ok (text, rest)) :
    ∃ inner used, Group inner used ∧ Passes input used rest ∧ " ".intercalate (inner.map rendered) = text := by
  rw [parenthesizedText] at h
  obtain ⟨left, between, hleft, hpass, h⟩ := run_expect_bind (by decide) hend h
  obtain ⟨found, after, hclause, h⟩ := run_bind_eq_ok.1 h
  obtain ⟨_, between', hget, h⟩ := run_bind_eq_ok.1 h
  cases hget
  have hfinish : after.finish.kind = .endOfFile := by
    rw [(clauseTexts_eq_ok.1 hclause).2]
    exact hpass.ends
  cases htokens : after.tokens with
  | nil =>
    rw [htokens] at h
    cases h
  | cons right tokens =>
    obtain ⟨inner, hinner, rfl, hlevel, hright⟩ := clauseTexts_level hclause htokens
    rw [htokens, List.isEmpty_cons, if_neg Bool.false_ne_true] at h
    dsimp only at h
    split at h
    · cases h
    · cases h
      refine ⟨inner, _, .intro hleft hlevel hright, ⟨?_, hfinish⟩, rfl⟩
      rw [hpass.tokens, hinner]
      simp [htokens]

/-! ## Tokens without rules and defaults -/

theorem isSilent_of_isName {kind : TokenKind} (h : kind.isName = true) : isSilent kind = true := by
  cases kind with
  | keyword word => cases word <;> first | rfl | cases h
  | identifier => rfl
  | _ => cases h

theorem isQuiet_of_isName {kind : TokenKind} (h : kind.isName = true) : isQuiet kind = true :=
  isQuiet_of_isSilent (isSilent_of_isName h)

/-- A single token that neither begins a rule or a default nor opens or closes anything. -/
theorem silent_token {token : Token} (hparen : token.kind ≠ .leftParen ∧ token.kind ≠ .rightParen)
    (hsilent : isSilent token.kind = true) : Silent [token] :=
  (Level.cons hparen hsilent .nil).silent

theorem silent_keyword {token : Token} {word : Keyword} (hkind : token.kind = .keyword word)
    (hsilent : isSilent (.keyword word) = true) : Silent [token] :=
  silent_token (by simp [hkind]) (by rwa [hkind])

theorem level_keyword {token : Token} {word : Keyword} {tokens : List Token} (hkind : token.kind = .keyword word)
    (h : Level isNoComma 0 tokens) : Level isNoComma 0 (token :: tokens) :=
  .cons (by simp [hkind]) (by rw [hkind]; rfl) h

/-- A kind of tokens that neither begin a rule or a default nor open, close or end anything. -/
structure Idle (kind : TokenKind) : Prop where
  silent : isSilent kind = true
  paren : kind ≠ .leftParen ∧ kind ≠ .rightParen
  ne : kind ≠ .endOfFile

theorem idle_of_isName {kind : TokenKind} (h : kind.isName = true) : Idle kind := by
  refine ⟨isSilent_of_isName h, (plain_isName.ne h).1, ?_⟩
  rintro rfl
  cases h

theorem Idle.of_eq {kind kind' : TokenKind} (h : kind = kind') (hidle : Idle kind') : Idle kind := by
  subst h
  exact hidle

theorem idle_keyword {word : Keyword} (h : isSilent (.keyword word) = true) : Idle (.keyword word) :=
  ⟨h, by simp, by simp⟩

/-- The name of a type is kept in capitals. -/
theorem typeName_token {text : String} (hend : input.finish.kind = .endOfFile)
    (h : typeName.run input = .ok (text, rest)) :
    ∃ token, Silent [token] ∧ Text.upper token.text = text ∧ Passes input [token] rest := by
  obtain ⟨token, htype, htext, hpass⟩ := readsToken_advance rfl Text.upper _ hend h
  refine ⟨token, ?_, htext, hpass⟩
  split at htype
  · rename_i hkind
    exact silent_token (by simp [hkind]) (by rw [hkind]; rfl)
  · rename_i word hkind
    refine silent_keyword hkind (isSilent_of_isName ?_)
    cases word <;> first | rfl | cases htype
  · cases htype

/-- Tokens are read that neither begin a rule or a default nor end the definition of a column. -/
def PassesQuietly (input rest : Input) : Prop :=
  ∃ used, Passes input used rest ∧ Silent used

namespace PassesQuietly

theorem none (hend : input.finish.kind = .endOfFile) : PassesQuietly input input :=
  ⟨[], .none hend, .nil⟩

theorem trans (h : PassesQuietly input between) (hmore : PassesQuietly between rest) : PassesQuietly input rest := by
  obtain ⟨used, hpass, hsilent⟩ := h
  obtain ⟨more, hpass', hsilent'⟩ := hmore
  exact ⟨used ++ more, hpass.trans hpass', hsilent.append hsilent'⟩

theorem ends (h : PassesQuietly input rest) : rest.finish.kind = .endOfFile := by
  obtain ⟨used, hpass, -⟩ := h
  exact hpass.ends

theorem tail (hend : input.finish.kind = .endOfFile) (hkind : Idle (next input).kind) :
    PassesQuietly input (Parser.tail input) :=
  ⟨_, passes_tail hend hkind.ne, silent_token hkind.paren hkind.silent⟩

end PassesQuietly

/-- A parser that takes only such tokens. -/
structure Quiet (p : Parser α) : Prop where
  passes : ∀ {input rest : Input} {a : α}, input.finish.kind = .endOfFile → p.run input = .ok (a, rest) →
    PassesQuietly input rest

namespace Quiet

variable {p q : Parser α}

theorem pure (a : α) : Quiet (Pure.pure a) where
  passes hend h := by
    cases h
    exact .none hend

theorem bind {f : α → Parser β} (hp : Quiet p) (hf : ∀ a, Quiet (f a)) : Quiet (p >>= f) where
  passes hend h := by
    obtain ⟨a, between, hfirst, hsecond⟩ := run_bind_eq_ok.1 h
    have hpass := hp.passes hend hfirst
    exact hpass.trans ((hf a).passes hpass.ends hsecond)

theorem ite {c : Prop} [Decidable c] (hp : Quiet p) (hq : Quiet q) : Quiet (if c then p else q) := by
  split
  · exact hp
  · exact hq

theorem mismatch (expected : String) : Quiet (Parser.mismatch expected : Parser α) :=
  ⟨fun _ h => absurd h mismatch_ne_ok⟩

theorem takes (hkind : Idle kind) : Quiet (takes kind) where
  passes hend h := by
    rw [takes_run] at h
    split at h
    · rename_i hsame
      cases h
      exact .tail hend (hsame ▸ hkind)
    · cases h
      exact .none hend

theorem takesWord {word : Keyword} (h : isSilent (.keyword word) = true) : Quiet (takesWord word) :=
  takes (idle_keyword h)

/-- A token is taken after a look at it. -/
theorem advance_passes {f : Token → Parser β} (hf : ∀ token, Quiet (f token)) (hend : input.finish.kind = .endOfFile)
    (hkind : Idle (next input).kind) {b : β} (h : (Parser.advance >>= f).run input = .ok (b, rest)) :
    PassesQuietly input rest := by
  have hpass := PassesQuietly.tail hend hkind
  exact hpass.trans ((hf _).passes hpass.ends h)

theorem name : Quiet name where
  passes hend h := by
    obtain ⟨token, hname, -, hpass⟩ := readsToken_name hend h
    exact ⟨_, hpass, silent_token (idle_of_isName hname).paren (idle_of_isName hname).silent⟩

theorem parenthesized {test : TokenKind → Bool} {p : Parser String} (hp : ReadsToken test p) (hplain : Plain test) :
    Quiet (parenthesized p) where
  passes hend h := by
    obtain ⟨inner, used, hgroup, hpass, -, -⟩ := parenthesized_group hp hplain hend h
    exact ⟨used, hpass, hgroup.silent⟩

/-- An identifier is taken after a look at its spelling. -/
theorem seesIdentifier {capital : String} (hp : Quiet p) (hq : Quiet q) :
    Quiet (do if ← seesIdentifier capital then do let _ ← Parser.advance; p else q) where
  passes {input rest a} hend h := by
    have hrun : (do if ← Parser.seesIdentifier capital then do let _ ← Parser.advance; p else q : Parser α).run input =
        (if (next input).kind == .identifier && Text.upper (next input).text == capital then do
          let _ ← Parser.advance
          p
        else q).run input := rfl
    rw [hrun] at h
    split at h
    · rename_i hidentifier
      rw [Bool.and_eq_true, beq_iff_eq] at hidentifier
      exact advance_passes (fun _ => hp) hend (idle_of_isName (by rw [hidentifier.1]; rfl)) h
    · exact hq.passes hend h

/-- SET is taken together with the word that tells what is set. -/
theorem setAction {a b : α} (hp : Quiet p) : Quiet (do
    if ← Parser.takesWord .SET then
      if ← Parser.takesWord .NULL then Pure.pure a else do
        Parser.expectWord .DEFAULT
        Pure.pure b
    else p) where
  passes hend h := by
    rcases run_takes_bind (by simp) hend h with ⟨set, between, hset, hpass, h⟩ | ⟨-, h⟩
    · rw [if_pos rfl] at h
      rcases run_takes_bind (by simp) hpass.ends h with ⟨null, after, hnull, hpass', h⟩ | ⟨-, h⟩
      · cases h
        exact ⟨_, hpass.trans hpass', .set hset hnull rfl (by decide)⟩
      · obtain ⟨word, after, hword, hpass', h⟩ := run_expect_bind (by simp) hpass.ends h
        cases h
        exact ⟨_, hpass.trans hpass', .set hset hword rfl (by decide)⟩
    · exact hp.passes hend h

theorem referentialAction : Quiet referentialAction :=
  (takesWord rfl).bind fun _ => .ite (.pure _) <| (takesWord rfl).bind fun _ => .ite (.pure _) <|
    setAction <| seesIdentifier (seesIdentifier (.pure _) (.mismatch _)) (.mismatch _)

theorem referentialActions (fuel : Nat) (fk : Reference) : Quiet (referentialActions fuel fk) := by
  induction fuel generalizing fk with
  | zero => exact .pure fk
  | succ fuel ih =>
    exact (takesWord rfl).bind fun _ => .ite
      ((takesWord rfl).bind fun _ => .ite (referentialAction.bind fun _ => ih _) <|
        (takesWord rfl).bind fun _ => .ite (referentialAction.bind fun _ => ih _) (.mismatch _))
      (.pure fk)

end Quiet

theorem head?_of_le (input : Input) {tokens : List Token} (hle : tokens <+: input.tokens)
    (hkind : ((next input).kind == kind) = false) : tokens.head?.any (·.kind == kind) = false := by
  obtain ⟨more, hmore⟩ := hle
  cases tokens with
  | nil => rfl
  | cons token tokens =>
    rw [next, ← hmore] at hkind
    exact hkind

/-! ## Defaults -/

theorem seesNegativeNumber_eq_ok {seen : Bool} (h : seesNegativeNumber.run input = .ok (seen, between)) :
    between = input ∧ (seen = true → (next input).kind = .minus ∧ (next (tail input)).kind = .number) := by
  rw [seesNegativeNumber] at h
  obtain ⟨found, after, hget, h⟩ := run_bind_eq_ok.1 h
  cases hget
  split at h
  · rename_i htokens
    cases h
    simp [next, tail, htokens]
  · cases h
    simp

/-- Tokens are read that say what a default is, whatever comes next. -/
def ReadsDefault (input : Input) (value : Option String) (rest : Input) : Prop :=
  ∃ used, Passes input used rest ∧ Silent used ∧
    ∀ more, more <+: rest.tokens → (WrittenDefault.ofTokens (used ++ more)).text? = value

theorem ReadsDefault.ends {value : Option String} (h : ReadsDefault input value rest) :
    rest.finish.kind = .endOfFile := by
  obtain ⟨used, hpass, -⟩ := h
  exact hpass.ends

/-- A default of one token. -/
theorem readsDefault_token {value : Option String} (hend : input.finish.kind = .endOfFile)
    (hkind : Idle (next input).kind)
    (hvalue : ∀ more, (WrittenDefault.ofTokens (next input :: more)).text? = value) :
    ReadsDefault input value (tail input) :=
  ⟨_, passes_tail hend hkind.ne, silent_token hkind.paren hkind.silent, fun more _ => hvalue more⟩

/-- What a function is given stands in parentheses. -/
theorem function_readsDefault {token : Token} {value : Option String} (hkind : token.kind = .identifier)
    (hpass : Passes input [token] between)
    (h : (do
      if ← takes .leftParen then
        let args ← clause fun _ => false
        expect .rightParen
        pure (some (Text.upper token.text ++ "(" ++ args ++ ")"))
      else pure (some (Text.upper token.text))).run between = .ok (value, rest)) : ReadsDefault input value rest := by
  have hname : Silent [token] := silent_token (by simp [hkind]) (by rw [hkind]; rfl)
  rcases run_takes_bind (by decide) hpass.ends h with ⟨left, behind, hleft, hopen, h⟩ | ⟨hnone, h⟩
  · obtain ⟨args, after, hclause, h⟩ := run_bind_eq_ok.1 h
    obtain ⟨texts, rfl, hfrom, hfinish⟩ := clause_eq_ok.1 hclause
    have hends : after.finish.kind = .endOfFile := by
      rw [hfinish]
      exact hopen.ends
    obtain ⟨right, last, hright, hclose, h⟩ := run_expect_bind (by decide) hends h
    cases h
    rw [hclose.tokens] at hfrom
    obtain ⟨inner, hinner, rfl, hlevel, -⟩ := clauseFrom_level hfrom
    have hgroup : Group inner (left :: (inner ++ [right])) := .intro hleft hlevel hright
    have hlist : Passes between (left :: (inner ++ [right])) rest := by
      refine ⟨?_, hclose.ends⟩
      rw [hopen.tokens, hinner]
      simp
    refine ⟨_, hpass.trans hlist, hname.append hgroup.silent, fun more _ => ?_⟩
    rw [List.append_assoc, List.singleton_append, WrittenDefault.ofTokens, hkind]
    dsimp only
    rw [hgroup.opens, if_pos rfl, hgroup.enclosedText_append]
    rfl
  · cases h
    refine ⟨_, hpass, hname, fun more hmore => ?_⟩
    have hhead : more.head?.any (·.kind == .leftParen) = false := head?_of_le between hmore (by simpa using hnone)
    rw [List.singleton_append, WrittenDefault.ofTokens, hkind]
    dsimp only
    rw [hhead, if_neg Bool.false_ne_true]
    rfl

theorem defaultValue_readsDefault {value : Option String} (hend : input.finish.kind = .endOfFile)
    (h : defaultValue.run input = .ok (value, rest)) : ReadsDefault input value rest := by
  rw [defaultValue] at h
  replace h := run_bind_eq_ok.1 h
  obtain ⟨negative, between, hnegative, h⟩ := h
  obtain ⟨rfl, hminus⟩ := seesNegativeNumber_eq_ok hnegative
  split at h
  · rename_i hseen
    obtain ⟨hkind, hnumber⟩ := hminus hseen
    cases h
    have hpass := passes_tail hend (by simp [hkind])
    have hpass' := passes_tail hpass.ends (by simp [hnumber])
    refine ⟨_, hpass.trans hpass', ?_, fun more _ => ?_⟩
    · exact (silent_token (by simp [hkind]) (by rw [hkind]; rfl)).append
        (silent_token (by simp [hnumber]) (by rw [hnumber]; rfl))
    · rw [List.append_assoc, List.singleton_append, WrittenDefault.ofTokens, hkind]
      rfl
  · rw [run_current_bind] at h
    split at h
    · rename_i hkind
      cases h
      refine readsDefault_token hend (.of_eq hkind ⟨rfl, by decide, by decide⟩) fun more => ?_
      rw [WrittenDefault.ofTokens, hkind]
      rfl
    · rename_i hkind
      cases h
      refine readsDefault_token hend (.of_eq hkind ⟨rfl, by decide, by decide⟩) fun more => ?_
      rw [WrittenDefault.ofTokens, hkind]
      rfl
    · rename_i hkind
      cases h
      refine readsDefault_token hend (.of_eq hkind (idle_keyword rfl)) fun more => ?_
      rw [WrittenDefault.ofTokens, hkind]
      rfl
    · rename_i hkind
      cases h
      refine readsDefault_token hend (.of_eq hkind (idle_keyword rfl)) fun more => ?_
      rw [WrittenDefault.ofTokens, hkind]
      exact congrArg (fun kind : TokenKind => some kind.name) hkind.symm
    · rename_i hkind
      cases h
      refine readsDefault_token hend (.of_eq hkind (idle_keyword rfl)) fun more => ?_
      rw [WrittenDefault.ofTokens, hkind]
      exact congrArg (fun kind : TokenKind => some kind.name) hkind.symm
    · rename_i hkind
      exact function_readsDefault hkind (passes_tail hend (by simp [hkind])) h
    · exact absurd h mismatch_ne_ok

/-! ## References -/

theorem referentialActions_rule {fuel : Nat} {fk fk' : Reference}
    (h : (referentialActions fuel fk).run input = .ok (fk', rest)) : fk'.rule = fk.rule := by
  induction fuel generalizing input fk with
  | zero =>
    cases h
    rfl
  | succ fuel ih =>
    rw [referentialActions] at h
    obtain ⟨taken, between, -, h⟩ := run_bind_eq_ok.1 h
    split at h
    · obtain ⟨taken, between, -, h⟩ := run_bind_eq_ok.1 h
      split at h
      · obtain ⟨action, between, -, h⟩ := run_bind_eq_ok.1 h
        have hrule := ih h
        exact hrule
      · obtain ⟨taken, between, -, h⟩ := run_bind_eq_ok.1 h
        split at h
        · obtain ⟨action, between, -, h⟩ := run_bind_eq_ok.1 h
          have hrule := ih h
          exact hrule
        · exact absurd h mismatch_ne_ok
    · cases h
      rfl

/-- What follows REFERENCES makes the rule that is read off it, whatever comes next. -/
theorem reference_rule {constraint : Option String} {columns : List String} {fk : Reference}
    (hend : input.finish.kind = .endOfFile) (h : (reference constraint columns).run input = .ok (fk, rest)) :
    ∃ used, Passes input used rest ∧ Silent used ∧
      ∀ more, more <+: rest.tokens → referenceRule columns (used ++ more) = fk.rule := by
  rw [reference] at h
  obtain ⟨name, between, hname, h⟩ := run_bind_eq_ok.1 h
  obtain ⟨table, htable, rfl, hpass⟩ := readsToken_name hend hname
  have hsilent : Silent [table] := silent_token (idle_of_isName htable).paren (idle_of_isName htable).silent
  rw [run_sees_bind] at h
  split at h
  · obtain ⟨refColumns, after, hnames, h⟩ := run_bind_eq_ok.1 h
    obtain ⟨inner, list, hgroup, hlist, rfl, -⟩ := names_group hpass.ends hnames
    obtain ⟨_, after', hget, hactions⟩ := run_bind_eq_ok.1 h
    cases hget
    obtain ⟨actions, hlast, hsilent'⟩ := (Quiet.referentialActions _ _).passes hlist.ends hactions
    refine ⟨_, (hpass.trans hlist).trans hlast, (hsilent.append hgroup.silent).append hsilent', fun more _ => ?_⟩
    rw [referentialActions_rule hactions]
    have hlisted : enclosedNames (list ++ (actions ++ more)) = texts inner := hgroup.enclosedNames_append [] _ (by simp)
    rw [List.append_assoc, List.append_assoc, List.singleton_append, referenceRule_cons, hgroup.opens, if_pos rfl,
      hlisted]
    rfl
  · rename_i hopen
    obtain ⟨_, after, hget, hactions⟩ := run_bind_eq_ok.1 h
    cases hget
    obtain ⟨actions, hlast, hsilent'⟩ := (Quiet.referentialActions _ _).passes hpass.ends hactions
    refine ⟨_, hpass.trans hlast, hsilent.append hsilent', fun more hmore => ?_⟩
    rw [referentialActions_rule hactions]
    have hhead : (actions ++ more).head?.any (·.kind == .leftParen) = false := by
      refine head?_of_le between ?_ (by simpa using hopen)
      rw [hlast.tokens]
      exact (List.prefix_append_right_inj actions).2 hmore
    rw [List.append_assoc, List.singleton_append, referenceRule_cons, hhead, if_neg Bool.false_ne_true]
    rfl

end Parser

end Relational.Sql
