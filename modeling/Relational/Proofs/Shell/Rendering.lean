import Relational.Proofs.AffectedRows
import Relational.Proofs.Shell.Lines
import Relational.Proofs.Sql.RecasedParser

/-!
# What is printed of a statement

A statement is what its first token makes it, but what is printed of its result is decided by the first word of the
text, up to white space. The two go together exactly if the word is one for the reader of tokens as well: if nothing but
letters, digits and underscores stands before the first white space. Otherwise a statement on rows is answered with
`OK`, and the rows of a query are not shown.
-/

namespace Relational

open Text

/-! ## The keyword of a statement -/

namespace Sql

variable {input rest : Input} {found : Statement} {word : Keyword} {sql : String}

/-- The keyword of a statement on rows. -/
def rowKeyword? : Statement → Option Keyword
  | .select _ => some .SELECT
  | .insert _ => some .INSERT
  | .update _ => some .UPDATE
  | .delete _ => some .DELETE
  | _ => none

theorem mem_rowKeywords (h : rowKeyword? found = some word) : word ∈ Parser.rowKeywords := by
  cases found <;> cases h <;> decide

/-- A statement on rows was read from its keyword on. -/
theorem Parser.kind_next_of_rowKeyword? (h : statement.run input = .ok (found, rest))
    (hword : rowKeyword? found = some word) : (next input).kind = .keyword word := by
  have hother : ∀ {p : Parser Statement}, Returns (rowKeyword? · = none) p → p.run input ≠ .ok (found, rest) := by
    intro p hp hrun
    rw [hp.holds hrun] at hword
    cases hword
  rw [statement, run_current_bind] at h
  split at h
  iterate 4
    rename_i hkind
    obtain ⟨_, -, rfl⟩ := run_map_eq_ok.1 h
    cases hword
    exact hkind
  · exact absurd h (hother (.create (fun _ => rfl) fun _ => rfl))
  · exact absurd h (hother (.alter fun _ _ _ _ => rfl))
  · exact absurd h (hother (.drop fun _ _ => rfl))
  · exact absurd h (hother (.transaction rfl))
  · exact absurd h (hother (.transaction rfl))
  · exact absurd h (hother (.transaction rfl))
  · exact absurd h (hother (.mismatch _))

/-- The first token of a statement on rows is its keyword. -/
theorem exists_first_token (h : parse sql = .ok found) (hword : rowKeyword? found = some word) :
    ∃ token tokens, tokenize sql = token :: tokens ∧ token.kind = .keyword word := by
  obtain ⟨rest, hscript⟩ := parse_eq_ok.1 h
  obtain ⟨between, hstatement, -⟩ := Parser.script_eq_ok hscript
  have hkind := Parser.kind_next_of_rowKeyword? hstatement hword
  cases htokens : tokenize sql with
  | nil =>
    rw [htokens] at hkind
    cases hkind
  | cons token tokens =>
    refine ⟨token, tokens, rfl, ?_⟩
    rw [htokens] at hkind
    by_cases hend : token.kind = .endOfFile
    · have hnext : Parser.next (.ofTokens (token :: tokens)) = (Input.ofTokens (token :: tokens)).finish := by
        simp [Parser.next, Input.ofTokens, hend]
      rw [hnext, kind_finish_ofTokens] at hkind
      cases hkind
    · rwa [Parser.next, ofTokens_cons hend, List.headD_cons] at hkind

end Sql

/-! ## The first word -/

section FirstWord

open Sql

variable {c : Char} {cs : List Char} {word : Keyword} {token : Token} {tokens : List Token} {position : Position}
  {text sql : String}

/-- The characters of a text before the first white space in it. -/
def firstWord (cs : List Char) : List Char :=
  (wordsFrom [] cs).headD []

theorem firstWord_of_isBlank (h : isBlank c = true) (cs : List Char) : firstWord (c :: cs) = firstWord cs := by
  rw [firstWord, wordsFrom, if_pos h]
  rfl

theorem headD_wordsFrom (c : Char) (before cs : List Char) :
    (wordsFrom (c :: before) cs).headD [] = (c :: before).reverse ++ cs.takeWhile (!isBlank ·) := by
  induction cs generalizing c before with
  | nil => simp [wordsFrom]
  | cons d cs ih =>
    by_cases hd : isBlank d = true
    · simp [wordsFrom, hd]
    · rw [Bool.not_eq_true] at hd
      rw [wordsFrom, if_neg (by simp [hd]), ih, List.takeWhile_cons_of_pos (by simp [hd]), List.reverse_cons,
        List.append_assoc]
      rfl

theorem firstWord_cons (h : isBlank c = false) (cs : List Char) :
    firstWord (c :: cs) = c :: cs.takeWhile (!isBlank ·) := by
  rw [firstWord, wordsFrom, if_neg (by simp [h]), headD_wordsFrom]
  rfl

theorem toList_headD_words (sql : String) : ((words sql).headD "").toList = firstWord sql.toList := by
  rw [words, firstWord]
  cases wordsFrom [] sql.toList with
  | nil => rfl
  | cons first rest => rw [List.map_cons, List.headD_cons, List.headD_cons, String.toList_ofList]

/-- Up to white space is up to the end of the word, if there is nothing else before the white space. -/
theorem takeWhile_isWordChar (h : ∀ d ∈ cs.takeWhile (!isBlank ·), isWordChar d = true) :
    cs.takeWhile isWordChar = cs.takeWhile (!isBlank ·) := by
  induction cs with
  | nil => rfl
  | cons c cs ih =>
    by_cases hc : isBlank c = true
    · have hword : isWordChar c = false := by
        rw [← Bool.not_eq_true]
        intro hword
        rw [isBlank_of_isWordChar hword] at hc
        cases hc
      simp [hc, hword]
    · rw [Bool.not_eq_true] at hc
      have htaken : (c :: cs).takeWhile (!isBlank ·) = c :: cs.takeWhile (!isBlank ·) :=
        List.takeWhile_cons_of_pos (by simp [hc])
      rw [htaken, List.forall_mem_cons] at h
      rw [htaken, List.takeWhile_cons_of_pos h.1, ih h.2]

/-- A keyword is read from a word. -/
theorem lexeme_of_keyword (h : (lexeme c cs).1 = .keyword word) : isWordStart c = true ∧
    wordKind (lexeme c cs).2.1 = .keyword word ∧ (lexeme c cs).2.1 = String.ofList (c :: cs.takeWhile isWordChar) := by
  rcases lexeme_cases c cs with ⟨hstart, -, htext⟩ | ⟨-, hstring⟩ | ⟨⟨hword, -⟩, -⟩
  · refine ⟨hstart, ?_, htext⟩
    have hkind : (lexeme c cs).1 = wordKind (String.ofList (c :: cs.takeWhile isWordChar)) := by
      rw [lexeme, if_pos hstart]
    rw [htext, ← hkind, h]
  · rw [hstring] at h
    cases h
  · rw [h] at hword
    cases hword

/-- The text of a keyword, and the first word of the text that starts with it. -/
theorem first_keyword (htokens : tokenizeFrom position cs = token :: tokens) (hkind : token.kind = .keyword word) :
    wordKind token.text = .keyword word ∧
      ((∀ d ∈ firstWord cs, isWordChar d = true) → token.text = String.ofList (firstWord cs)) := by
  induction position, cs using tokenizeFrom.induct with
  | case1 position =>
    rw [tokenizeFrom_nil] at htokens
    cases htokens
    cases hkind
  | case2 position c cs n hgap ih =>
    rw [tokenizeFrom_gap hgap] at htokens
    obtain ⟨hname, htext⟩ := ih htokens
    refine ⟨hname, fun hwords => ?_⟩
    cases hblank : isBlank c with
    | true =>
      rw [gap?_of_isBlank hblank, Option.some.injEq] at hgap
      subst hgap
      rw [firstWord_of_isBlank hblank] at hwords ⊢
      exact htext hwords
    | false =>
      -- a comment starts with a dash, which is no part of a word
      have hcomment : startsComment (c :: cs) = true := by
        by_contra hcomment
        rw [gap?_eq_none hblank (by simpa using hcomment)] at hgap
        cases hgap
      obtain ⟨body, rfl, -⟩ := exists_comment hcomment
      rw [firstWord_cons hblank] at hwords
      exact absurd (hwords _ List.mem_cons_self) (by decide)
  | case3 position c cs hgap kind text n hlexeme ih =>
    rw [tokenizeFrom_token hgap, List.cons.injEq] at htokens
    obtain ⟨rfl, -⟩ := htokens
    obtain ⟨hstart, hread, htext⟩ := lexeme_of_keyword hkind
    refine ⟨hread, fun hwords => ?_⟩
    rw [firstWord_cons (isBlank_of_isWordChar (isWordChar_of_isWordStart hstart)), List.forall_mem_cons] at hwords
    rw [firstWord_cons (isBlank_of_isWordChar (isWordChar_of_isWordStart hstart)), ← takeWhile_isWordChar hwords.2]
    exact htext

/-- A keyword is the upper case of its text. -/
theorem upper_of_wordKind (h : wordKind text = .keyword word) (hword : word ∈ Parser.rowKeywords) :
    upper text = word.name := by
  have hplain : word ≠ .AUTO_INCREMENT := by
    rintro rfl
    revert hword
    decide
  unfold wordKind Keyword.ofWord? at h
  dsimp only at h
  split at h
  · rename_i hfound
    cases h
    split at hfound
    · exact absurd (Option.some.inj hfound).symm hplain
    · have hname := List.find?_some hfound
      exact (beq_iff_eq.1 hname).symm
  · cases h

/-- Only letters have a keyword as their upper case. -/
theorem isWordChar_of_upper (h : upper text = word.name) (hword : word ∈ Parser.rowKeywords) :
    ∀ c ∈ text.toList, isWordChar c = true := by
  intro c hc
  have hcapitals : ∀ word ∈ Parser.rowKeywords, (word.name.toList.all fun u => isCapital u.toNat) = true := by decide
  have hletter : isLetter c = true := isLetter_of_upperChar fun u hu =>
    List.all_eq_true.1 (hcapitals word hword) u (by rw [← h]; exact mem_upper hc hu)
  rw [isWordChar, isLetterOrNumber_of_isLetter hletter, Bool.or_true]

/-- The first word of a statement on rows is its keyword if it is one word for the reader of tokens. -/
theorem operation_eq_iff {found : Statement} (hparse : parse sql = .ok found) (hword : rowKeyword? found = some word) :
    Shell.operation sql = word.name ↔ ∀ c ∈ ((words sql).headD "").toList, isWordChar c = true := by
  have hrow := mem_rowKeywords hword
  refine ⟨fun hname => isWordChar_of_upper hname hrow, fun hchars => ?_⟩
  obtain ⟨token, tokens, htokens, hkind⟩ := exists_first_token hparse hword
  obtain ⟨hname, htext⟩ := first_keyword htokens hkind
  rw [toList_headD_words] at hchars
  have hfirst : (words sql).headD "" = token.text := by
    rw [htext hchars, ← toList_headD_words, String.ofList_toList]
  rw [Shell.operation, hfirst, upper_of_wordKind hname hrow]

end FirstWord

/-! ## Results of statements on rows -/

namespace Execution

variable {db : Database} {now : Timestamp} {r : Result}

theorem message_makeSteps {attempts : List (Database → Except Failure Database.Step)} {count : Nat}
    (h : (makeSteps count attempts db).1 = .ok r) : r.message = "" := by
  induction attempts generalizing count db with
  | nil =>
    cases h
    rfl
  | cons attempt attempts ih =>
    rw [makeSteps] at h
    cases hattempt : attempt db with
    | error failure =>
      rw [hattempt] at h
      cases h
    | ok step =>
      simp only [hattempt] at h
      generalize db.answer step = outcome at h
      obtain ⟨answer, db'⟩ := outcome
      cases answer with
      | ok => exact ih h
      | error failure =>
        cases failure with
        | rejection cause =>
          cases h
          rfl
        | refusal | fault => cases h

theorem message_select {statement : Sql.Select} (h : select db now statement = .ok r) : r.message = "" := by
  rw [select] at h
  split at h
  · cases h
  · obtain ⟨s, -, h⟩ := bind_eq_ok.1 h
    obtain ⟨⟨rows, positions⟩, -, h⟩ := bind_eq_ok.1 h
    obtain ⟨sorted, -, h⟩ := bind_eq_ok.1 h
    cases h
    rfl

end Execution

namespace Session

open Execution

variable {session : Session} {now : Timestamp} {statement : Sql.Statement} {word : Sql.Keyword} {sql : String}

/-- A statement on rows has nothing to say but its numbers and rows. -/
theorem message_execute (hword : Sql.rowKeyword? statement = some word) {r : Result}
    (h : (session.execute now statement).1 = .ok r) : r.message = "" := by
  have hchange : ∀ name, changedTable? statement = some name → r.message = "" := by
    intro name hname
    rw [execute_eq hname, after] at h
    split at h
    · cases h
    · exact message_makeSteps h
  cases statement with
  | select statement => exact message_select h
  | insert statement => exact hchange _ rfl
  | update statement => exact hchange _ rfl
  | delete statement => exact hchange _ rfl
  | _ => cases hword

theorem message_run (hparse : Sql.parse sql = .ok statement) (hword : Sql.rowKeyword? statement = some word)
    {r : Result} (h : (session.run now sql).1 = .ok r) : r.message = "" := by
  have hreported : r = reported (session.execute now statement).1 := by
    rw [run, hparse] at h
    exact (Except.ok.inj h).symm
  cases houtcome : (session.execute now statement).1 with
  | ok result =>
    rw [hreported, houtcome]
    exact message_execute hword houtcome
  | error failure =>
    rw [hreported, houtcome]
    cases failure <;> rfl

end Session

/-! ## What is printed -/

namespace Report

variable {r : Result}

/-- What a result is to be printed as, for a statement on rows. -/
def rendering (r : Result) : Sql.Keyword → Except Failure String
  | .SELECT => selection r.columns r.rows
  | word => .ok (change r.affectedRows word.name)

theorem length_change (count : Int) (operation : String) : 2 < (change count operation).length := by
  simp only [change, String.length_append]
  have : " OK, ".length = 5 := rfl
  omega

theorem length_selection {columns : List String} {rows : List (List Cell)} {text : String}
    (h : selection columns rows = .ok text) : 2 < text.length := by
  unfold selection at h
  split at h
  · cases h
    decide
  · split at h
    · cases h
      have hopen : "\n(".length = 2 := rfl
      have hclose : ")".length = 1 := rfl
      simp only [String.length_append]
      omega
    · cases h

theorem rendering_ne_ok (r : Result) (word : Sql.Keyword) : rendering r word ≠ .ok "OK" := by
  have hshort : ¬ 2 < "OK".length := by decide
  intro h
  unfold rendering at h
  split at h
  · exact hshort (length_selection h)
  · rw [← Except.ok.inj h] at hshort
    exact hshort (length_change _ _)

theorem result_of_rowKeyword (hsuccess : r.success = true) {word : Sql.Keyword} (hword : word ∈ Sql.Parser.rowKeywords) :
    result r word.name = rendering r word := by
  simp only [Sql.Parser.rowKeywords, List.mem_cons, List.not_mem_nil, or_false] at hword
  rcases hword with rfl | rfl | rfl | rfl
  all_goals
    rw [result, hsuccess]
    rfl

/-- Under any other word nothing is shown of a result that says nothing. -/
theorem result_of_other (hsuccess : r.success = true) (hmessage : r.message = "") {operation : String}
    (h : ∀ word ∈ Sql.Parser.rowKeywords, operation ≠ word.name) : result r operation = .ok "OK" := by
  simp only [Sql.Parser.rowKeywords, List.forall_mem_cons, Sql.Keyword.name] at h
  simp [result, hsuccess, hmessage, h]

end Report

namespace Shell

variable {session : Session} {now : Timestamp} {found : Sql.Statement} {word : Sql.Keyword} {sql : String} {r : Result}

/-- A text that is printed is told by its line. -/
theorem printed_singleton_inj {text text' : String} (h : printed [text] = printed [text']) : text = text' := by
  have hprinted : ∀ text : String, printed [text] = text ++ "\n" := fun text => by simp [printed]
  rw [hprinted, hprinted] at h
  exact String.append_left_inj _ |>.1 h

theorem statement_eq (hrun : (session.run now sql).1 = .ok r) :
    (statement session now sql).1 = (Report.result r (operation sql)).map fun text => (r, printed [text]) := by
  have hshown : (statement session now sql).1 = (do
      let r ← (session.run now sql).1
      pure (r, printed [← Report.result r (operation sql)])) := rfl
  rw [hshown, hrun, ok_bind]
  cases Report.result r (operation sql) <;> rfl

/-- A statement on rows that succeeds is printed as what it is exactly if the first word of its text, up to white space,
is a word for the reader of tokens as well. -/
theorem statement_rendered_iff (hparse : Sql.parse sql = .ok found) (hword : Sql.rowKeyword? found = some word)
    (hrun : (session.run now sql).1 = .ok r) (hsuccess : r.success = true) :
    (statement session now sql).1 = (Report.rendering r word).map (fun text => (r, printed [text])) ↔
      ∀ c ∈ ((words sql).headD "").toList, isWordChar c = true := by
  have hrow := Sql.mem_rowKeywords hword
  rw [statement_eq hrun, ← operation_eq_iff hparse hword]
  refine ⟨fun hshown => ?_, fun hoperation => by rw [hoperation, Report.result_of_rowKeyword hsuccess hrow]⟩
  by_contra hne
  -- under another keyword the word would be one of its own, and so the keyword of the statement
  have hother : ∀ word' ∈ Sql.Parser.rowKeywords, operation sql ≠ word'.name := fun word' hrow' hname =>
    hne ((operation_eq_iff hparse hword).2 (isWordChar_of_upper hname hrow'))
  rw [Report.result_of_other hsuccess (Session.message_run hparse hword hrun) hother] at hshown
  cases hrendering : Report.rendering r word with
  | error failure =>
    rw [hrendering] at hshown
    cases hshown
  | ok text =>
    rw [hrendering] at hshown
    have htext := printed_singleton_inj (congrArg Prod.snd (Except.ok.inj hshown))
    exact Report.rendering_ne_ok r word (by rw [hrendering, ← htext])

/-! ### A label that is selected -/

open Session (Label.one)

/-- The answer to a query of all labels. -/
def labelRow : Result :=
  .found ["number", "kind"] [[.text "7", .text "x"]]

/-- The label as a grid. -/
def labelGrid : String :=
  "+----------+--------+\n| number   | kind   |\n+==========+========+\n| 7        | x      |\n+----------+--------+\n(1 row)"

/-- The label is shown, wherever the query stands and in whatever case its keyword is. -/
theorem label_shown : (statement Label.one Database.Label.moment "\n  select * FROM label").1 =
    .ok (labelRow, printed [labelGrid]) := by
  have hparse : Sql.parse "\n  select * FROM label" = .ok (.select ⟨.all, "label", none, none, none, none⟩) :=
    Sql.parse_eq_select (by decide +kernel)
  have hrun : (Label.one.run Database.Label.moment "\n  select * FROM label").1 = .ok labelRow := by decide +kernel
  have hgrid : Report.rendering labelRow .SELECT = .ok labelGrid := by decide +kernel
  have hword : (((words "\n  select * FROM label").headD "").toList.all isWordChar) = true := by decide +kernel
  rw [(statement_rendered_iff hparse rfl hrun rfl).2 (List.all_eq_true.1 hword), hgrid]
  rfl

/-- With an asterisk right behind its keyword the query finds the label as well, and it is not shown. -/
theorem label_unshown : Sql.parse "SELECT* FROM label" = .ok (.select ⟨.all, "label", none, none, none, none⟩) ∧
    (Label.one.run Database.Label.moment "SELECT* FROM label").1 = .ok labelRow ∧
    Report.selection labelRow.columns labelRow.rows = .ok labelGrid ∧
    (statement Label.one Database.Label.moment "SELECT* FROM label").1 = .ok (labelRow, printed ["OK"]) :=
  ⟨Sql.parse_eq_select (by decide +kernel), by decide +kernel, by decide +kernel, by decide +kernel⟩

end Shell

end Relational
