import Relational.Proofs.Sql.Passing

/-!
# Reading definitions

What the parsers of a table definition make of the tokens they take: the rules that they put down are those that the
keywords of these tokens begin, but for those that later ones of the same column replace, and the default of a column is
the last one that stands in its definition.
-/

namespace Relational.Sql

namespace Parser

variable {α β : Type} {input between rest : Input} {column result : ColumnClause} {before : List Rule}

/-! ## Columns -/

/-- The rules of a column are those that remain of the rules that were read. -/
def Holds (column : ColumnClause) (rules : List Rule) : Prop :=
  ∀ rule, rule ∈ column.rules ↔ rule ∈ remaining rules

namespace Holds

theorem primaryKey (h : Holds column before) :
    Holds { column with primaryKey := true } (before ++ [.primaryKey column.name]) := by
  intro rule
  rw [mem_remaining_concat, ← h]
  cases rule <;> simp [ColumnClause.rules, ColumnClause.ownRules, Rule.samePlace, Reference.rule]

theorem unique (h : Holds column before) :
    Holds { column with unique := true } (before ++ [.unique [column.name]]) := by
  intro rule
  rw [mem_remaining_concat, ← h]
  cases rule <;> simp [ColumnClause.rules, ColumnClause.ownRules, Rule.samePlace, Reference.rule]

theorem notNull (h : Holds column before) :
    Holds { column with notNull := true } (before ++ [.notNull column.name]) := by
  intro rule
  rw [mem_remaining_concat, ← h]
  cases rule <;> simp [ColumnClause.rules, ColumnClause.ownRules, Rule.samePlace, Reference.rule]

/-- A condition takes the place of one that was read before. -/
theorem check (h : Holds column before) (text : String) :
    Holds { column with check := some text } (before ++ [.check (some column.name) text]) := by
  intro rule
  rw [mem_remaining_concat, ← h]
  cases rule <;> simp [ColumnClause.rules, ColumnClause.ownRules, Rule.samePlace, Reference.rule]

/-- A reference takes the place of one that was read before. -/
theorem reference (h : Holds column before) (fk : Reference) :
    Holds { column with references := some fk } (before ++ [fk.rule]) := by
  intro rule
  rw [mem_remaining_concat, ← h]
  cases rule <;> simp [ColumnClause.rules, ColumnClause.ownRules, Rule.samePlace, Reference.rule]

end Holds

/-- Tokens are read whose rules, after those of the tokens before, are the rules of a column with a name and a type, and
whose last default is in the place of the one before. -/
def Reads (input : Input) (name typeName : String) (default : Option String) (before : List Rule)
    (result : ColumnClause) (rest : Input) : Prop :=
  ∃ used, Passes input used rest ∧ Level isNoComma 0 used ∧ Holds result (before ++ columnRules name 0 used) ∧
    result.name = name ∧ result.typeName = typeName ∧
      result.default = ((lastDefault? used).map WrittenDefault.text?).getD default

section Reads

variable {name typeName : String} {value value' : Option String} {clause : List Token}

theorem Reads.none (hend : input.finish.kind = .endOfFile) (hrules : Holds column before) :
    Reads input column.name column.typeName column.default before column input :=
  ⟨[], .none hend, .nil, by rwa [columnRules, List.append_nil], rfl, rfl, rfl⟩

/-- A clause is read, and what follows it. -/
theorem Reads.after {new : List Rule} (hpass : Passes input clause between)
    (hlevel : Level isNoComma 0 clause)
    (hnew : ∀ more, more <+: between.tokens → columnRules name 0 (clause ++ more) = new ++ columnRules name 0 more)
    (hdefault : ∀ more, more <+: between.tokens → ((lastDefault? (clause ++ more)).map WrittenDefault.text?).getD value
      = ((lastDefault? more).map WrittenDefault.text?).getD value')
    (h : Reads between name typeName value' (before ++ new) result rest) :
    Reads input name typeName value before result rest := by
  obtain ⟨used, hrest, hused, hholds, hname, htype, hvalue⟩ := h
  have hbegins : used <+: between.tokens := ⟨rest.tokens, hrest.tokens.symm⟩
  refine ⟨clause ++ used, hpass.trans hrest, hlevel.append hused, ?_, hname, htype, ?_⟩
  · rw [hnew used hbegins, ← List.append_assoc]
    exact hholds
  · rw [hdefault used hbegins, hvalue]

/-- Tokens without rules and defaults are read, and what follows them. -/
theorem Reads.quietly (hpass : PassesQuietly input between)
    (h : Reads between name typeName value before result rest) :
    Reads input name typeName value before result rest := by
  obtain ⟨clause, hpass, hsilent⟩ := hpass
  have hnew : ∀ more, more <+: between.tokens → columnRules name 0 (clause ++ more) = [] ++ columnRules name 0 more :=
    fun more _ => hsilent.quiet.columnRules_append name more
  rw [← List.append_nil before] at h
  refine .after hpass (hsilent.quiet.mono fun _ => isNoComma_of_isQuiet) hnew (fun more _ => ?_) h
  rw [lastDefault?, hsilent.defaults, ← lastDefault?]

/-- A keyword that begins a rule is read, tokens without rules that complete it, and what follows them. -/
theorem Reads.keyword {word : Keyword} {token : Token} {new : Rule} (hkind : token.kind = .keyword word)
    {behind : Input} (hpass : Passes input [token] behind) (hclause : Passes behind clause between)
    (hsilent : Silent clause)
    (hnew : ∀ more, more <+: between.tokens → columnRule? name (clause ++ more) (.keyword word) = some new)
    (h : Reads between name typeName value (before ++ [new]) result rest) :
    Reads input name typeName value before result rest := by
  refine .after (hpass.trans hclause) ?_ (fun more hmore => ?_) (fun more hmore => ?_) h
  · exact level_keyword hkind (hsilent.quiet.mono fun _ => isNoComma_of_isQuiet)
  · rw [List.append_assoc, List.singleton_append, columnRules_keyword hkind, hnew more hmore,
      hsilent.quiet.columnRules_append]
    rfl
  · have hrule := hnew more hmore
    have hdefault : word ≠ .DEFAULT := by
      rintro rfl
      cases hrule
    have hset : word ≠ .SET := by
      rintro rfl
      cases hrule
    rw [lastDefault?, List.append_assoc, List.singleton_append, defaults_keyword_of_ne hkind hdefault hset,
      hsilent.defaults, ← lastDefault?]

/-- A default is read, and what follows it. -/
theorem Reads.default {token : Token} (hkind : token.kind = .keyword .DEFAULT) {behind : Input}
    (hpass : Passes input [token] behind) (hvalue : ReadsDefault behind value' between)
    (h : Reads between name typeName value' before result rest) :
    Reads input name typeName value before result rest := by
  obtain ⟨clause, hclause, hsilent, hvalue⟩ := hvalue
  rw [← List.append_nil before] at h
  refine .after (hpass.trans hclause) ?_ (fun more _ => ?_) (fun more hmore => ?_) h
  · exact level_keyword hkind (hsilent.quiet.mono fun _ => isNoComma_of_isQuiet)
  · rw [List.append_assoc, List.singleton_append, columnRules_keyword hkind, hsilent.quiet.columnRules_append]
    rfl
  · rw [lastDefault?, List.append_assoc, List.singleton_append, defaults_keyword hkind, hsilent.defaults,
      List.getLast?_cons, ← lastDefault?]
    cases lastDefault? more with
    | none => exact hvalue more hmore
    | some value => rfl

end Reads

theorem columnConstraints_reads {fuel : Nat} {constraint : Option String} (hend : input.finish.kind = .endOfFile)
    (h : (columnConstraints fuel constraint column).run input = .ok (result, rest)) (hrules : Holds column before) :
    Reads input column.name column.typeName column.default before result rest := by
  induction fuel generalizing input constraint column before with
  | zero =>
    cases h
    exact .none hend hrules
  | succ fuel ih =>
    rw [columnConstraints, run_sees_bind] at h
    split at h
    · cases h
      exact .none hend hrules
    -- each clause is read off its keyword, and the induction goes on behind it
    rcases run_takes_bind (by simp) hend h with ⟨token, between, hkind, hpass, h⟩ | ⟨-, h⟩
    · rw [if_pos rfl] at h
      obtain ⟨key, after, hkey, hpass', h⟩ := run_expect_bind (by simp) hpass.ends h
      have hrest := ih hpass'.ends h hrules.primaryKey
      exact .keyword hkind hpass hpass' (silent_keyword hkey rfl) (fun _ _ => rfl) hrest
    rw [if_neg Bool.false_ne_true] at h
    rcases run_takes_bind (by simp) hend h with ⟨token, between, hkind, hpass, h⟩ | ⟨-, h⟩
    · rw [if_pos rfl] at h
      rcases run_takes_bind (by simp) hpass.ends h with ⟨key, after, hkey, hpass', h⟩ | ⟨-, h⟩
      · have hrest := ih hpass'.ends h hrules.unique
        exact .keyword hkind hpass hpass' (silent_keyword hkey rfl) (fun _ _ => rfl) hrest
      · have hrest := ih hpass.ends h hrules.unique
        exact .keyword hkind hpass (.none hpass.ends) .nil (fun _ _ => rfl) hrest
    rw [if_neg Bool.false_ne_true] at h
    rcases run_takes_bind (by simp) hend h with ⟨token, between, hkind, hpass, h⟩ | ⟨-, h⟩
    · rw [if_pos rfl] at h
      obtain ⟨null, after, hnull, hpass', h⟩ := run_expect_bind (by simp) hpass.ends h
      have hrest := ih hpass'.ends h hrules.notNull
      exact .keyword hkind hpass hpass' (silent_keyword hnull rfl) (fun _ _ => rfl) hrest
    rw [if_neg Bool.false_ne_true] at h
    rcases run_takes_bind (by simp) hend h with ⟨token, between, hkind, hpass, h⟩ | ⟨-, h⟩
    · have hrest := ih hpass.ends h hrules
      exact .quietly ⟨_, hpass, silent_keyword hkind rfl⟩ hrest
    rw [if_neg Bool.false_ne_true] at h
    rcases run_takes_bind (by simp) hend h with ⟨token, between, hkind, hpass, h⟩ | ⟨-, h⟩
    · have hnumbered : Holds { column with autoIncrement := true } before := hrules
      have hrest := ih hpass.ends h hnumbered
      exact .quietly ⟨_, hpass, silent_keyword hkind rfl⟩ hrest
    rw [if_neg Bool.false_ne_true] at h
    rcases run_takes_bind (by simp) hend h with ⟨token, between, hkind, hpass, h⟩ | ⟨-, h⟩
    · rw [if_pos rfl] at h
      obtain ⟨value, after, hvalue, h⟩ := run_bind_eq_ok.1 h
      have hdefault := defaultValue_readsDefault hpass.ends hvalue
      have hfilled : Holds { column with default := value } before := hrules
      have hrest := ih hdefault.ends h hfilled
      exact .default hkind hpass hdefault hrest
    rw [if_neg Bool.false_ne_true] at h
    rcases run_takes_bind (by simp) hend h with ⟨token, between, hkind, hpass, h⟩ | ⟨-, h⟩
    · rw [if_pos rfl] at h
      obtain ⟨text, after, htext, h⟩ := run_bind_eq_ok.1 h
      obtain ⟨inner, group, hgroup, hpass', rfl⟩ := parenthesizedText_group hpass.ends htext
      have hrest := ih hpass'.ends h (hrules.check _)
      refine .keyword hkind hpass hpass' hgroup.silent (fun more _ => ?_) hrest
      rw [columnRule?, hgroup.enclosedText_append]
    rw [if_neg Bool.false_ne_true] at h
    rcases run_takes_bind (by simp) hend h with ⟨token, between, hkind, hpass, h⟩ | ⟨-, h⟩
    · rw [if_pos rfl] at h
      obtain ⟨fk, after, hfk, h⟩ := run_bind_eq_ok.1 h
      obtain ⟨clause, hpass', hsilent, hrule⟩ := reference_rule hpass.ends hfk
      have hrest := ih hpass'.ends h (hrules.reference fk)
      refine .keyword hkind hpass hpass' hsilent (fun more hmore => ?_) hrest
      rw [columnRule?, hrule more hmore]
    rw [if_neg Bool.false_ne_true] at h
    rcases run_takes_bind (by simp) hend h with ⟨token, between, hkind, hpass, h⟩ | ⟨-, h⟩
    · rw [if_pos rfl] at h
      obtain ⟨named, after, hnamed, h⟩ := run_bind_eq_ok.1 h
      have hquiet := Quiet.name.passes hpass.ends hnamed
      have hrest := ih hquiet.ends h hrules
      exact .quietly (.trans ⟨_, hpass, silent_keyword hkind rfl⟩ hquiet) hrest
    · exact absurd h mismatch_ne_ok

/-- The definition of a column is its name and its type, and what holds the rules and the default. -/
theorem columnClause_reads (hend : input.finish.kind = .endOfFile)
    (h : columnClause.run input = .ok (column, rest)) :
    ∃ head type used, Passes input (head :: type :: used) rest ∧ head.kind.isName = true ∧
      Level isNoComma 0 (type :: used) ∧ Holds column (columnRules head.text 0 (type :: used)) ∧
        column.Defined ⟨head.text, Text.upper type.text, lastDefault? used⟩ := by
  rw [columnClause] at h
  obtain ⟨name, between, hname, h⟩ := run_bind_eq_ok.1 h
  obtain ⟨head, hhead, rfl, hpass⟩ := readsToken_name hend hname
  obtain ⟨typeName, after, htype, h⟩ := run_bind_eq_ok.1 h
  obtain ⟨type, hsilent, rfl, hpass'⟩ := typeName_token hpass.ends htype
  rw [run_sees_bind] at h
  have hconstraints : ∀ {params : List String} {input : Input}, PassesQuietly after input →
      (get >>= fun tokens : Input => columnConstraints tokens.tokens.length none
        ⟨head.text, Text.upper type.text, params, false, false, false, false, none, none, none⟩).run input
          = .ok (column, rest) →
      Reads after head.text (Text.upper type.text) none [] column rest := by
    intro params input hquiet h
    obtain ⟨_, _, hget, h⟩ := run_bind_eq_ok.1 h
    cases hget
    have hnone : Holds ⟨head.text, Text.upper type.text, params, false, false, false, false, none, none, none⟩ [] :=
      fun _ => Iff.rfl
    exact .quietly hquiet (columnConstraints_reads hquiet.ends h hnone)
  have hreads : Reads after head.text (Text.upper type.text) none [] column rest := by
    split at h
    · obtain ⟨params, last, hparams, h⟩ := run_bind_eq_ok.1 h
      have hlist := (Quiet.parenthesized readsToken_typeParam plain_typeParam).passes hpass'.ends hparams
      exact hconstraints hlist h
    · exact hconstraints (.none hpass'.ends) h
  obtain ⟨used, hpass'', hlevel, hholds, hsame, hsameType, hdefault⟩ := hreads
  refine ⟨head, type, used, hpass.trans (hpass'.trans hpass''), hhead, ?_, ?_, ⟨hsame, hsameType, ?_⟩⟩
  · exact (hsilent.quiet.mono fun _ => isNoComma_of_isQuiet).append hlevel
  · rw [← List.singleton_append, hsilent.quiet.columnRules_append]
    exact hholds
  · rw [hdefault]
    cases lastDefault? used <;> rfl

/-! ## Constraints of a table -/

theorem addKeyColumns_cons (key : List String) (column : String) (columns : List String) :
    addKeyColumns key (column :: columns)
      = addKeyColumns (if key.any (Text.sameName column) then key else key ++ [column]) columns := rfl

/-- A column that is in the key already, in another case perhaps, asks nothing new. -/
theorem in_addKeyColumns {key columns : List String} {rule : Rule} :
    rule.In ((addKeyColumns key columns).map .primaryKey)
      ↔ rule.In (key.map .primaryKey) ∨ rule.In (columns.map .primaryKey) := by
  induction columns generalizing key with
  | nil => simp [addKeyColumns]
  | cons column columns ih =>
    rw [addKeyColumns_cons, ih, List.map_cons, Rule.in_cons]
    split
    · rename_i hlisted
      have hcolumn : (Rule.primaryKey column).folded = rule.folded → rule.In (key.map .primaryKey) := by
        intro hrule
        obtain ⟨name, hname, hsame⟩ := List.any_eq_true.1 hlisted
        refine ⟨.primaryKey name, List.mem_map_of_mem hname, ?_⟩
        rw [← hrule, Rule.folded, Rule.folded, beq_iff_eq.1 hsame]
      rw [← or_assoc, or_iff_left_of_imp hcolumn]
    · rw [List.map_append, Rule.in_append, List.map_singleton, Rule.in_cons, or_iff_left Rule.in_nil.1, or_assoc]

theorem subset_addKeyColumns (key columns : List String) : key ⊆ addKeyColumns key columns := by
  induction columns generalizing key with
  | nil => exact List.Subset.refl key
  | cons column columns ih =>
    rw [addKeyColumns_cons]
    refine List.Subset.trans ?_ (ih _)
    split
    · exact List.Subset.refl key
    · exact List.subset_append_left key [column]

theorem remaining_primaryKeys (names : List String) :
    remaining (names.map .primaryKey) = names.map .primaryKey := by
  induction names with
  | nil => rfl
  | cons name names ih => simp [remaining, ih, Rule.samePlace]

/-- A table asks what another asks, and more. The columns are the same, and none is taken out of the primary key. -/
structure Asks (table : CreateTable) (new : List Rule) (table' : CreateTable) : Prop where
  rules : ∀ rule : Rule, rule.In table'.rules ↔ rule.In table.rules ∨ rule.In (remaining new)
  columns : table'.columns = table.columns
  primaryKey : table.primaryKey ⊆ table'.primaryKey

section Asks

variable {table : CreateTable} {constraint : Option String}

theorem asks_primaryKey (columns : List String) : Asks table (columns.map .primaryKey)
    { table with primaryKey := addKeyColumns table.primaryKey columns } := by
  refine ⟨fun rule => ?_, rfl, subset_addKeyColumns _ _⟩
  rw [remaining_primaryKeys]
  simp only [CreateTable.rules, Rule.in_append, in_addKeyColumns]
  grind

theorem asks_unique (columns : List String) : Asks table [.unique columns]
    { table with uniques := table.uniques ++ [⟨constraint, columns⟩] } := by
  refine ⟨fun rule => ?_, rfl, List.Subset.refl _⟩
  simp only [CreateTable.rules, Rule.in_append, List.map_append, List.map_singleton, remaining, List.any_nil]
  grind

theorem asks_reference (fk : Reference) : Asks table [fk.rule]
    { table with foreignKeys := table.foreignKeys ++ [fk] } := by
  refine ⟨fun rule => ?_, rfl, List.Subset.refl _⟩
  simp only [CreateTable.rules, Rule.in_append, List.map_append, List.map_singleton, remaining, List.any_nil]
  grind

theorem asks_check (condition : String) : Asks table [.check none condition]
    { table with checks := table.checks ++ [⟨constraint, condition⟩] } := by
  refine ⟨fun rule => ?_, rfl, List.Subset.refl _⟩
  simp only [CreateTable.rules, Rule.in_append, List.map_append, List.map_singleton, remaining, List.any_nil]
  grind

end Asks

/-- Names in parentheses, perhaps after KEY. -/
theorem names_behind {before : List Token} {columns : List String} (hbefore : Passes input before between)
    (hkey : ∀ token ∈ before, token.kind = .keyword .KEY) (h : names.run between = .ok (columns, rest)) :
    ∃ used, Passes input used rest ∧ Level isNoComma 0 used ∧ enclosedNames used = columns := by
  obtain ⟨inner, group, hgroup, hlist, rfl, -⟩ := names_group hbefore.ends h
  refine ⟨before ++ group, hbefore.trans hlist, ?_, ?_⟩
  · refine .append (.of_forall fun token htoken => ?_) (hgroup.level rfl)
    rw [hkey token htoken]
    exact ⟨by simp, rfl⟩
  · have hnames := hgroup.enclosedNames_append before [] fun token htoken => by simp [hkey token htoken]
    rwa [List.append_nil] at hnames

/-- What follows the name of a constraint adds the rules that are read off its keyword. -/
theorem tableConstraint_rules {constraint : Option String} {table table' : CreateTable}
    (hend : input.finish.kind = .endOfFile)
    (h : (tableConstraint constraint table).run input = .ok (table', rest)) :
    ∃ keyword behind used, Passes input [keyword] behind ∧ Passes behind used rest ∧
      Level isNoComma 0 (keyword :: used) ∧ beginsConstraint keyword.kind = true ∧
      Asks table (tableRules used keyword.kind) table' := by
  rw [tableConstraint] at h
  rcases run_takes_bind (by simp) hend h with ⟨token, between, hkind, hpass, h⟩ | ⟨-, h⟩
  · rw [if_pos rfl] at h
    obtain ⟨key, after, hkey, hpass', h⟩ := run_expect_bind (by simp) hpass.ends h
    obtain ⟨columns, last, hcolumns, h⟩ := run_bind_eq_ok.1 h
    obtain ⟨used, hused, hlevel, rfl⟩ := names_behind hpass' (by simpa using hkey) hcolumns
    cases h
    refine ⟨token, _, used, hpass, hused, level_keyword hkind hlevel, by rw [hkind]; rfl, ?_⟩
    rw [hkind]
    exact asks_primaryKey _
  rw [if_neg Bool.false_ne_true] at h
  rcases run_takes_bind (by simp) hend h with ⟨token, between, hkind, hpass, h⟩ | ⟨-, h⟩
  · rw [if_pos rfl] at h
    have hbehind : ∃ used, Passes between used rest ∧ Level isNoComma 0 used ∧
        Asks table [.unique (enclosedNames used)] table' := by
      rcases run_takes_bind (by simp) hpass.ends h with ⟨key, after, hkey, hpass', h⟩ | ⟨-, h⟩
      · obtain ⟨columns, last, hcolumns, h⟩ := run_bind_eq_ok.1 h
        obtain ⟨used, hused, hlevel, rfl⟩ := names_behind hpass' (by simpa using hkey) hcolumns
        cases h
        exact ⟨used, hused, hlevel, asks_unique _⟩
      · obtain ⟨columns, last, hcolumns, h⟩ := run_bind_eq_ok.1 h
        obtain ⟨used, hused, hlevel, rfl⟩ := names_behind (.none hpass.ends) (by simp) hcolumns
        cases h
        exact ⟨used, hused, hlevel, asks_unique _⟩
    obtain ⟨used, hused, hlevel, hasks⟩ := hbehind
    refine ⟨token, _, used, hpass, hused, level_keyword hkind hlevel, by rw [hkind]; rfl, ?_⟩
    rw [hkind]
    exact hasks
  rw [if_neg Bool.false_ne_true] at h
  rcases run_takes_bind (by simp) hend h with ⟨token, between, hkind, hpass, h⟩ | ⟨-, h⟩
  · rw [if_pos rfl] at h
    obtain ⟨key, after, hkey, hpass', h⟩ := run_expect_bind (by simp) hpass.ends h
    obtain ⟨columns, last, hcolumns, h⟩ := run_bind_eq_ok.1 h
    obtain ⟨inner, group, hgroup, hlist, rfl, hplain⟩ := names_group hpass'.ends hcolumns
    obtain ⟨word, behind, hword, hpass'', h⟩ := run_expect_bind (by simp) hlist.ends h
    obtain ⟨fk, final, hfk, h⟩ := run_bind_eq_ok.1 h
    obtain ⟨clause, hlast, hsilent, hrule⟩ := reference_rule hpass''.ends hfk
    cases h
    refine ⟨token, _, _, hpass, hpass'.trans (hlist.trans (hpass''.trans hlast)), ?_, by rw [hkind]; rfl, ?_⟩
    · refine level_keyword hkind (level_keyword hkey ?_)
      exact (hgroup.level rfl).append (level_keyword hword (hsilent.quiet.mono fun _ => isNoComma_of_isQuiet))
    · have hnames := hgroup.enclosedNames_append [key] ([word] ++ clause) (by simp [hkey])
      have hbehind : (([key] ++ (group ++ ([word] ++ clause))).dropWhile fun token =>
          token.kind != .keyword .REFERENCES).tail = clause := by
        rw [← List.append_assoc, List.dropWhile_append_of_pos]
        · simp [hword]
        · intro token htoken
          rcases List.mem_append.1 htoken with htoken | htoken
          · simp [List.mem_singleton.1 htoken, hkey]
          · simpa using hplain token htoken
      have hread := hrule [] List.nil_prefix
      rw [List.append_nil] at hread
      rw [hkind, tableRules, hnames, hbehind, hread]
      exact asks_reference fk
  rw [if_neg Bool.false_ne_true] at h
  rcases run_takes_bind (by simp) hend h with ⟨token, between, hkind, hpass, h⟩ | ⟨-, h⟩
  · rw [if_pos rfl] at h
    obtain ⟨text, after, htext, h⟩ := run_bind_eq_ok.1 h
    obtain ⟨inner, group, hgroup, hpass', rfl⟩ := parenthesizedText_group hpass.ends htext
    cases h
    refine ⟨token, _, _, hpass, hpass', level_keyword hkind (hgroup.level rfl), by rw [hkind]; rfl, ?_⟩
    have htext := hgroup.enclosedText_append []
    rw [List.append_nil] at htext
    rw [hkind, tableRules, htext]
    exact asks_check _
  · exact absurd h mismatch_ne_ok

/-! ## Tables -/

/-- Every column that was declared as the primary key is in it. -/
def KeyListed (table : CreateTable) : Prop :=
  ∀ column ∈ table.columns, column.primaryKey = true → column.name ∈ table.primaryKey

/-- A table asks what another asks, and what the definitions ask that were read. It has the columns of the other, and
those that the definitions define. -/
structure Extends (table : CreateTable) (elements : List (List Token)) (table' : CreateTable) : Prop where
  rules : ∀ rule : Rule, rule.In table'.rules
    ↔ rule.In table.rules ∨ rule.In ((elements.map definitionRules).flatMap remaining)
  keyed : KeyListed table → KeyListed table'
  columns : table.columns ⊆ table'.columns
  defined : ∀ column ∈ elements.filterMap writtenColumn?, ∃ clause ∈ table'.columns, clause.Defined column

theorem Extends.refl (table : CreateTable) : Extends table [] table :=
  ⟨fun rule => by simp, id, List.Subset.refl _, by simp⟩

theorem Extends.cons {table table' table'' : CreateTable} {element : List Token} {elements : List (List Token)}
    (h : Extends table [element] table') (hmore : Extends table' elements table'') :
    Extends table (element :: elements) table'' := by
  refine ⟨fun rule => ?_, hmore.keyed ∘ h.keyed, List.Subset.trans h.columns hmore.columns, fun column hcolumn => ?_⟩
  · rw [hmore.rules, h.rules]
    simp [or_assoc]
  · rw [← List.singleton_append, List.filterMap_append, List.mem_append] at hcolumn
    rcases hcolumn with hfirst | hlater
    · obtain ⟨clause, hclause, hdefined⟩ := h.defined column hfirst
      exact ⟨clause, hmore.columns hclause, hdefined⟩
    · exact hmore.defined column hlater

theorem Extends.of_asks {table table' : CreateTable} {keyword : Token} {tokens : List Token}
    (h : Asks table (definitionRules (keyword :: tokens)) table') (hkeyword : beginsConstraint keyword.kind = true) :
    Extends table [keyword :: tokens] table' := by
  refine ⟨fun rule => ?_, fun hkeyed column hcolumn hkey => ?_, ?_, ?_⟩
  · rw [h.rules]
    simp
  · rw [h.columns] at hcolumn
    exact h.primaryKey (hkeyed column hcolumn hkey)
  · rw [h.columns]
    exact List.Subset.refl _
  · have hnone : writtenColumn? (keyword :: tokens) = none := by
      cases tokens with
      | nil => rfl
      | cons => rw [writtenColumn?, if_pos hkeyword]
    simp [hnone]

theorem extends_column {table : CreateTable} {name type : Token} {tokens : List Token}
    (h : Holds column (definitionRules (name :: type :: tokens))) (hname : beginsConstraint name.kind = false)
    (hdefined : column.Defined ⟨name.text, Text.upper type.text, lastDefault? tokens⟩) :
    Extends table [name :: type :: tokens] { table with
      columns := table.columns ++ [column]
      primaryKey := if column.primaryKey then table.primaryKey ++ [column.name] else table.primaryKey } := by
  refine ⟨fun rule => ?_, fun hkeyed other hother hkey => ?_, List.subset_append_left _ _, ?_⟩
  · have hrules : rule.In column.rules ↔ rule.In (remaining (definitionRules (name :: type :: tokens))) :=
      Rule.in_congr h
    simp only [List.map_singleton, List.flatMap_singleton, ← hrules, CreateTable.rules, Rule.in_append,
      List.flatMap_append]
    split
    · rename_i hkey
      have hown : rule.In [.primaryKey column.name] → rule.In column.rules := by
        simp only [ColumnClause.rules, ColumnClause.ownRules, if_pos hkey, Rule.in_append]
        exact fun h => .inl (.inl (.inl (.inl h)))
      rw [List.map_append, Rule.in_append, List.map_singleton]
      grind
    · grind
  · rcases List.mem_append.1 hother with hother | hother
    · have hlisted := hkeyed other hother hkey
      dsimp only
      split
      · exact List.mem_append_left _ hlisted
      · exact hlisted
    · obtain rfl := List.mem_singleton.1 hother
      dsimp only
      rw [if_pos hkey]
      simp
  · have hwritten : writtenColumn? (name :: type :: tokens)
        = some ⟨name.text, Text.upper type.text, lastDefault? tokens⟩ := by
      rw [writtenColumn?, hname, if_neg Bool.false_ne_true]
    simp only [List.filterMap_cons, hwritten, List.filterMap_nil, List.forall_mem_singleton]
    exact ⟨column, by simp, hdefined⟩

/-- A definition adds the rules that are read off its tokens. -/
theorem tableElement_rules {table table' : CreateTable} (hend : input.finish.kind = .endOfFile)
    (h : (tableElement table).run input = .ok (table', rest)) :
    ∃ used, Passes input used rest ∧ Level isNoComma 0 used ∧ Extends table [used] table' := by
  rw [tableElement, run_sees_bind] at h
  split at h
  · rcases run_takes_bind (by simp) hend h with ⟨token, between, hkind, hpass, h⟩ | ⟨hkind, h⟩
    · obtain ⟨named, after, hnamed, h⟩ := run_bind_eq_ok.1 h
      obtain ⟨name, hname, -⟩ := run_map_eq_ok.1 hnamed
      obtain ⟨label, hlabel, -, hpass'⟩ := readsToken_name hpass.ends hname
      obtain ⟨keyword, behind, used, hkeyword, hused, hlevel, -, hasks⟩ := tableConstraint_rules hpass'.ends h
      refine ⟨token :: label :: keyword :: used, hpass.trans (hpass'.trans (hkeyword.trans hused)), ?_,
        .of_asks ?_ (by rw [hkind]; rfl)⟩
      · refine level_keyword hkind (.cons (plain_isName.ne hlabel).1 ?_ hlevel)
        exact isNoComma_of_isQuiet (isQuiet_of_isName hlabel)
      · have hrules : definitionRules (token :: label :: keyword :: used) = tableRules used keyword.kind := by
          simp [definitionRules, hkind]
        rwa [hrules]
    · obtain ⟨named, after, hnamed, h⟩ := run_bind_eq_ok.1 h
      cases hnamed
      obtain ⟨keyword, behind, used, hkeyword, hused, hlevel, hbegins, hasks⟩ := tableConstraint_rules hend h
      refine ⟨keyword :: used, hkeyword.trans hused, hlevel, .of_asks ?_ hbegins⟩
      rw [hkeyword.next_eq] at hkind
      have hrules : definitionRules (keyword :: used) = tableRules used keyword.kind := by
        simp [definitionRules, hkind, hbegins]
      rwa [hrules]
  · rename_i hbegins
    obtain ⟨column, after, hcolumn, h⟩ := run_bind_eq_ok.1 h
    obtain ⟨head, type, used, hpass, hhead, hlevel, hholds, hdefined⟩ := columnClause_reads hend hcolumn
    cases h
    rw [hpass.next_eq] at hbegins
    have hkind : head.kind ≠ .keyword .CONSTRAINT := by
      intro hkind
      rw [hkind] at hhead
      cases hhead
    have hrules : definitionRules (head :: type :: used) = columnRules head.text 0 (type :: used) := by
      simp [definitionRules, hkind, hbegins]
    refine ⟨_, hpass, ?_, extends_column ?_ (by simpa using hbegins) hdefined⟩
    · exact .cons (plain_isName.ne hhead).1 (isNoComma_of_isQuiet (isQuiet_of_isName hhead)) hlevel
    · rwa [hrules]

/-- Definitions after a first one stand behind commas. -/
theorem moreElements_rules {fuel : Nat} {table table' : CreateTable} (hend : input.finish.kind = .endOfFile)
    (h : (moreElements fuel table).run input = .ok (table', rest)) :
    ∃ used elements, Passes input used rest ∧ Level (fun _ => true) 0 used ∧
      (∀ first, Level isNoComma 0 first → parts 0 (first ++ used) = first :: elements) ∧
      Extends table elements table' := by
  have hlast : ∀ first, Level isNoComma 0 first → parts 0 (first ++ []) = [first] := by
    intro first hfirst
    rw [hfirst.parts_append fun _ => id, parts, List.modifyHead_cons, List.append_nil]
  induction fuel generalizing input table with
  | zero =>
    cases h
    exact ⟨[], [], .none hend, .nil, hlast, .refl _⟩
  | succ fuel ih =>
    rw [moreElements] at h
    rcases run_takes_bind (by decide) hend h with ⟨comma, between, hcomma, hpass, h⟩ | ⟨-, h⟩
    · obtain ⟨middle, after, helement, h⟩ := run_bind_eq_ok.1 h
      obtain ⟨element, hpass', hlevel, hextends⟩ := tableElement_rules hpass.ends helement
      obtain ⟨used, elements, hpass'', hused, hparts, hmore⟩ := ih hpass'.ends h
      refine ⟨_, element :: elements, hpass.trans (hpass'.trans hpass''), ?_, fun first hfirst => ?_, hextends.cons hmore⟩
      · exact .cons (by simp [hcomma]) rfl ((hlevel.mono fun _ _ => rfl).append hused)
      · rw [hfirst.parts_append fun _ => id, List.singleton_append, parts, if_pos ⟨hcomma, rfl⟩, hparts element hlevel,
          List.modifyHead_cons, List.append_nil]
    · cases h
      exact ⟨[], [], .none hend, .nil, hlast, .refl _⟩

/-- Tokens before the first parenthesis. -/
def Unopened (tokens : List Token) : Prop :=
  ∀ token ∈ tokens, token.kind ≠ .leftParen

theorem ifNotExists_unopened {lenient : Bool} (hend : input.finish.kind = .endOfFile)
    (h : ifNotExists.run input = .ok (lenient, rest)) : ∃ used, Passes input used rest ∧ Unopened used := by
  rw [ifNotExists] at h
  rcases run_takes_bind (by simp) hend h with ⟨first, between, hfirst, hpass, h⟩ | ⟨-, h⟩
  · rw [if_pos rfl] at h
    obtain ⟨second, behind, hsecond, hpass', h⟩ := run_expect_bind (by simp) hpass.ends h
    obtain ⟨third, last, hthird, hpass'', h⟩ := run_expect_bind (by simp) hpass'.ends h
    cases h
    exact ⟨_, hpass.trans (hpass'.trans hpass''), by simp [Unopened, hfirst, hsecond, hthird]⟩
  · cases h
    exact ⟨[], .none hend, by simp [Unopened]⟩

/-- A table definition stands in parentheses, and the parts between its commas extend a table that asks nothing. -/
theorem createTable_extends {table : CreateTable} (hend : input.finish.kind = .endOfFile)
    (h : createTable.run input = .ok (table, rest)) :
    ∃ before inner used name lenient, Passes input (before ++ used) rest ∧ Unopened before ∧ Group inner used ∧
      Extends ⟨name, lenient, [], [], [], [], []⟩ (parts 0 inner) table := by
  rw [createTable] at h
  obtain ⟨word, between, hword, hpass, h⟩ := run_expect_bind (by simp) hend h
  obtain ⟨lenient, after, hlenient, h⟩ := run_bind_eq_ok.1 h
  obtain ⟨words, hwords, hunopened⟩ := ifNotExists_unopened hpass.ends hlenient
  obtain ⟨named, after', hnamed, h⟩ := run_bind_eq_ok.1 h
  obtain ⟨label, hlabel, -, hname⟩ := readsToken_name hwords.ends hnamed
  obtain ⟨left, between', hleft, hopen, h⟩ := run_expect_bind (by simp) hname.ends h
  obtain ⟨first, last, hfirst, h⟩ := run_bind_eq_ok.1 h
  obtain ⟨element, helement, hlevel, hextends⟩ := tableElement_rules hopen.ends hfirst
  obtain ⟨_, after'', hget, h⟩ := run_bind_eq_ok.1 h
  cases hget
  obtain ⟨all, last', hall, h⟩ := run_bind_eq_ok.1 h
  obtain ⟨used, elements, hmore, hused, hparts, hextends'⟩ := moreElements_rules helement.ends hall
  obtain ⟨right, final, hright, hclose, h⟩ := run_expect_bind (by simp) hmore.ends h
  cases h
  refine ⟨[word] ++ (words ++ [label]), element ++ used, left :: ((element ++ used) ++ [right]), named, lenient,
    ?_, ?_, ?_, ?_⟩
  · have hpasses := hpass.trans (hwords.trans (hname.trans (hopen.trans (helement.trans (hmore.trans hclose)))))
    simpa using hpasses
  · have hname := (plain_isName.ne hlabel).1.1
    simpa [Unopened, or_imp, forall_and, hword, hname] using hunopened
  · exact .intro hleft ((hlevel.mono fun _ _ => rfl).append hused) hright
  · rw [hparts element hlevel]
    exact hextends.cons hextends'

theorem create_eq_createTable {table : CreateTable} (hend : input.finish.kind = .endOfFile)
    (h : create.run input = .ok (.createTable table, rest)) :
    ∃ word between, word.kind = .keyword .CREATE ∧ Passes input [word] between ∧
      createTable.run between = .ok (table, rest) := by
  rw [create] at h
  obtain ⟨word, between, hword, hpass, h⟩ := run_expect_bind (by simp) hend h
  rw [run_sees_bind] at h
  split at h
  · obtain ⟨_, -, hindex⟩ := run_map_eq_ok.1 h
    cases hindex
  · obtain ⟨_, hcreate, htable⟩ := run_map_eq_ok.1 h
    cases htable
    exact ⟨word, between, hword, hpass, hcreate⟩

end Parser

/-- The definitions in a text extend a table that asks nothing to the one that is read from it. -/
theorem parse_createTable_extends {text : String} {table : CreateTable} (h : parse text = .ok (.createTable table)) :
    ∃ name lenient, Parser.Extends ⟨name, lenient, [], [], [], [], []⟩ (definitionTokens text) table := by
  obtain ⟨rest, hscript⟩ := parse_eq_ok.1 h
  have hend := kind_finish_ofTokens (tokenize text)
  obtain ⟨last, hstatement, -⟩ := Parser.script_eq_ok hscript
  obtain ⟨word, between, hword, hpass, hcreate⟩ :=
    Parser.create_eq_createTable hend (Parser.statement_eq_createTable hstatement)
  obtain ⟨before, inner, used, name, lenient, hpass', hbefore, hgroup, hextends⟩ :=
    Parser.createTable_extends hpass.ends hcreate
  have henclosed : enclosed (Input.ofTokens (tokenize text)).tokens = inner := by
    have hopen : ∀ token ∈ [word] ++ before, token.kind ≠ .leftParen := by
      simpa [Parser.Unopened, hword] using hbefore
    rw [hpass.tokens, hpass'.tokens, List.append_assoc, ← List.append_assoc, enclosed_append hopen,
      hgroup.enclosed_append]
  refine ⟨name, lenient, ?_⟩
  rwa [definitionTokens, henclosed]

/-- What a table that was read from a text asks is what remains of the rules that the text declares. -/
theorem parse_createTable_rules {text : String} {table : CreateTable} (h : parse text = .ok (.createTable table)) :
    (∀ rule : Rule, rule.In table.rules ↔ rule.In (remainingRules text)) ∧ Parser.KeyListed table := by
  obtain ⟨name, lenient, hextends⟩ := parse_createTable_extends h
  refine ⟨fun rule => ?_, hextends.keyed (by simp [Parser.KeyListed])⟩
  rw [hextends.rules]
  simp [CreateTable.rules, remainingRules, definitions, definitionTokens]

/-- Each column that a text defines has its clause in the table that is read from it. -/
theorem parse_createTable_columns {text : String} {table : CreateTable} (h : parse text = .ok (.createTable table)) :
    ∀ column ∈ writtenColumns text, ∃ clause ∈ table.columns, clause.Defined column := by
  obtain ⟨_, _, hextends⟩ := parse_createTable_extends h
  exact hextends.defined

end Relational.Sql
