import Relational.Proofs.Sql.Ending
import Relational.Proofs.Text.Blank
import Relational.Shell

/-!
# Statements of several lines

The shell collects the lines of a statement without the blanks around them and runs them with one blank between them.
For a statement, a line end is more than a blank: it ends a comment, and in a string literal it is part of the text, as
are the blanks beside it. The statement that is run is the one that was written exactly if no line but the last ends
within a string literal, nothing is said after a line that ends within a comment, and no blanks are cut off a literal
that is open at the end.
-/

namespace Relational.Shell

open Text Sql

variable {line last : String} {lines more pending : List String} {session : Session} {now : Timestamp}

/-! ## One line -/

/-- Where a line ends, without the blanks around it. -/
def endingOf (line : String) : Ending :=
  ending (strip line).toList

/-- What a line says, without the blanks around it. -/
def saidBy (line : String) : List Lexeme :=
  said (strip line).toList

theorem endingOf_blank (h : strip line = "") : endingOf line = .outside := by
  rw [endingOf, h]
  exact ending_nil

theorem saidBy_blank (h : strip line = "") : saidBy line = [] := by
  rw [saidBy, h]
  exact said_nil

/-- A line has something other than blanks unless it ends outside. -/
theorem strip_ne_of_endingOf (h : endingOf line ≠ .outside) : strip line ≠ "" :=
  fun hblank => h (endingOf_blank hblank)

theorem exists_strip (line : String) : ∃ before after, (∀ c ∈ before, isBlank c = true) ∧
    (∀ c ∈ after, isBlank c = true) ∧ line.toList = before ++ ((strip line).toList ++ after) := by
  obtain ⟨before, after, hbefore, hafter, hchars⟩ := exists_trimWhile isBlank line.toList
  refine ⟨before, after, hbefore, hafter, ?_⟩
  rw [strip, String.toList_ofList, ← List.append_assoc]
  exact hchars

/-- A line that leaves no string literal open is read apart from those after it. -/
theorem readings_line (hline : '\n' ∉ line.toList) (h : endingOf line ≠ .literal) (rest : List Char) :
    readings (line.toList ++ '\n' :: rest) = saidBy line ++ readings rest := by
  obtain ⟨before, after, hbefore, hafter, hchars⟩ := exists_strip line
  rw [hchars, List.mem_append, List.mem_append, not_or, not_or] at hline
  rw [hchars, List.append_assoc, List.append_assoc, readings_blanks hbefore,
    readings_append_line hafter hline.2.2 h, saidBy]

/-- The last line is read as it is without the blanks around it, unless it leaves a string literal open. -/
theorem readings_last (h : endingOf last ≠ .literal) : readings last.toList = readings (strip last).toList := by
  obtain ⟨before, after, hbefore, hafter, hchars⟩ := exists_strip last
  rw [hchars, readings_blanks hbefore, readings_append_blanks hafter h]

/-- The literal that a line leaves open has the line end in it. -/
theorem exists_newline_of_literal (h : endingOf line = .literal) (rest : List Char) :
    ∃ lexeme ∈ readings (line.toList ++ '\n' :: rest), '\n' ∈ lexeme.2.toList := by
  obtain ⟨before, after, hbefore, hafter, hchars⟩ := exists_strip line
  obtain ⟨said, mark, content, -, hmore⟩ := readings_of_literal_blanks h
  have hblanks : ∀ c ∈ after ++ ['\n'], isBlank c = true := by
    rw [List.forall_mem_append]
    exact ⟨hafter, List.forall_mem_singleton.2 rfl⟩
  have hread := hmore (after ++ ['\n']) rest (by simp) hblanks
  rw [List.append_assoc, List.singleton_append] at hread
  rw [hchars, List.append_assoc, List.append_assoc, readings_blanks hbefore, hread]
  exact ⟨_, List.mem_append_right _ List.mem_cons_self, by simp⟩

/-- The last character of a line that is not blank, without the blanks around it. -/
theorem isBlank_getLast_strip (h : (strip line).toList ≠ []) : isBlank ((strip line).toList.getLast h) = false := by
  have hlast := dropRightWhile_trimWhile isBlank line.toList
  rw [dropRightWhile_eq, List.rdropWhile_eq_self_iff] at hlast
  rw [← Bool.not_eq_true]
  have hchars : (strip line).toList = trimWhile isBlank line.toList := String.toList_ofList
  simp only [hchars] at h ⊢
  exact hlast h

/-- Of the last line, no blanks may be cut off a string literal. -/
theorem readings_last_iff : readings (strip last).toList = readings last.toList ↔
    (endingOf last = .literal → ∀ c ∈ last.toList.getLast?, isBlank c = false) := by
  by_cases h : endingOf last = .literal
  · obtain ⟨before, after, hbefore, hafter, hchars⟩ := exists_strip last
    obtain ⟨said, mark, content, hread, hmore⟩ := readings_of_literal_blanks h
    have hne : (strip last).toList ≠ [] := by
      rw [ne_eq, String.toList_eq_nil_iff]
      exact strip_ne_of_endingOf (by rw [h]; decide)
    rw [hchars, readings_blanks hbefore, imp_iff_right h]
    cases hcut : after with
    | nil =>
      rw [List.append_nil, List.getLast?_append_of_ne_nil _ hne, List.getLast?_eq_some_getLast hne]
      simpa using isBlank_getLast_strip hne
    | cons blank blanks =>
      rw [hcut] at hafter
      have hmore := hmore (blank :: blanks) [] (List.cons_ne_nil _ _) hafter
      rw [List.append_nil] at hmore
      refine iff_of_false ?_ ?_
      · rw [hread, hmore, List.append_cancel_left_eq, List.cons.injEq]
        rintro ⟨heq, -⟩
        have hcontent := String.ofList_injective (congrArg Prod.snd heq)
        simp at hcontent
      · intro hblank
        have hend := hafter ((blank :: blanks).getLast (List.cons_ne_nil _ _)) (List.getLast_mem _)
        rw [hblank _ (by simp [List.getLast?_eq_some_getLast])] at hend
        cases hend
  · exact iff_of_true (readings_last h).symm fun hliteral => absurd hliteral h

/-- A literal that is left open is said. -/
theorem said_ne_nil_of_literal (h : endingOf last = .literal) : saidBy last ≠ [] ∧ said last.toList ≠ [] := by
  obtain ⟨before, after, hbefore, hafter, hchars⟩ := exists_strip last
  obtain ⟨shown, mark, content, hread, hmore⟩ := readings_of_literal_blanks h
  have hsaid : saidBy last ≠ [] := by
    rw [saidBy, said, hread]
    simp
  refine ⟨hsaid, ?_⟩
  by_cases hcut : after = []
  · rwa [said, hchars, readings_blanks hbefore, hcut, List.append_nil]
  · rw [said, hchars, readings_blanks hbefore, ← List.append_nil after, hmore after [] hcut hafter, List.drop_nil,
      readings_nil]
    simp

theorem said_last_eq_nil_iff : said last.toList = [] ↔ saidBy last = [] := by
  by_cases h : endingOf last = .literal
  · obtain ⟨hstripped, hwhole⟩ := said_ne_nil_of_literal h
    exact iff_of_false hwhole hstripped
  · rw [said, readings_last h, saidBy, said]

/-! ## Several lines -/

/-- The lines that are not blank, without the blanks around them. -/
def nonblank (lines : List String) : List String :=
  (lines.map strip).filter (· ≠ "")

/-- A statement as the shell collects it. -/
def collected (lines : List String) : String :=
  " ".intercalate (nonblank lines)

/-- A statement as it was written. -/
def written (lines : List String) : String :=
  "\n".intercalate lines

theorem nonblank_of_blank (h : strip line = "") (lines : List String) : nonblank (line :: lines) = nonblank lines := by
  rw [nonblank, List.map_cons, List.filter_cons_of_neg (by simp [h]), nonblank]

theorem nonblank_of_ne (h : strip line ≠ "") (lines : List String) :
    nonblank (line :: lines) = strip line :: nonblank lines := by
  rw [nonblank, List.map_cons, List.filter_cons_of_pos (by simpa using h), nonblank]

theorem nonblank_ne_nil (h : strip last ≠ "") (lines : List String) : nonblank (lines ++ [last]) ≠ [] := by
  refine List.ne_nil_of_mem (a := strip last) ?_
  rw [nonblank, List.mem_filter]
  exact ⟨List.mem_map.2 ⟨last, by simp, rfl⟩, by simpa using h⟩

theorem toList_collected (h : strip line ≠ "") (hmore : nonblank more ≠ []) : (collected (line :: more)).toList =
    (strip line).toList ++ ' ' :: (collected more).toList := by
  rw [collected, nonblank_of_ne h, String.intercalate_cons_of_ne_nil hmore, String.toList_append, String.toList_append,
    List.append_assoc]
  rfl

theorem toList_written (line : String) (hmore : more ≠ []) : (written (line :: more)).toList =
    line.toList ++ '\n' :: (written more).toList := by
  rw [written, String.intercalate_cons_of_ne_nil hmore, String.toList_append, String.toList_append, List.append_assoc]
  rfl

/-- The shell collects no line ends. -/
theorem newline_not_mem_collected (hlines : ∀ line ∈ lines, '\n' ∉ line.toList) : '\n' ∉ (collected lines).toList := by
  have hparts : ∀ text ∈ nonblank lines, ∀ c ∈ text.toList, (c != '\n') = true := by
    intro text htext c hc
    obtain ⟨line, hline, rfl⟩ := List.mem_map.1 (List.mem_filter.1 htext).1
    obtain ⟨before, after, -, -, hchars⟩ := exists_strip line
    rw [bne_iff_ne]
    exact ne_of_mem_of_not_mem (by rw [hchars]; simp [hc]) (hlines line hline)
  have hblank : ∀ c ∈ " ".toList, (c != '\n') = true := List.forall_mem_singleton.2 rfl
  intro hmem
  simpa using forall_mem_intercalate hblank hparts _ hmem

/-- Lines are read one by one if none but the last leaves a string literal open. -/
theorem readings_written (hlines : ∀ line ∈ lines, '\n' ∉ line.toList)
    (hclosed : ∀ line ∈ lines, endingOf line ≠ .literal) (last : String) :
    readings (written (lines ++ [last])).toList = lines.flatMap saidBy ++ readings last.toList := by
  induction lines with
  | nil => rfl
  | cons line lines ih =>
    rw [List.forall_mem_cons] at hlines hclosed
    rw [List.cons_append, toList_written line (by simp), readings_line hlines.1 hclosed.1, ih hlines.2 hclosed.2,
      List.flatMap_cons, List.append_assoc]

/-- A string literal that a line leaves open has a line end in it. -/
theorem exists_newline_of_mem (hlines : ∀ line ∈ lines, '\n' ∉ line.toList)
    (h : ∃ line ∈ lines, endingOf line = .literal) (last : String) :
    ∃ lexeme ∈ readings (written (lines ++ [last])).toList, '\n' ∈ lexeme.2.toList := by
  induction lines with
  | nil => simp at h
  | cons line lines ih =>
    rw [List.forall_mem_cons] at hlines
    rw [List.cons_append, toList_written line (by simp)]
    by_cases hline : endingOf line = .literal
    · exact exists_newline_of_literal hline _
    · obtain ⟨lexeme, hmem, hnewline⟩ := ih hlines.2 (by simpa [hline] using h)
      rw [readings_line hlines.1 hline]
      exact ⟨lexeme, List.mem_append_right _ hmem, hnewline⟩

/-- A line that ends outside of comments and literals is collected as what it says. -/
theorem readings_collected_of_outside (h : endingOf line = .outside) (hmore : nonblank more ≠ []) :
    readings (collected (line :: more)).toList = saidBy line ++ readings (collected more).toList := by
  by_cases hblank : strip line = ""
  · rw [collected, nonblank_of_blank hblank, saidBy_blank hblank, collected, List.nil_append]
  · rw [toList_collected hblank hmore, readings_append_of_outside (by decide) h, saidBy]

/-- A line that ends within a comment takes all lines after it into the comment. -/
theorem readings_collected_of_comment (h : endingOf line = .comment) (hmore : nonblank more ≠ [])
    (hlines : ∀ line ∈ more, '\n' ∉ line.toList) :
    readings (collected (line :: more)).toList = saidBy line ++ [(.endOfFile, "")] := by
  have hnewline : '\n' ∉ ' ' :: (collected more).toList := by
    simpa using newline_not_mem_collected hlines
  rw [toList_collected (strip_ne_of_endingOf (by rw [h]; decide)) hmore,
    readings_append_of_comment (by decide) h hnewline, readings_eq_said, saidBy]

/-! ## Lines that may be collected -/

/-- Lines that say, with a blank for each line end and without the blanks around them, what they say as written. -/
structure Joinable (lines : List String) (last : String) : Prop where
  /-- No line but the last leaves a string literal open. -/
  closed : ∀ line ∈ lines, endingOf line ≠ .literal
  /-- Nothing is said after a line that ends within a comment. -/
  silent : (lines ++ [last]).Pairwise fun line later => endingOf line = .comment → saidBy later = []
  /-- A string literal that is open at the end does not end with a blank. -/
  uncut : endingOf last = .literal → ∀ c ∈ last.toList.getLast?, isBlank c = false

instance (lines : List String) (last : String) : Decidable (Joinable lines last) :=
  -- Of the end of the last line only, not of every character.
  haveI : Decidable (∀ c ∈ last.toList.getLast?, isBlank c = false) :=
    Option.decidableForallMem _
  decidable_of_iff ((∀ line ∈ lines, endingOf line ≠ .literal) ∧
      (lines ++ [last]).Pairwise (fun line later => endingOf line = .comment → saidBy later = []) ∧
      (endingOf last = .literal → ∀ c ∈ last.toList.getLast?, isBlank c = false))
    ⟨fun ⟨closed, silent, uncut⟩ => ⟨closed, silent, uncut⟩, fun h => ⟨h.closed, h.silent, h.uncut⟩⟩

/-- Nothing at all is said by lines of which none says anything. -/
theorem silent_iff : [(TokenKind.endOfFile, "")] = lines.flatMap saidBy ++ readings last.toList ↔
    ∀ line ∈ lines ++ [last], saidBy line = [] := by
  rw [readings_eq_said, ← List.append_assoc, eq_comm, List.append_left_eq_self, List.append_eq_nil_iff,
    List.flatMap_eq_nil_iff, said_last_eq_nil_iff, List.forall_mem_append, List.forall_mem_singleton]

/-- Lines that leave no string literal open, collected. -/
theorem readings_collected_iff_of_closed (hlines : ∀ line ∈ lines ++ [last], '\n' ∉ line.toList)
    (hlast : strip last ≠ "") (hclosed : ∀ line ∈ lines, endingOf line ≠ .literal) :
    readings (collected (lines ++ [last])).toList = lines.flatMap saidBy ++ readings last.toList ↔
      Joinable lines last := by
  induction lines with
  | nil =>
    have hcollected : collected [last] = strip last := by
      rw [collected, nonblank_of_ne hlast, nonblank, List.map_nil, List.filter_nil, String.intercalate_singleton]
    rw [List.nil_append, List.flatMap_nil, List.nil_append, hcollected, readings_last_iff]
    exact ⟨fun huncut => ⟨hclosed, List.pairwise_singleton _ _, huncut⟩, Joinable.uncut⟩
  | cons line lines ih =>
    have hmore := nonblank_ne_nil hlast lines
    rw [List.cons_append, List.forall_mem_cons] at hlines
    rw [List.forall_mem_cons] at hclosed
    rw [List.cons_append, List.flatMap_cons, List.append_assoc]
    cases hending : endingOf line with
    | outside =>
      rw [readings_collected_of_outside hending hmore, List.append_cancel_left_eq, ih hlines.2 hclosed.2]
      refine ⟨fun h => ⟨?_, ?_, h.uncut⟩, fun h => ⟨hclosed.2, (List.pairwise_cons.1 h.silent).2, h.uncut⟩⟩
      · exact List.forall_mem_cons.2 hclosed
      · refine List.pairwise_cons.2 ⟨fun later _ hcomment => ?_, h.silent⟩
        rw [hending] at hcomment
        cases hcomment
    | comment =>
      rw [readings_collected_of_comment hending hmore hlines.2, List.append_cancel_left_eq, silent_iff]
      refine ⟨fun h => ⟨List.forall_mem_cons.2 hclosed, ?_, fun hliteral => ?_⟩, fun h later hlater => ?_⟩
      · exact List.pairwise_cons.2 ⟨fun later hlater _ => h later hlater,
          List.pairwise_of_forall_mem_list fun _ _ later hlater _ => h later hlater⟩
      · exact absurd (h last (by simp)) (said_ne_nil_of_literal hliteral).1
      · exact (List.pairwise_cons.1 h.silent).1 later hlater hending
    | literal => exact absurd hending hclosed.1

/-- Collected lines say what the lines say as written exactly if they may be collected. -/
theorem readings_collected_iff (hlines : ∀ line ∈ lines ++ [last], '\n' ∉ line.toList) (hlast : strip last ≠ "") :
    readings (collected (lines ++ [last])).toList = readings (written (lines ++ [last])).toList ↔
      Joinable lines last := by
  have hlines' : ∀ line ∈ lines, '\n' ∉ line.toList := fun line hline => hlines line (List.mem_append_left _ hline)
  by_cases hclosed : ∀ line ∈ lines, endingOf line ≠ .literal
  · rw [readings_written hlines' hclosed, readings_collected_iff_of_closed hlines hlast hclosed]
  · refine iff_of_false (fun heq => ?_) fun h => hclosed h.closed
    obtain ⟨lexeme, hmem, hnewline⟩ := exists_newline_of_mem hlines' (by simpa using hclosed) last
    rw [← heq] at hmem
    obtain ⟨token, htoken, rfl⟩ := List.mem_map.1 hmem
    exact newline_not_mem_collected hlines (mem_of_mem_token htoken hnewline)

/-! ## Reading lines -/

theorem sep_not_mem_of_mem_splitAt {sep : Char} (cs : List Char) {part : List Char} (h : part ∈ splitAt sep cs) :
    sep ∉ part := by
  induction cs generalizing part with
  | nil =>
    rw [List.mem_singleton.1 h]
    simp
  | cons c cs ih =>
    by_cases hc : c = sep
    · subst hc
      rw [splitAt_sep] at h
      rcases List.mem_cons.1 h with rfl | h
      · simp
      · exact ih h
    · rw [← List.singleton_append, splitAt_append (by simpa using hc)] at h
      rcases List.mem_cons.1 h with rfl | h
      · rw [List.mem_append, List.mem_singleton, not_or]
        exact ⟨Ne.symm hc, ih (List.head_mem _)⟩
      · exact ih (List.mem_of_mem_tail h)

theorem newline_not_mem_of_mem_inputLines {input : String} (h : line ∈ inputLines input) : '\n' ∉ line.toList := by
  obtain ⟨piece, hpiece, rfl⟩ := List.mem_map.1 h
  rw [String.toList_ofList]
  refine sep_not_mem_of_mem_splitAt input.toList ?_
  split at hpiece
  · exact (List.dropLast_sublist _).mem hpiece
  · exact hpiece

theorem strip_ne_of_isComplete (h : isComplete (strip line) = true) : strip line ≠ "" := by
  intro hblank
  rw [hblank] at h
  cases h

/-- The first line decides whether lines make a command. -/
theorem isCommand_intercalate (h : line ≠ "") (lines : List String) :
    isCommand (" ".intercalate (line :: lines)) = isCommand line := by
  obtain ⟨c, cs, hchars⟩ := List.exists_cons_of_ne_nil (mt String.toList_eq_nil_iff.1 h)
  cases lines with
  | nil => rw [String.intercalate_singleton]
  | cons next lines =>
    rw [isCommand, String.intercalate_cons_cons, String.toList_append, String.toList_append, hchars, isCommand, hchars]
    rfl

theorem read_of_blank (h : strip line = "") (shell : Shell) (now : Timestamp) :
    shell.read now line = (.ok ("", .goOn), shell) := by
  rw [read, h]
  rfl

theorem read_of_not_isReady (h : strip line ≠ "") (hready : isReady pending (strip line) = false) :
    Shell.read ⟨session, pending⟩ now line = (.ok ("", .goOn), ⟨session, pending ++ [strip line]⟩) := by
  simp [read, h, hready]

theorem read_of_isComplete (h : isComplete (strip line) = true)
    (hstart : isCommand (" ".intercalate (pending ++ [strip line])) = false) :
    Shell.read ⟨session, pending⟩ now line =
      ((statement session now (" ".intercalate (pending ++ [strip line]))).1.map fun shown => (shown.2 ++ "\n", .goOn),
        ofSession (statement session now (" ".intercalate (pending ++ [strip line]))).2) := by
  simp [read, strip_ne_of_isComplete h, isReady, h, perform, hstart, ofSession]

/-- The prompts before the lines of a statement: one for each line up to the first one that is not blank. -/
def prompts : List String → String
  | [] => ""
  | line :: lines => "sql> " ++ if strip line = "" then prompts lines else ""

theorem prompt_eq_prompts (h : strip line ≠ "") (session : Session) (pending lines : List String) :
    Shell.prompt ⟨session, pending⟩ false = if pending.isEmpty then prompts (line :: lines) else "" := by
  rw [prompts, if_neg h]
  rfl

/-- What is printed of a statement, up to the end of the input. -/
def shownAfter (before : String) (outcome : Except Failure (Result × String)) : Except Failure String :=
  outcome.map fun shown => before ++ (shown.2 ++ "\n") ++ ("sql> " ++ farewell)

theorem map_shownAfter (prompt before : String) (outcome : Except Failure (Result × String)) :
    ((shownAfter before outcome).map fun more => prompt ++ "" ++ more) = shownAfter (prompt ++ before) outcome := by
  cases outcome with
  | error => rfl
  | ok shown => simp [shownAfter, Except.map, String.append_assoc]

/-- A line of which nothing comes but a prompt. -/
theorem transcript_of_read {shell after : Shell} (h : shell.read now line = (.ok ("", .goOn), after))
    {before : String} {outcome : Except Failure (Result × String)} {final : Shell}
    (hrest : transcript now after more = (shownAfter before outcome, final)) :
    transcript now shell (line :: more) = (shownAfter (shell.prompt false ++ before) outcome, final) := by
  rw [transcript, h]
  dsimp only
  rw [hrest, map_shownAfter]

/-- Lines of which only the last one is complete are run as one statement, behind the lines that are collected already. -/
theorem transcript_of_isComplete (session : Session) (now : Timestamp) (pending : List String)
    (hopen : ∀ line ∈ lines, isComplete (strip line) = false)
    (hlast : isComplete (strip last) = true)
    (hstart : isCommand (" ".intercalate (pending ++ nonblank (lines ++ [last]))) = false) :
    transcript now ⟨session, pending⟩ (lines ++ [last]) =
      (shownAfter (if pending.isEmpty then prompts (lines ++ [last]) else "")
        (statement session now (" ".intercalate (pending ++ nonblank (lines ++ [last])))).1,
        ofSession (statement session now (" ".intercalate (pending ++ nonblank (lines ++ [last])))).2) := by
  induction lines generalizing pending with
  | nil =>
    have hne := strip_ne_of_isComplete hlast
    have hlines : nonblank [last] = [strip last] := nonblank_of_ne hne []
    rw [List.nil_append, hlines] at hstart ⊢
    rw [transcript, read_of_isComplete hlast hstart, ← prompt_eq_prompts hne session pending]
    obtain ⟨outcome | shown, session'⟩ := statement session now (" ".intercalate (pending ++ [strip last]))
    · rfl
    · rfl
  | cons line lines ih =>
    rw [List.forall_mem_cons] at hopen
    rw [List.cons_append] at hstart ⊢
    by_cases hblank : strip line = ""
    · rw [nonblank_of_blank hblank] at hstart ⊢
      rw [transcript_of_read (read_of_blank hblank _ now) (ih _ hopen.2 hstart)]
      cases pending <;> simp [prompt, prompts, hblank]
    · rw [nonblank_of_ne hblank] at hstart ⊢
      rw [List.append_cons pending] at hstart ⊢
      have hready : isReady pending (strip line) = false := by
        cases pending with
        | nil =>
          rw [List.nil_append, List.singleton_append, isCommand_intercalate hblank] at hstart
          rw [isReady, hstart, hopen.1, Bool.and_false, Bool.or_false]
        | cons => rw [isReady, hopen.1, List.isEmpty_cons, Bool.false_and, Bool.or_false]
      rw [transcript_of_read (read_of_not_isReady hblank hready) (ih _ hopen.2 hstart),
        ← prompt_eq_prompts hblank session pending]
      simp

/-- For an input of which only the last line is complete, the shell runs one statement, its lines collected. It has the
tokens of the lines as written exactly if they may be collected. -/
theorem runInput_of_isComplete {input : String} (hinput : inputLines input = lines ++ [last])
    (hopen : ∀ line ∈ lines, isComplete (strip line) = false) (hlast : isComplete (strip last) = true)
    (hstart : ∀ first ∈ (nonblank (lines ++ [last])).head?, isCommand first = false)
    (session : Session) (now : Timestamp) :
    runInput session now input =
      (shownAfter (banner ++ prompts (lines ++ [last])) (statement session now (collected (lines ++ [last]))).1,
        (statement session now (collected (lines ++ [last]))).2) ∧
    ((tokenize (collected (lines ++ [last]))).map Token.lexeme = (tokenize (written (lines ++ [last]))).map Token.lexeme ↔
      Joinable lines last) := by
  have hne := strip_ne_of_isComplete hlast
  have hlines : ∀ line ∈ lines ++ [last], '\n' ∉ line.toList := fun line hline =>
    newline_not_mem_of_mem_inputLines (by rwa [hinput])
  have hcommand : isCommand (collected (lines ++ [last])) = false := by
    obtain ⟨first, more, hcollected⟩ := List.exists_cons_of_ne_nil (nonblank_ne_nil hne lines)
    have hfirst : first ∈ nonblank (lines ++ [last]) := by simp [hcollected]
    rw [collected, hcollected, isCommand_intercalate (by simpa using (List.mem_filter.1 hfirst).2)]
    exact hstart first (by rw [hcollected]; rfl)
  refine ⟨?_, readings_collected_iff hlines hne⟩
  have hrun := transcript_of_isComplete session now [] hopen hlast hcommand
  rw [runInput, hinput, ofSession, hrun]
  refine Prod.ext ?_ rfl
  show (shownAfter (prompts (lines ++ [last])) (statement session now (collected (lines ++ [last]))).1).map _ = _
  generalize (statement session now (collected (lines ++ [last]))).1 = outcome
  cases outcome with
  | error => rfl
  | ok => simp only [shownAfter, Except.map, String.append_assoc]

/-! ### Two definitions -/

/-- The time of the two definitions. -/
def start : Timestamp :=
  ⟨⟨2024, 2, 29⟩, ⟨12, 34, 56⟩⟩

/-- Lines with blanks around them, and a comment on the last one. -/
def spacedInput : String :=
  "\nCREATE TABLE t\n  (id INT); -- the first;\n"

/-- The lines are run as they were written. -/
theorem spacedInput_runs : inputLines spacedInput = ["", "CREATE TABLE t"] ++ ["  (id INT); -- the first;"] ∧
    runInput (.ofDatabase (.empty none)) start spacedInput =
      (shownAfter (banner ++ "sql> sql> ")
          (statement (.ofDatabase (.empty none)) start "CREATE TABLE t (id INT); -- the first;").1,
        (statement (.ofDatabase (.empty none)) start "CREATE TABLE t (id INT); -- the first;").2) ∧
    (tokenize "CREATE TABLE t (id INT); -- the first;").map Token.lexeme =
      (tokenize "\nCREATE TABLE t\n  (id INT); -- the first;").map Token.lexeme := by
  have hinput : inputLines spacedInput = ["", "CREATE TABLE t"] ++ ["  (id INT); -- the first;"] := by decide +kernel
  have hcollected : collected (["", "CREATE TABLE t"] ++ ["  (id INT); -- the first;"]) =
      "CREATE TABLE t (id INT); -- the first;" := by decide +kernel
  have hprompts : prompts (["", "CREATE TABLE t"] ++ ["  (id INT); -- the first;"]) = "sql> sql> " := by decide +kernel
  obtain ⟨hrun, htokens⟩ := runInput_of_isComplete hinput (by decide +kernel) (by decide +kernel) (by decide +kernel)
    (.ofDatabase (.empty none)) start
  rw [hcollected, hprompts] at hrun
  rw [hcollected] at htokens
  exact ⟨hinput, hrun, htokens.2 (by decide +kernel)⟩

/-- A comment behind the first line. -/
def notedInput : String :=
  "CREATE TABLE t -- the first\n(id INT);\n"

/-- The comment takes the second line, and what is left is no statement. -/
theorem notedInput_cut : inputLines notedInput = ["CREATE TABLE t -- the first", "(id INT);"] ∧
    isCommand "CREATE TABLE t -- the first" = false ∧ isComplete "CREATE TABLE t -- the first" = false ∧
    isComplete "(id INT);" = true ∧
    (runInput (.ofDatabase (.empty none)) start notedInput).1 =
      shownAfter (banner ++ "sql> ") (statement (.ofDatabase (.empty none)) start
        "CREATE TABLE t -- the first (id INT);").1 ∧
    (tokenize "CREATE TABLE t -- the first (id INT);").map Token.lexeme ≠
      (tokenize "CREATE TABLE t -- the first\n(id INT);").map Token.lexeme ∧
    (statement (.ofDatabase (.empty none)) start "CREATE TABLE t -- the first (id INT);").1.map Prod.snd =
      .ok "Error: Expected LPAREN but got END_OF_FILE (\"\") at line 1 col 38\n" ∧
    (statement (.ofDatabase (.empty none)) start "CREATE TABLE t -- the first\n(id INT);").1.map Prod.snd =
      .ok "Table 't' created\n" := by
  decide +kernel

end Relational.Shell
