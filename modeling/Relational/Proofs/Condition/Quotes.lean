import Relational.Proofs.Condition.Ending
import Relational.Proofs.Condition.Reading

/-!
# The kind of quotes

A text between double quotes runs to the last double quote of all, and one between single quotes to the next that no
backslash precedes. So of the quoted texts of a condition one may be put between double quotes; with two of them the
first takes up everything to the end of the last.
-/

namespace Relational.Condition

open Text

variable {mode : Mode} {c : Char} {cs word body rest : List Char} {t : Terminal} {pieces : List Piece}
  {chosen : Nat → Bool} {k n : Nat}

/-! ## Other quotes -/

/-- The quote of a text that is chosen, or of one that is not. -/
def quoteMark (chosen : Bool) : Char :=
  if chosen then '"' else '\''

/-- The quotes of the chosen texts become double ones; `n` single quotes come before. The quotes of a text are the ones
at twice its place and after that. -/
def requoteFrom (chosen : Nat → Bool) (n : Nat) : List Char → List Char
  | [] => []
  | c :: cs =>
    if c = '\'' then quoteMark (chosen (n / 2)) :: requoteFrom chosen (n + 1) cs else c :: requoteFrom chosen n cs

/-- The same text with double quotes around the chosen ones of its quoted texts. -/
def requote (chosen : Nat → Bool) (text : String) : String :=
  String.ofList (requoteFrom chosen 0 text.toList)

theorem requoteFrom_cons (hc : c ≠ '\'') : requoteFrom chosen n (c :: cs) = c :: requoteFrom chosen n cs := by
  rw [requoteFrom, if_neg hc]

theorem requoteFrom_append (hword : '\'' ∉ word) :
    requoteFrom chosen n (word ++ rest) = word ++ requoteFrom chosen n rest := by
  induction word with
  | nil => rfl
  | cons c word ih =>
    rw [List.mem_cons, not_or] at hword
    rw [List.cons_append, requoteFrom_cons (Ne.symm hword.1), ih hword.2, List.cons_append]

theorem requoteFrom_literal (hbody : '\'' ∉ body) : requoteFrom chosen (2 * k) ('\'' :: (body ++ '\'' :: rest)) =
    quoteMark (chosen k) :: (body ++ quoteMark (chosen k) :: requoteFrom chosen (2 * (k + 1)) rest) := by
  have hfirst : 2 * k / 2 = k := by omega
  have hlast : (2 * k + 1) / 2 = k := by omega
  rw [requoteFrom, if_pos rfl, requoteFrom_append hbody, requoteFrom, if_pos rfl, hfirst, hlast]
  rfl

/-- Double quotes in the result are those of chosen texts. -/
theorem mem_requoteFrom (hcs : '"' ∉ cs) :
    '"' ∈ requoteFrom chosen n cs ↔ ∃ i, n ≤ i ∧ i < n + cs.count '\'' ∧ chosen (i / 2) = true := by
  induction cs generalizing n with
  | nil =>
    refine iff_of_false (by simp [requoteFrom]) ?_
    rintro ⟨i, hlow, hhigh, -⟩
    rw [List.count_nil] at hhigh
    omega
  | cons c cs ih =>
    rw [List.mem_cons, not_or] at hcs
    by_cases hc : c = '\''
    · have hmark : '"' = quoteMark (chosen (n / 2)) ↔ chosen (n / 2) = true := by
        cases chosen (n / 2) with
        | true => exact iff_of_true rfl rfl
        | false => exact iff_of_false (by decide) Bool.false_ne_true
      rw [hc, requoteFrom, if_pos rfl, List.mem_cons, hmark, ih hcs.2, List.count_cons_self]
      constructor
      · rintro (hfirst | ⟨i, hlow, hhigh, hi⟩)
        · exact ⟨n, Nat.le_refl n, by omega, hfirst⟩
        · exact ⟨i, by omega, by omega, hi⟩
      · rintro ⟨i, hlow, hhigh, hi⟩
        rcases Nat.eq_or_lt_of_le hlow with rfl | hlater
        · exact .inl hi
        · exact .inr ⟨i, hlater, by omega, hi⟩
    · rw [requoteFrom_cons hc, List.mem_cons, or_iff_right hcs.1, ih hcs.2, List.count_cons_of_ne hc]

/-! ## What is cut alike -/

/-- Neither kind of quote. -/
def isUnquoted (c : Char) : Bool :=
  c != '\'' && c != '"'

theorem isUnquoted_iff : isUnquoted c = true ↔ c ≠ '\'' ∧ c ≠ '"' := by
  rw [isUnquoted, Bool.and_eq_true, bne_iff_ne, bne_iff_ne]

/-- The characters of a class without the quotes. -/
theorem isUnquoted_of_class {p : Char → Bool} (hc : p c = true) (hquotes : p '\'' = false ∧ p '"' = false) :
    isUnquoted c = true := by
  rw [isUnquoted_iff]
  constructor
  · rintro rfl
    rw [hquotes.1] at hc
    cases hc
  · rintro rfl
    rw [hquotes.2] at hc
    cases hc

theorem isUnquoted_of_isGap (hgap : isGap c = true) : isUnquoted c = true :=
  isUnquoted_of_class hgap (by decide)

theorem notNext_carriesOn (hrest : NotNext isUnquoted rest) : NotNext carriesOn rest :=
  hrest.imp fun _ hc => isUnquoted_of_class hc (by decide)

theorem notNext_requoteFrom (hrest : NotNext isUnquoted rest) : NotNext isUnquoted (requoteFrom chosen n rest) := by
  cases rest with
  | nil => exact notNext_nil _
  | cons c rest =>
    by_cases hc : c = '\''
    · rw [hc, requoteFrom, if_pos rfl, notNext_cons, quoteMark]
      split
      · decide
      · decide
    · rw [requoteFrom_cons hc]
      simpa using hrest

theorem forall_isUnquoted (h : ∀ c ∈ word, isUnquoted c = true) : '\'' ∉ word ∧ '"' ∉ word :=
  ⟨fun hmem => absurd (h _ hmem) (by decide), fun hmem => absurd (h _ hmem) (by decide)⟩

/-- Quotes end the terminal before them, whichever they are. -/
theorem terminal?_requoteFrom (hword : ∀ d ∈ c :: word, isUnquoted d = true) :
    terminal? mode (c :: word ++ requoteFrom chosen n rest) = terminal? mode (c :: word ++ rest) := by
  have hc := isUnquoted_iff.1 (hword c (by simp))
  have hbefore : ∀ d ∈ rest.takeWhile isUnquoted, isUnquoted d = true := fun d hd => List.mem_takeWhile_imp hd
  have hafter : NotNext isUnquoted (rest.dropWhile isUnquoted) := notNext_dropWhile _ _
  rw [← List.takeWhile_append_dropWhile (p := isUnquoted) (l := rest), requoteFrom_append (forall_isUnquoted hbefore).1,
    ← List.append_assoc, ← List.append_assoc, List.cons_append,
    terminal?_append_of_notNext mode hc.1 hc.2 (notNext_carriesOn hafter),
    terminal?_append_of_notNext mode hc.1 hc.2 (notNext_carriesOn (notNext_requoteFrom hafter))]

/-! ## Single quotes -/

/-- Content that needs no escape. -/
def isContent (cs : List Char) : Bool :=
  cs.all fun c => isUnquoted c && c != '\\'

/-- A piece that is no quoted text, or one between single quotes with a content that needs no escape. -/
def isSingle : Piece → Bool
  | (.string, mark :: cs) => mark == '\'' && isContent cs.dropLast
  | _ => true

theorem isContent_iff : isContent body = true ↔ (∀ c ∈ body, isUnquoted c = true) ∧ '\\' ∉ body := by
  simp only [isContent, List.all_eq_true, Bool.and_eq_true, bne_iff_ne, forall_and]
  refine and_congr_right fun _ => ⟨fun h hmem => h _ hmem rfl, ?_⟩
  rintro h c hc rfl
  exact h hc

/-- Texts whose quoted texts are between single quotes, and their pieces. -/
inductive Single : Mode → List Char → List Piece → Prop where
  | nil (mode : Mode) : Single mode [] []
  | gap {mode : Mode} {c : Char} {cs : List Char} {pieces : List Piece} (hgap : isGap c = true)
      (h : Single mode cs pieces) : Single mode (c :: cs) pieces
  | piece {mode : Mode} {c : Char} {word rest : List Char} {t : Terminal} {pieces : List Piece} (hgap : isGap c = false)
      (hword : ∀ d ∈ c :: word, isUnquoted d = true) (ht : t ≠ .string)
      (hterminal : terminal? mode (c :: word ++ rest) = some (t, word.length + 1))
      (h : Single (mode.next t) rest pieces) :
      Single mode (c :: word ++ rest) ((t, c :: word) :: pieces)
  | literal {mode : Mode} {body rest : List Char} {pieces : List Piece} (hbody : isContent body = true)
      (h : Single .after rest pieces) :
      Single mode ('\'' :: (body ++ '\'' :: rest)) ((.string, '\'' :: (body ++ ['\''])) :: pieces)

/-- The first terminal of a text that starts with no quote has none in it. -/
theorem isUnquoted_of_terminal? (hc : isUnquoted c = true) (hterminal : terminal? mode (c :: cs) = some (t, n)) :
    ∀ d ∈ cs.take (n - 1), isUnquoted d = true := by
  have hquote := isUnquoted_iff.1 hc
  have hafter : NotNext isUnquoted (cs.dropWhile isUnquoted) := notNext_dropWhile _ _
  have hwithin : terminal? mode (c :: cs.takeWhile isUnquoted) = some (t, n) := by
    rw [← hterminal, ← terminal?_append_of_notNext mode hquote.1 hquote.2 (notNext_carriesOn hafter), List.cons_append,
      List.takeWhile_append_dropWhile]
  have hlength := (terminal?_length hwithin).2
  rw [List.length_cons] at hlength
  have htake : (cs.takeWhile isUnquoted ++ cs.dropWhile isUnquoted).take (n - 1) =
      (cs.takeWhile isUnquoted).take (n - 1) := List.take_append_of_le_length (by omega)
  rw [List.takeWhile_append_dropWhile] at htake
  intro d hd
  rw [htake] at hd
  exact List.mem_takeWhile_imp (List.mem_of_mem_take hd)

theorem single_of_cut (hcut : cut mode cs = some pieces) (hsingle : ∀ piece ∈ pieces, isSingle piece = true) :
    Single mode cs pieces := by
  induction hcut using cut_induction with
  | nil mode => exact .nil mode
  | gap mode c cs pieces hgap _ ih => exact .gap hgap (ih hsingle)
  | piece mode c cs t n pieces hgap hterminal _ ih =>
    rw [List.forall_mem_cons] at hsingle
    have hrest := ih hsingle.2
    by_cases hquote : c = '\'' ∨ c = '"'
    · obtain ⟨rfl, body, hbody, htake⟩ := exists_body_of_terminal? hquote hterminal
      rw [htake] at hsingle ⊢
      have hliteral : c = '\'' ∧ isContent body = true := by simpa [isSingle] using hsingle.1
      rw [hliteral.1] at hbody ⊢
      rw [hbody]
      exact .literal hliteral.2 hrest
    · rw [not_or] at hquote
      have ht := terminal?_ne_string hquote.1 hquote.2 hterminal
      have hunquoted := isUnquoted_of_terminal? (isUnquoted_iff.2 hquote) hterminal
      have hlength := terminal?_length hterminal
      rw [List.length_cons] at hlength
      have hpiece := Single.piece hgap (List.forall_mem_cons.2 ⟨isUnquoted_iff.2 hquote, hunquoted⟩) ht ?_ hrest
      · rwa [List.cons_append, List.take_append_drop] at hpiece
      · rw [List.cons_append, List.take_append_drop, hterminal, List.length_take_of_le (by omega)]
        congr 2
        omega

/-! ## Quoted texts that are cut off -/

theorem escapeQuotes_eq_self (h : '\'' ∉ body) : escapeQuotes body = body := by
  induction body with
  | nil => rfl
  | cons c body ih =>
    rw [List.mem_cons, not_or] at h
    rw [escapeQuotes_cons, if_neg (Ne.symm h.1), ih h.2, List.singleton_append]

theorem cut_single (hbody : isContent body = true) : cut mode ('\'' :: (body ++ '\'' :: rest)) =
    (cut .after rest).map ((.string, '\'' :: (body ++ ['\''])) :: ·) := by
  obtain ⟨hunquoted, hslash⟩ := isContent_iff.1 hbody
  have hquoted : quoteChars body = '\'' :: (body ++ ['\'']) := by
    rw [quoteChars, escapeQuotes_eq_self (forall_isUnquoted hunquoted).1]
  have hcut : cut mode (quoteChars body ++ rest) = _ := cut_quoteChars fun hlast =>
    absurd (List.mem_of_getLast? hlast) hslash
  rwa [hquoted, List.cons_append, List.append_assoc, List.singleton_append] at hcut

theorem doubleQuotedFrom_eq (hrest : '"' ∉ rest) (position : Nat) (found : Option Nat) :
    doubleQuotedFrom position found rest = found := by
  induction rest generalizing position with
  | nil => rfl
  | cons c rest ih =>
    rw [List.mem_cons, not_or] at hrest
    rw [doubleQuotedFrom, if_neg (Ne.symm hrest.1), ih hrest.2]

theorem doubleQuotedFrom_append (hrest : '"' ∉ rest) (position : Nat) (found : Option Nat) (body : List Char) :
    doubleQuotedFrom position found (body ++ '"' :: rest) = some (position + body.length + 1) := by
  induction body generalizing position found with
  | nil => rw [List.nil_append, doubleQuotedFrom, if_pos rfl, doubleQuotedFrom_eq hrest, List.length_nil]
  | cons c body ih =>
    rw [List.cons_append, doubleQuotedFrom, ih, List.length_cons]
    exact congrArg some (by omega)

/-- A text between double quotes runs to the last one. -/
theorem cut_double (hrest : '"' ∉ rest) (body : List Char) : cut mode ('"' :: (body ++ '"' :: rest)) =
    (cut .after rest).map ((.string, '"' :: (body ++ ['"'])) :: ·) := by
  have hterminal : terminal? mode ('"' :: (body ++ ['"']) ++ rest) = some (.string, (body ++ ['"']).length + 1) := by
    rw [List.cons_append, terminal?_quote (.inr rfl), stringLength?, List.append_assoc, List.singleton_append,
      doubleQuotedFrom_append hrest, List.length_append]
    simp
    omega
  have hcut := cut_append (isGap_quote (.inr rfl)) hterminal
  rwa [List.cons_append, List.append_assoc, List.singleton_append] at hcut

theorem unescape_append {mark : Char} (hslash : '\\' ∉ body) (cs : List Char) :
    unescape mark (body ++ cs) = body ++ unescape mark cs := by
  induction body with
  | nil => rfl
  | cons c body ih =>
    rw [List.mem_cons, not_or] at hslash
    rw [List.cons_append, unescape_cons fun h => absurd h.symm hslash.1, ih hslash.2, List.cons_append]

theorem reading_quoted (mark : Char) (body : List Char) :
    Piece.reading (.string, mark :: (body ++ [mark])) = (.string, String.ofList (unescape mark body)) := by
  simp [Piece.reading, Token.content]

theorem reading_content (mark : Char) (hbody : isContent body = true) :
    Piece.reading (.string, mark :: (body ++ [mark])) = (.string, String.ofList body) := by
  have hunescape : unescape mark (body ++ []) = _ := unescape_append (isContent_iff.1 hbody).2 []
  rw [List.append_nil, unescape, List.append_nil] at hunescape
  rw [reading_quoted, hunescape]

/-! ## Texts with other quotes -/

/-- The quoted texts among pieces. -/
def literals (pieces : List Piece) : List String :=
  (pieces.map Piece.reading).flatMap quoted

theorem literals_cons_of_ne (ht : t ≠ .string) : literals ((t, word) :: pieces) = literals pieces := by
  rw [literals, List.map_cons, List.flatMap_cons, Piece.reading, quoted, if_neg ht]
  rfl

theorem literals_cons_string : (literals ((.string, word) :: pieces)).length = (literals pieces).length + 1 :=
  rfl

theorem Single.quotes (h : Single mode cs pieces) :
    '"' ∉ cs ∧ cs.count '\'' = 2 * (literals pieces).length := by
  induction h with
  | nil => exact ⟨List.not_mem_nil, rfl⟩
  | @gap mode c cs pieces hgap h ih =>
    have hc := isUnquoted_iff.1 (isUnquoted_of_isGap hgap)
    rw [List.mem_cons, not_or, List.count_cons_of_ne hc.1]
    exact ⟨⟨Ne.symm hc.2, ih.1⟩, ih.2⟩
  | piece hgap hword ht hterminal h ih =>
    obtain ⟨hsingle, hdouble⟩ := forall_isUnquoted hword
    rw [List.mem_append, not_or, List.count_append, List.count_eq_zero_of_not_mem hsingle, Nat.zero_add,
      literals_cons_of_ne ht]
    exact ⟨⟨hdouble, ih.1⟩, ih.2⟩
  | literal hbody h ih =>
    obtain ⟨hsingle, hdouble⟩ := forall_isUnquoted (isContent_iff.1 hbody).1
    rw [List.mem_cons, List.mem_append, List.mem_cons, not_or, not_or, not_or, List.count_cons_self, List.count_append,
      List.count_cons_self, List.count_eq_zero_of_not_mem hsingle, literals_cons_string]
    exact ⟨⟨by decide, hdouble, by decide, ih.1⟩, by omega⟩

/-- At most one of `n` texts from the place `k` on is chosen. -/
def AtMostOne (chosen : Nat → Bool) (k n : Nat) : Prop :=
  ∀ i j, k ≤ i → i < k + n → k ≤ j → j < k + n → chosen i = true → chosen j = true → i = j

/-- A text that is not chosen does not count. -/
theorem atMostOne_succ_of_not_chosen (hk : chosen k = false) :
    AtMostOne chosen k (n + 1) ↔ AtMostOne chosen (k + 1) n := by
  have hne : ∀ i, chosen i = true → i ≠ k := by
    rintro i hi rfl
    rw [hk] at hi
    cases hi
  constructor
  · intro hall i j hlow hhigh hlow' hhigh'
    exact hall i j (by omega) (by omega) (by omega) (by omega)
  · intro hall i j hlow hhigh hlow' hhigh' hi hj
    have hik := hne i hi
    have hjk := hne j hj
    exact hall i j (by omega) (by omega) (by omega) (by omega) hi hj

/-- After a text that is chosen there is no other. -/
theorem atMostOne_succ_of_chosen (hk : chosen k = true) :
    AtMostOne chosen k (n + 1) ↔ ¬ ∃ i, k + 1 ≤ i ∧ i < k + 1 + n ∧ chosen i = true := by
  constructor
  · rintro hall ⟨i, hlow, hhigh, hi⟩
    have hki := hall k i (Nat.le_refl k) (by omega) (by omega) (by omega) hk hi
    omega
  · intro hnone i j hlow hhigh hlow' hhigh' hi hj
    have hfirst : ∀ i, k ≤ i → i < k + (n + 1) → chosen i = true → i = k := by
      intro i hlow hhigh hi
      by_contra hne
      exact hnone ⟨i, by omega, by omega, hi⟩
    rw [hfirst i hlow hhigh hi, hfirst j hlow' hhigh' hj]

/-- Pieces of a text, and those of the text with other quotes: they are read alike if at most one text is chosen, and
otherwise their readings differ. -/
inductive Requoted (pieces : List Piece) (result : Option (List Piece)) (single : Prop) : Prop where
  | alike (hsingle : single) (pieces' : List Piece) (hresult : result = some pieces')
      (hreadings : pieces'.map Piece.reading = pieces.map Piece.reading)
  | differently (hsingle : ¬ single) (hdiverges : ∀ pieces', result = some pieces' →
      Diverges (pieces.map Piece.reading) (pieces'.map Piece.reading))

theorem Requoted.cons {result : Option (List Piece)} {single single' : Prop} {piece piece' : Piece}
    (h : Requoted pieces result single) (hsingle' : single' ↔ single) (hreading : piece'.reading = piece.reading) :
    Requoted (piece :: pieces) (result.map (piece' :: ·)) single' := by
  cases h with
  | alike hsingle pieces' hresult hreadings =>
    refine .alike (hsingle'.2 hsingle) (piece' :: pieces') (by rw [hresult]; rfl) ?_
    rw [List.map_cons, List.map_cons, hreading, hreadings]
  | differently hsingle hdiverges =>
    refine .differently (mt hsingle'.1 hsingle) fun pieces' hresult => ?_
    obtain ⟨tail, htail, rfl⟩ := Option.map_eq_some_iff.1 hresult
    rw [List.map_cons, List.map_cons, hreading]
    exact .later (hdiverges tail htail)

/-- A double-quoted text with another after it takes up more than its content. -/
theorem requoted_twice (hbody : isContent body = true) (hagain : '"' ∈ rest)
    (hcut : cut mode ('"' :: (body ++ '"' :: rest)) = some pieces) (tail : List (Terminal × String)) :
    Diverges ((.string, String.ofList body) :: tail) (pieces.map Piece.reading) := by
  obtain ⟨after, before, hsplit, hafter⟩ := List.eq_append_cons_of_mem (List.mem_reverse.2 hagain)
  have hrest : rest = before.reverse ++ '"' :: after.reverse := by
    rw [← List.reverse_reverse rest, hsplit]
    simp
  have hlong : body ++ '"' :: rest = (body ++ '"' :: before.reverse) ++ '"' :: after.reverse := by
    rw [hrest]
    simp
  rw [hlong, cut_double (by simpa using hafter), Option.map_eq_some_iff] at hcut
  obtain ⟨pieces', -, rfl⟩ := hcut
  rw [List.map_cons, reading_quoted, unescape_append (isContent_iff.1 hbody).2,
    unescape_cons fun h => absurd h (by decide)]
  refine .quoted fun heq => ?_
  have hlength := congrArg List.length (String.ofList_injective heq)
  rw [List.length_append, List.length_cons] at hlength
  omega

/-- There are double quotes in the rest if and only if one of its texts is chosen. -/
theorem Single.mem_requoteFrom (h : Single mode cs pieces) (k : Nat) : '"' ∈ requoteFrom chosen (2 * k) cs ↔
    ∃ i, k ≤ i ∧ i < k + (literals pieces).length ∧ chosen i = true := by
  obtain ⟨hdouble, hcount⟩ := h.quotes
  rw [Condition.mem_requoteFrom hdouble, hcount]
  constructor
  · rintro ⟨i, hlow, hhigh, hi⟩
    exact ⟨i / 2, by omega, by omega, hi⟩
  · rintro ⟨i, hlow, hhigh, hi⟩
    refine ⟨2 * i, by omega, by omega, ?_⟩
    rwa [Nat.mul_div_cancel_left i (by decide)]

/-- Nothing changes where no text is chosen. -/
theorem Single.requoteFrom_eq (h : Single mode cs pieces)
    (hnone : ¬ ∃ i, k ≤ i ∧ i < k + (literals pieces).length ∧ chosen i = true) :
    requoteFrom chosen (2 * k) cs = cs := by
  induction h generalizing k with
  | nil => rfl
  | @gap mode c cs pieces hgap h ih =>
    rw [requoteFrom_cons (isUnquoted_iff.1 (isUnquoted_of_isGap hgap)).1, ih hnone]
  | piece hgap hword ht hterminal h ih =>
    rw [literals_cons_of_ne ht] at hnone
    rw [requoteFrom_append (forall_isUnquoted hword).1, ih hnone]
  | @literal mode body rest pieces hbody h ih =>
    rw [literals_cons_string] at hnone
    have hfirst : chosen k = false := by
      rw [← Bool.not_eq_true]
      exact fun hk => hnone ⟨k, Nat.le_refl k, by omega, hk⟩
    rw [requoteFrom_literal (forall_isUnquoted (isContent_iff.1 hbody).1).1, hfirst, ih, quoteMark,
      if_neg Bool.false_ne_true]
    rintro ⟨i, hlow, hhigh, hi⟩
    exact hnone ⟨i, by omega, by omega, hi⟩

theorem Single.cut_eq (h : Single mode cs pieces) : cut mode cs = some pieces := by
  induction h with
  | nil => exact cut_nil
  | gap hgap h ih => rw [cut_gap hgap, ih]
  | piece hgap hword ht hterminal h ih =>
    rw [cut_append hgap hterminal, ih]
    rfl
  | literal hbody h ih =>
    rw [cut_single hbody, ih]
    rfl

/-- A text with other quotes, piece by piece. -/
theorem Single.requoted (h : Single mode cs pieces) (k : Nat) :
    Requoted pieces (cut mode (requoteFrom chosen (2 * k) cs)) (AtMostOne chosen k (literals pieces).length) := by
  induction h generalizing k with
  | nil =>
    refine .alike ?_ [] cut_nil rfl
    intro i j hlow hhigh
    rw [literals] at hhigh
    simp at hhigh
    omega
  | @gap mode c cs pieces hgap h ih =>
    rw [requoteFrom_cons (isUnquoted_iff.1 (isUnquoted_of_isGap hgap)).1, cut_gap hgap]
    exact ih k
  | piece hgap hword ht hterminal h ih =>
    rw [requoteFrom_append (forall_isUnquoted hword).1, cut_append hgap ((terminal?_requoteFrom hword).trans hterminal),
      literals_cons_of_ne ht]
    exact (ih k).cons Iff.rfl rfl
  | @literal mode body rest pieces hbody h ih =>
    rw [requoteFrom_literal (forall_isUnquoted (isContent_iff.1 hbody).1).1, literals_cons_string]
    cases hk : chosen k with
    | false =>
      rw [quoteMark, if_neg Bool.false_ne_true, cut_single hbody]
      exact (ih (k + 1)).cons (atMostOne_succ_of_not_chosen hk) rfl
    | true =>
      rw [quoteMark, if_pos rfl]
      by_cases hlater : ∃ i, k + 1 ≤ i ∧ i < k + 1 + (literals pieces).length ∧ chosen i = true
      · refine .differently (fun hone => (atMostOne_succ_of_chosen hk).1 hone hlater) fun pieces' hresult => ?_
        rw [List.map_cons, reading_content '\'' hbody]
        exact requoted_twice hbody ((h.mem_requoteFrom (k + 1)).2 hlater) hresult _
      · refine .alike ((atMostOne_succ_of_chosen hk).2 hlater) ((.string, '"' :: (body ++ ['"'])) :: pieces) ?_ ?_
        · rw [h.requoteFrom_eq hlater, cut_double h.quotes.1, h.cut_eq]
          rfl
        · rw [List.map_cons, List.map_cons, reading_content '"' hbody, reading_content '\'' hbody]

/-! ## Conditions with other quotes -/

/-- A condition whose quoted texts are between single quotes, with a content that needs no escape, is the same condition
with double quotes around some of them if and only if there is at most one of those. -/
theorem compile_requote_iff {text : String} {c : Condition} (chosen : Nat → Bool) (hcompile : compile text = .ok c)
    (hsingle : ∀ token ∈ (scan text.toList).1, isSingle (token.terminal, token.text) = true) :
    compile (requote chosen text) = .ok c ↔
      ∀ i j, i < c.strings.length → j < c.strings.length → chosen i = true → chosen j = true → i = j := by
  obtain ⟨pieces, q, hcut, hread, hfinish⟩ := compile_eq_ok.1 hcompile
  have htokens := ((cut_eq_some_iff .start).1 hcut).2
  have hpieces : Single .predicate text.toList pieces := by
    refine single_of_cut hcut ?_
    rw [← htokens, List.forall_mem_map]
    exact hsingle
  have hstrings : c.strings = literals pieces := by
    rw [finish?_strings hfinish, readAll_strings hread]
    rfl
  have hsame : (∀ i j, i < c.strings.length → j < c.strings.length → chosen i = true → chosen j = true → i = j) ↔
      AtMostOne chosen 0 (literals pieces).length := by
    rw [hstrings, AtMostOne]
    constructor
    · intro hall i j hlow hhigh hlow' hhigh'
      exact hall i j (by omega) (by omega)
    · intro hall i j hhigh hhigh'
      exact hall i j (Nat.zero_le i) (by omega) (Nat.zero_le j) (by omega)
  rw [hsame, compile_eq_ok, requote, String.toList_ofList]
  have hrequoted : Requoted pieces (cut .predicate (requoteFrom chosen (2 * 0) text.toList)) _ := hpieces.requoted 0
  rw [Nat.mul_zero] at hrequoted
  cases hrequoted with
  | alike hone pieces' hresult hreadings =>
    refine iff_of_true ⟨pieces', q, hresult, ?_, hfinish⟩ hone
    rw [hreadings]
    exact hread
  | differently hone hdiverges =>
    refine iff_of_false ?_ hone
    rintro ⟨pieces', q', hresult, hread', hfinish'⟩
    exact (hdiverges pieces' hresult).condition_ne hread hread' hfinish hfinish' rfl

/-- One of two quoted texts between double quotes. -/
theorem compile_requote_second : ∃ c, compile "a = 'x' AND b = 'y'" = .ok c ∧
    requote (· == 1) "a = 'x' AND b = 'y'" = "a = 'x' AND b = \"y\"" ∧
      compile "a = 'x' AND b = \"y\"" = .ok c := by
  have hcompile : compile "a = 'x' AND b = 'y'" = .ok (.logic .and
      (.compare .eq (.column none "a") (.literal (.string "x")))
      (.compare .eq (.column none "b") (.literal (.string "y")))) := by
    with_unfolding_all rfl
  have hrequote : requote (· == 1) "a = 'x' AND b = 'y'" = "a = 'x' AND b = \"y\"" := by
    decide +kernel
  refine ⟨_, hcompile, hrequote, ?_⟩
  rw [← hrequote]
  refine (compile_requote_iff (· == 1) hcompile (by decide +kernel)).2 fun i j _ _ hi hj => ?_
  rw [eq_of_beq hi, eq_of_beq hj]

/-- With both of them between double quotes the first runs to the end of the second. -/
theorem both_double_quoted :
    compile "a = 'x' AND b = 'y'" = .ok (.logic .and
      (.compare .eq (.column none "a") (.literal (.string "x")))
      (.compare .eq (.column none "b") (.literal (.string "y")))) ∧
    (∀ token ∈ (scan "a = 'x' AND b = 'y'".toList).1, isSingle (token.terminal, token.text) = true) ∧
    requote (fun _ => true) "a = 'x' AND b = 'y'" = "a = \"x\" AND b = \"y\"" ∧
    compile "a = \"x\" AND b = \"y\"" =
      .ok (.compare .eq (.column none "a") (.literal (.string "x\" AND b = \"y"))) := by
  refine ⟨by with_unfolding_all rfl, by decide +kernel, by decide +kernel, by with_unfolding_all rfl⟩

end Relational.Condition
