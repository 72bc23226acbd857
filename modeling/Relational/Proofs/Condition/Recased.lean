import Relational.Proofs.Agreement
import Relational.Proofs.Condition.Case
import Relational.Proofs.Condition.SmallNames

/-!
# Conditions that differ in case

Two texts are the same condition but for the case of names, or neither of them is a condition, if their pieces are read
alike: the same terminals with the same numbers and quoted texts, and names that differ in case at most. A number within
a word is the one piece that case can change, in its exponent; no condition has one, because it stands right after a
name.
-/

namespace Relational.Condition

open Text

variable {c : Char} {cs cs' : List Char} {mode : Mode} {x y : Option (List Piece)} {pieces pieces' : List Piece}

/-- What a piece contributes, in small letters unless it is a number or a quoted text. -/
def Piece.smallReading (piece : Piece) : Terminal × String :=
  (piece.1, smallText piece.1 piece.reading.2)

/-- Pieces that are not there, or that no condition has. -/
def Unread (result : Option (List Piece)) : Prop :=
  ∀ pieces p, result = some pieces → readAll p (pieces.map Piece.reading) = none

/-- Pieces that are read alike, but for the case of names. -/
inductive CutAlike : Option (List Piece) → Option (List Piece) → Prop where
  | read {pieces pieces' : List Piece} (h : pieces.map Piece.smallReading = pieces'.map Piece.smallReading) :
      CutAlike (some pieces) (some pieces')
  | unread {result result' : Option (List Piece)} (h : Unread result) (h' : Unread result') : CutAlike result result'

theorem unread_none : Unread none := by
  intro pieces p h
  cases h

theorem Unread.append {result : Option (List Piece)} (h : Unread result) (before : List Piece) :
    Unread (result.map (before ++ ·)) := by
  intro pieces p hpieces
  obtain ⟨after, hafter, rfl⟩ := Option.map_eq_some_iff.1 hpieces
  rw [List.map_append, readAll_append]
  cases readAll p (before.map Piece.reading) with
  | none => rfl
  | some q => exact h after q hafter

theorem CutAlike.append {before before' : List Piece} (h : CutAlike x y)
    (hbefore : before.map Piece.smallReading = before'.map Piece.smallReading) :
    CutAlike (x.map (before ++ ·)) (y.map (before' ++ ·)) := by
  cases h with
  | read h =>
    apply CutAlike.read
    rw [List.map_append, List.map_append, hbefore, h]
  | unread h h' => exact .unread (h.append before) (h'.append before')

/-- No condition has a name with a number right after it. -/
theorem unread_named {name number : List Char} (after : Option (List Piece)) :
    Unread (after.map ((.name, name) :: (.number, number) :: pieces ++ ·)) := by
  intro pieces' p hpieces
  obtain ⟨rest, -, rfl⟩ := Option.map_eq_some_iff.1 hpieces
  show (p.read .name _).bind (fun p => (p.read .number _).bind _) = none
  cases hname : p.read .name _ with
  | none => rfl
  | some q =>
    rw [Option.bind_some, read_number_after_name hname]
    rfl

theorem afterAll_eq_of_map_fst (h : pieces.map Prod.fst = pieces'.map Prod.fst) :
    mode.afterAll pieces = mode.afterAll pieces' := by
  have hfold : ∀ pieces : List Piece, mode.afterAll pieces = (pieces.map Prod.fst).foldl Mode.next mode := by
    intro pieces
    rw [Mode.afterAll, List.foldl_map]
  rw [hfold, hfold, h]

/-- Pieces of a word without numbers are read as the same names and keywords in small letters. -/
theorem smallReading_eq_of_map_small (hplain : ∀ piece ∈ pieces, piece.1 ≠ .number ∧ piece.1 ≠ .string)
    (hsmall : pieces.map Piece.small = pieces'.map Piece.small) :
    pieces.map Piece.smallReading = pieces'.map Piece.smallReading := by
  have hreading : ∀ piece : Piece, piece.1 ≠ .number ∧ piece.1 ≠ .string →
      piece.smallReading = (piece.small.1, String.ofList piece.small.2) := by
    intro piece hpiece
    obtain ⟨t, text⟩ := piece
    have hcontent : Token.content ⟨t, text, .start⟩ = String.ofList text := by
      cases t with
      | string => exact absurd rfl hpiece.2
      | _ => rfl
    rw [Piece.smallReading, smallText, if_neg (by simpa using hpiece), Piece.reading, hcontent, toLower_ofList]
    rfl
  have hterminals : pieces.map Prod.fst = pieces'.map Prod.fst := by
    have hfst := congrArg (List.map Prod.fst) hsmall
    rwa [List.map_map, List.map_map] at hfst
  have hplain' : ∀ piece ∈ pieces', piece.1 ≠ .number ∧ piece.1 ≠ .string := by
    intro piece hpiece
    have hmem : piece.1 ∈ pieces.map Prod.fst := by
      rw [hterminals]
      exact List.mem_map_of_mem hpiece
    obtain ⟨piece', hpiece', heq⟩ := List.mem_map.1 hmem
    rw [← heq]
    exact hplain piece' hpiece'
  rw [List.map_congr_left fun piece hpiece => hreading piece (hplain piece hpiece),
    List.map_congr_left fun piece hpiece => hreading piece (hplain' piece hpiece)]
  have hmap := congrArg (List.map fun piece : Piece => (piece.1, String.ofList piece.2)) hsmall
  rwa [List.map_map, List.map_map] at hmap

/-- A text without quotes, before a text that does not carry it on. -/
theorem CutAlike.unquoted {word rest rest' : List Char} (hword : ∀ c ∈ word, isUnquoted c = true)
    (hrest : NotNext carriesOn rest) (hrest' : NotNext carriesOn rest')
    (h : ∀ mode, CutAlike (cut mode rest) (cut mode rest')) (mode : Mode) :
    CutAlike (cut mode (word ++ rest)) (cut mode (word ++ rest')) := by
  rw [cut_append_unquoted hword hrest, cut_append_unquoted hword hrest']
  cases cut mode word with
  | none => exact .unread unread_none unread_none
  | some pieces => exact (h _).append rfl

/-- The pieces of two words that differ only in case, before what is read alike. -/
theorem CutAlike.before (hword : ∀ d ∈ c :: cs, isWordChar d = true) (hdigit : isDecimalDigit c = false)
    (hcut : cut mode (c :: cs) = some pieces) (hsmall : pieces'.map Piece.small = pieces.map Piece.small)
    (h : CutAlike x y) : CutAlike (x.map (pieces ++ ·)) (y.map (pieces' ++ ·)) := by
  cases hstarts : startsWord c with
  | false =>
    have hc := hword c (by simp)
    have hnone : terminal? mode (c :: cs) = none := by
      rw [terminal?_of_not_startsWord hstarts, otherTerminal_eq_none _ hc hdigit]
    rw [cut_none (isGap_of_isWordChar hc) hnone] at hcut
    cases hcut
  | true =>
    cases cut_word mode hword hstarts with
    | never hnever =>
      have hnone := hnever [] (notNext_nil _)
      rw [List.append_nil, hcut] at hnone
      cases hnone
    | always found mode' hplain halways =>
      have hfound := halways [] (notNext_nil _)
      rw [List.append_nil, hcut, cut_nil, Option.map_some, List.append_nil, Option.some.injEq] at hfound
      rw [← hfound] at hplain
      exact h.append (smallReading_eq_of_map_small hplain hsmall.symm)
    | number hnumber =>
      have hfound := hnumber [] pieces (notNext_nil _)
      rw [List.append_nil] at hfound
      obtain ⟨name, number, after, rfl⟩ := hfound hcut
      obtain ⟨⟨t, name'⟩, after', rfl, hname, hafter⟩ := List.map_eq_cons_iff.1 hsmall
      obtain ⟨⟨t', number'⟩, after'', rfl, hnumber', -⟩ := List.map_eq_cons_iff.1 hafter
      obtain rfl : t = .name := congrArg Prod.fst hname
      obtain rfl : t' = .number := congrArg Prod.fst hnumber'
      exact .unread (unread_named _) (unread_named _)

/-- Two words that differ only in case, before texts that do not carry them on. -/
theorem CutAlike.word {rest rest' : List Char} (hword : ∀ d ∈ c :: cs, isWordChar d = true)
    (hdigit : isDecimalDigit c = false) (hcase : (c :: cs).map Char.toLower = cs'.map Char.toLower)
    (hrest : NotNext carriesOn rest) (hrest' : NotNext carriesOn rest')
    (h : ∀ mode, CutAlike (cut mode rest) (cut mode rest')) (mode : Mode) :
    CutAlike (cut mode (c :: cs ++ rest)) (cut mode (cs' ++ rest')) := by
  have hword' : ∀ d ∈ cs', isWordChar d = true := by
    have hall := all_map_toLower isWordChar_toLower (c :: cs)
    rw [hcase, all_map_toLower isWordChar_toLower, List.all_eq_true.2 hword] at hall
    exact List.all_eq_true.1 hall
  rw [cut_append_unquoted (fun d hd => isUnquoted_of_class (hword d hd) (by decide)) hrest,
    cut_append_unquoted (fun d hd => isUnquoted_of_class (hword' d hd) (by decide)) hrest']
  have hsmall : (cut mode (c :: cs)).map (List.map Piece.small) = (cut mode cs').map (List.map Piece.small) := by
    rw [← cut_map_toLower hword, ← cut_map_toLower hword', hcase]
  cases hcut : cut mode (c :: cs) with
  | none =>
    rw [hcut, Option.map_none, eq_comm, Option.map_eq_none_iff] at hsmall
    rw [hsmall]
    exact .unread unread_none unread_none
  | some pieces =>
    rw [hcut, Option.map_some, eq_comm, Option.map_eq_some_iff] at hsmall
    obtain ⟨pieces', hcut', hsmall⟩ := hsmall
    have hterminals : pieces'.map Prod.fst = pieces.map Prod.fst := by
      have hfst := congrArg (List.map Prod.fst) hsmall
      rwa [List.map_map, List.map_map] at hfst
    rw [hcut', Option.bind_some, Option.bind_some, afterAll_eq_of_map_fst hterminals]
    exact (h (mode.afterAll pieces)).before hword hdigit hcut hsmall

/-! ## Whole conditions -/

theorem CutAlike.symm (h : CutAlike x y) : CutAlike y x := by
  cases h with
  | read h => exact .read h.symm
  | unread h h' => exact .unread h' h

theorem CutAlike.exists_compile {text text' : String} {c : Condition}
    (h : CutAlike (cut .predicate text.toList) (cut .predicate text'.toList)) (hcompile : compile text = .ok c) :
    ∃ c', compile text' = .ok c' ∧ c.small = c'.small := by
  obtain ⟨pieces, q, hcut, hread, hfinish⟩ := compile_eq_ok.1 hcompile
  rw [hcut] at h
  generalize hcut' : cut .predicate text'.toList = result at h
  cases h with
  | unread h _ =>
    rw [h pieces _ rfl] at hread
    cases hread
  | @read _ pieces' h =>
    have hsmall : ∀ pieces : List Piece, pieces.map Piece.smallReading =
        (pieces.map Piece.reading).map fun reading => (reading.1, smallText reading.1 reading.2) := by
      intro pieces
      rw [List.map_map]
      rfl
    -- the reader does the same steps with the names of both in small letters
    have hsteps := readAll_small ⟨[], .begin⟩ (pieces'.map Piece.reading)
    rw [← hsmall, ← h, hsmall, readAll_small, hread, Option.map_some, eq_comm, Option.map_eq_some_iff] at hsteps
    obtain ⟨q', hread', hq⟩ := hsteps
    have hends := finish?_small q'
    rw [hq, finish?_small, hfinish, Option.map_some, eq_comm, Option.map_eq_some_iff] at hends
    obtain ⟨c', hfinish', hc⟩ := hends
    exact ⟨c', compile_eq_ok.2 ⟨pieces', q', hcut', hread', hfinish'⟩, hc.symm⟩

/-- Texts whose pieces are read alike are the same condition but for the case of names, or neither is a condition. -/
theorem CutAlike.compile {text text' : String} (h : CutAlike (cut .predicate text.toList) (cut .predicate text'.toList)) :
    ResultsAgree (fun _ _ => True) (fun c c' => c.small = c'.small) (compile text) (compile text') := by
  cases hcompile : Condition.compile text with
  | ok c =>
    obtain ⟨c', hcompile', hc⟩ := h.exists_compile hcompile
    rw [hcompile']
    exact .done hc
  | error failure =>
    cases hcompile' : Condition.compile text' with
    | ok c' =>
      obtain ⟨c, hfound, -⟩ := h.symm.exists_compile hcompile'
      cases hcompile.symm.trans hfound
    | error failure' => exact .failed trivial

end Relational.Condition
