import Relational.Proofs.Entries
import Relational.Proofs.Json.Scalars

/-!
# Documents read back

A document without numbers that have a point or an exponent, and with every key once in each object, reads back
from its text as it was. The induction is over the document; `ReadsBack` is what it shows of each part, whatever
the depth at which the part stands and whatever follows it.
-/

namespace Relational.Json

open Decimal

/-- A document that can be written without loss: its numbers are integers, and no object has a key twice. -/
inductive Plain : Json → Prop where
  | null : Plain .null
  | bool (b : Bool) : Plain (.bool b)
  | int (n : Int) : Plain (.int n)
  | text (s : String) : Plain (.text s)
  | list {items : List Json} (hitems : ∀ item ∈ items, Plain item) : Plain (.list items)
  | object {entries : List (String × Json)} (nodup : (entries.map Prod.fst).Nodup)
      (hentries : ∀ entry ∈ entries, Plain entry.2) : Plain (.object entries)

namespace Plain

theorem ofTexts (texts : List String) : Plain (.ofTexts texts) := by
  refine .list fun item hitem => ?_
  obtain ⟨s, -, rfl⟩ := List.mem_map.1 hitem
  exact .text s

theorem ofText? (s : Option String) : Plain (.ofText? s) := by
  cases s with
  | none => exact .null
  | some s => exact .text s

theorem ofInt? (n : Option Int) : Plain (.ofInt? n) := by
  cases n with
  | none => exact .null
  | some n => exact .int n

/-- An object that gives each key a value of its own. -/
theorem entries {α : Type} (value : α → Json) {items : List (String × α)} (nodup : (items.map Prod.fst).Nodup)
    (h : ∀ item ∈ items, Plain (value item.2)) : Plain (.object (items.map fun item => (item.1, value item.2))) := by
  refine .object ?_ fun entry hentry => ?_
  · rw [List.map_map]
    exact nodup
  · obtain ⟨item, hitem, rfl⟩ := List.mem_map.1 hentry
    exact h item hitem

end Plain

/-! ## White space -/

theorem skipSpace_newline (depth : Nat) (cs : List Char) : skipSpace (newline depth ++ cs) = skipSpace cs := by
  have hspace : ∀ c ∈ newline depth, isSpace c = true := by
    intro c hc
    rcases List.mem_cons.1 hc with rfl | hc
    · rfl
    · rw [List.eq_of_mem_replicate hc]
      rfl
  rw [skipSpace, List.dropWhile_append_of_pos hspace, skipSpace]

theorem skipSpace_cons {c : Char} (h : isSpace c = false) (cs : List Char) : skipSpace (c :: cs) = c :: cs := by
  simp [skipSpace, h]

theorem readValue_newline (fuel depth : Nat) (cs : List Char) :
    readValue fuel (newline depth ++ cs) = readValue fuel cs := by
  cases fuel with
  | zero => simp only [readValue]
  | succ fuel => simp only [readValue, skipSpace_newline]

theorem readValue_blank (fuel : Nat) (cs : List Char) : readValue fuel (' ' :: cs) = readValue fuel cs := by
  cases fuel with
  | zero => simp only [readValue]
  | succ fuel => simp only [readValue, show skipSpace (' ' :: cs) = skipSpace cs from rfl]

theorem readItems_newline (fuel depth : Nat) (cs : List Char) :
    readItems fuel (newline depth ++ cs) = readItems fuel cs := by
  cases fuel with
  | zero => simp only [readItems]
  | succ fuel => simp only [readItems, readValue_newline]

theorem readEntries_newline (fuel depth : Nat) (cs : List Char) :
    readEntries fuel (newline depth ++ cs) = readEntries fuel cs := by
  cases fuel with
  | zero => simp only [readEntries]
  | succ fuel => simp only [readEntries, skipSpace_newline]

/-! ## First characters -/

theorem isSpace_of_isDigit {c : Char} (h : c.isDigit = true) : isSpace c = false := by
  simp only [isSpace, Bool.or_eq_false_iff, beq_eq_false_iff_ne]
  refine ⟨⟨⟨?_, ?_⟩, ?_⟩, ?_⟩ <;> (rintro rfl; exact absurd h (by decide))

/-- The first character of an integer. -/
theorem head_intText (n : Int) : ∃ c cs, (intText n).toList = c :: cs ∧ (c = '-' ∨ c.isDigit = true) := by
  rw [intText]
  split
  · exact ⟨'-', _, by simp only [String.toList_append]; rfl, .inl rfl⟩
  · rw [natText, String.toList_ofList]
    cases hdigits : natDigits n.natAbs with
    | nil => exact absurd hdigits (natDigits_ne_nil _)
    | cons d digits => exact ⟨d, digits, rfl, .inr (isDigit_of_mem_natDigits (by rw [hdigits]; simp))⟩

/-- A value starts with a character that is neither white space nor the end of a list. -/
theorem head_valueChars {document : Json} (h : document.Plain) (depth : Nat) :
    ∃ c cs, valueChars depth document = c :: cs ∧ isSpace c = false ∧ c ≠ ']' := by
  cases h with
  | null => exact ⟨'n', _, rfl, rfl, by decide⟩
  | bool b =>
    cases b
    · exact ⟨'f', _, rfl, rfl, by decide⟩
    · exact ⟨'t', _, rfl, rfl, by decide⟩
  | int n =>
    obtain ⟨c, cs, hchars, hc⟩ := head_intText n
    refine ⟨c, cs, by rw [valueChars, hchars], ?_, ?_⟩
    · rcases hc with rfl | hc
      · rfl
      · exact isSpace_of_isDigit hc
    · rcases hc with rfl | hc
      · decide
      · rintro rfl
        exact absurd hc (by decide)
  | text s => exact ⟨'"', _, by rw [valueChars, textChars], rfl, by decide⟩
  | @list items _ =>
    cases items with
    | nil => exact ⟨'[', _, by rw [valueChars], rfl, by decide⟩
    | cons item items => exact ⟨'[', _, by rw [valueChars], rfl, by decide⟩
  | @object entries _ _ =>
    cases entries with
    | nil => exact ⟨'\x7b', _, by rw [valueChars], rfl, by decide⟩
    | cons entry entries => exact ⟨'\x7b', _, by rw [valueChars], rfl, by decide⟩

/-! ## Values -/

/-- Wherever the value stands, and whatever follows it that is no more of a number, it reads back. -/
def ReadsBack (document : Json) : Prop :=
  ∀ depth rest fuel, EndsNumber rest → 2 * (valueChars depth document).length ≤ fuel →
    readValue fuel (valueChars depth document ++ rest) = some (document, rest)

theorem endsNumber_newline (depth : Nat) (rest : List Char) : EndsNumber (newline depth ++ rest) :=
  .cons (by decide) _

theorem endsNumber_itemsChars (depth depth' : Nat) (items : List Json) (rest : List Char) :
    EndsNumber (itemsChars depth items ++ (newline depth' ++ rest)) := by
  cases items with
  | nil => exact endsNumber_newline depth' rest
  | cons item items => exact .cons (by decide) _

theorem endsNumber_entriesChars (depth depth' : Nat) (entries : List (String × Json)) (rest : List Char) :
    EndsNumber (entriesChars depth entries ++ (newline depth' ++ rest)) := by
  cases entries with
  | nil => exact endsNumber_newline depth' rest
  | cons entry entries => exact .cons (by decide) _

/-- The items of a list read back one after another up to the bracket. -/
theorem readItems_itemsChars {item : Json} {items : List Json} (h : ∀ i ∈ item :: items, ReadsBack i)
    (depth depth' : Nat) (rest : List Char) {fuel : Nat}
    (hfuel : 2 * ((valueChars depth item).length + (itemsChars depth items).length) < fuel) :
    readItems fuel (valueChars depth item ++ (itemsChars depth items ++ (newline depth' ++ ']' :: rest)))
      = some (item :: items, rest) := by
  induction items generalizing item fuel with
  | nil =>
    cases fuel with
    | zero => omega
    | succ fuel =>
      have hitem := h item (by simp) depth (newline depth' ++ ']' :: rest) fuel (endsNumber_newline _ _) (by omega)
      simp only [itemsChars, List.nil_append, readItems, hitem, skipSpace_newline, skipSpace_cons (c := ']') rfl]
  | cons next items ih =>
    cases fuel with
    | zero => omega
    | succ fuel =>
      -- one unit of fuel for the item and one for the value in it, and the comma pays for both
      have hlength : (itemsChars depth (next :: items)).length
          = 1 + ((newline depth).length + (valueChars depth next).length + (itemsChars depth items).length) := by
        rw [itemsChars, List.length_cons, List.length_append, List.length_append, Nat.add_comm]
      have hitem := h item (by simp) depth (itemsChars depth (next :: items) ++ (newline depth' ++ ']' :: rest)) fuel
        (endsNumber_itemsChars _ _ _ _) (by omega)
      have hitems : readItems fuel (valueChars depth next ++ (itemsChars depth items ++ (newline depth' ++ ']' :: rest)))
          = some (next :: items, rest) := ih (fun i hi => h i (List.mem_cons_of_mem _ hi)) (by omega)
      rw [readItems, hitem]
      simp only [itemsChars, List.cons_append, List.append_assoc, skipSpace_cons (c := ',') rfl, readItems_newline,
        hitems, Option.map_some]

/-- The entries of an object read back one after another up to the brace. -/
theorem readEntries_entriesChars {key : String} {value : Json} {entries : List (String × Json)}
    (h : ∀ entry ∈ (key, value) :: entries, ReadsBack entry.2) (depth depth' : Nat) (rest : List Char) {fuel : Nat}
    (hfuel : 2 * ((valueChars depth value).length + (entriesChars depth entries).length) < fuel) :
    readEntries fuel (textChars key ++ (':' :: ' ' :: (valueChars depth value
        ++ (entriesChars depth entries ++ (newline depth' ++ '\x7d' :: rest)))))
      = some ((key, value) :: entries, rest) := by
  induction entries generalizing key value fuel with
  | nil =>
    have hback : ReadsBack value := h (key, value) (by simp)
    cases fuel with
    | zero => omega
    | succ fuel =>
      have hvalue := hback depth (newline depth' ++ '\x7d' :: rest) fuel (endsNumber_newline _ _) (by omega)
      simp only [entriesChars, List.nil_append, readEntries, textChars, List.cons_append, List.append_assoc,
        skipSpace_cons (c := '"') rfl, readText_textChars, skipSpace_cons (c := ':') rfl, readValue_blank, hvalue,
        skipSpace_newline, skipSpace_cons (c := '\x7d') rfl]
  | cons next entries ih =>
    obtain ⟨nextKey, nextValue⟩ := next
    have hback : ReadsBack value := h (key, value) (by simp)
    cases fuel with
    | zero => omega
    | succ fuel =>
      have hlength : (entriesChars depth ((nextKey, nextValue) :: entries)).length
          = 1 + ((newline depth).length + (textChars nextKey).length + 2 + (valueChars depth nextValue).length
            + (entriesChars depth entries).length) := by
        simp only [entriesChars, List.length_cons, List.length_append, List.length_nil]
        omega
      have hvalue := hback depth
        (entriesChars depth ((nextKey, nextValue) :: entries) ++ (newline depth' ++ '\x7d' :: rest)) fuel
        (endsNumber_entriesChars _ _ _ _) (by omega)
      have hentries : readEntries fuel (textChars nextKey ++ (':' :: ' ' :: (valueChars depth nextValue
            ++ (entriesChars depth entries ++ (newline depth' ++ '\x7d' :: rest)))))
          = some ((nextKey, nextValue) :: entries, rest) := ih (fun e he => h e (List.mem_cons_of_mem _ he)) (by omega)
      simp only [readEntries, textChars, List.cons_append, List.append_assoc, List.nil_append,
        skipSpace_cons (c := '"') rfl, readText_textChars, skipSpace_cons (c := ':') rfl, readValue_blank, hvalue]
      simp only [entriesChars, List.cons_append, List.append_assoc, List.nil_append, skipSpace_cons (c := ',') rfl,
        readEntries_newline, hentries, Option.map_some]

theorem readsBack_list {items : List Json} (hplain : ∀ item ∈ items, Plain item) (h : ∀ item ∈ items, ReadsBack item) :
    ReadsBack (.list items) := by
  intro depth rest fuel hrest hfuel
  cases items with
  | nil =>
    cases fuel with
    | zero => simp [valueChars] at hfuel
    | succ fuel =>
      simp only [valueChars, List.cons_append, List.nil_append, readValue, skipSpace_cons (c := '[') rfl,
        skipSpace_cons (c := ']') rfl]
  | cons item items =>
    simp only [valueChars, List.length_cons, List.length_append, List.length_nil] at hfuel
    cases fuel with
    | zero => omega
    | succ fuel =>
      obtain ⟨c, cs, hchars, hspace, hbracket⟩ := head_valueChars (hplain item (by simp)) (depth + 1)
      have hitems : readItems fuel (valueChars (depth + 1) item ++ (itemsChars (depth + 1) items
          ++ (newline depth ++ ']' :: rest))) = some (item :: items, rest) :=
        readItems_itemsChars h (depth + 1) depth rest (by omega)
      simp only [valueChars, List.cons_append, List.append_assoc, List.nil_append, readValue,
        skipSpace_cons (c := '[') rfl, skipSpace_newline]
      rw [hchars, List.cons_append] at hitems ⊢
      rw [skipSpace_cons hspace]
      -- the first item is no bracket, so the list is not empty
      split
      · rename_i heq
        exact absurd (List.cons.inj heq).1 hbracket
      · rw [hitems]
        rfl

theorem readsBack_object {entries : List (String × Json)} (nodup : (entries.map Prod.fst).Nodup)
    (h : ∀ entry ∈ entries, ReadsBack entry.2) : ReadsBack (.object entries) := by
  intro depth rest fuel hrest hfuel
  cases entries with
  | nil =>
    cases fuel with
    | zero => simp [valueChars] at hfuel
    | succ fuel =>
      simp only [valueChars, List.cons_append, List.nil_append, readValue, skipSpace_cons (c := '\x7b') rfl,
        skipSpace_cons (c := '\x7d') rfl]
  | cons entry entries =>
    obtain ⟨key, value⟩ := entry
    simp only [valueChars, List.length_cons, List.length_append, List.length_nil] at hfuel
    cases fuel with
    | zero => omega
    | succ fuel =>
      have hentries : readEntries fuel (textChars key ++ (':' :: ' ' :: (valueChars (depth + 1) value
          ++ (entriesChars (depth + 1) entries ++ (newline depth ++ '\x7d' :: rest)))))
          = some ((key, value) :: entries, rest) := readEntries_entriesChars h (depth + 1) depth rest (by omega)
      have hkeys : collectEntries ((key, value) :: entries) = (key, value) :: entries := collectEntries_of_nodup nodup
      simp only [textChars, List.cons_append, List.append_assoc, List.nil_append] at hentries
      simp only [valueChars, textChars, List.cons_append, List.append_assoc, List.nil_append, readValue,
        skipSpace_cons (c := '\x7b') rfl, skipSpace_newline, skipSpace_cons (c := '"') rfl]
      split
      · rename_i heq
        exact absurd (List.cons.inj heq).1 (by decide)
      · rw [hentries, Option.map_some, hkeys]

/-- What starts neither a text nor a list nor an object is a number or a word. -/
theorem readValue_scalar {c : Char} (hspace : isSpace c = false) (htext : c ≠ '"') (hlist : c ≠ '[')
    (hobject : c ≠ '\x7b') (fuel : Nat) (cs : List Char) : readValue (fuel + 1) (c :: cs) = readScalar (c :: cs) := by
  rw [readValue, skipSpace_cons hspace]
  split <;> simp_all

theorem readsBack_int (n : Int) : ReadsBack (.int n) := by
  intro depth rest fuel hrest hfuel
  obtain ⟨c, cs, hchars, hc⟩ := head_intText n
  have hread := readScalar_intText n hrest
  rw [valueChars, hchars] at hfuel ⊢
  rw [hchars] at hread
  have hplain : isSpace c = false ∧ c ≠ '"' ∧ c ≠ '[' ∧ c ≠ '\x7b' := by
    rcases hc with rfl | hc
    · decide
    · refine ⟨?_, ?_, ?_, ?_⟩
      · exact isSpace_of_isDigit hc
      all_goals rintro rfl; exact absurd hc (by decide)
  cases fuel with
  | zero => simp at hfuel
  | succ fuel =>
    rw [List.cons_append] at hread ⊢
    rw [readValue_scalar hplain.1 hplain.2.1 hplain.2.2.1 hplain.2.2.2, hread]

/-- The parts of a plain document read back, wherever they stand. -/
theorem Plain.readsBack {document : Json} (h : document.Plain) : ReadsBack document := by
  induction h with
  | null =>
    intro depth rest fuel _ hfuel
    cases fuel with
    | zero => simp [valueChars] at hfuel
    | succ fuel => rfl
  | bool b =>
    intro depth rest fuel _ hfuel
    cases fuel with
    | zero => cases b <;> simp [valueChars] at hfuel
    | succ fuel => cases b <;> rfl
  | int n => exact readsBack_int n
  | text s =>
    intro depth rest fuel _ hfuel
    cases fuel with
    | zero => simp [valueChars, textChars] at hfuel
    | succ fuel =>
      simp only [valueChars, textChars, List.cons_append, List.append_assoc, List.nil_append, readValue,
        skipSpace_cons (c := '"') rfl, readText_textChars, Option.map_some]
  | list hitems ih => exact readsBack_list hitems ih
  | object nodup _ ih => exact readsBack_object nodup ih

/-- A plain document reads back from its text. -/
theorem Plain.parse?_print {document : Json} (h : document.Plain) : parse? document.print = some document := by
  have hread := h.readsBack 0 [] (2 * (valueChars 0 document).length + 1) (fun _ _ heq => by cases heq) (by omega)
  rw [List.append_nil] at hread
  rw [parse?, print, String.length_ofList, String.toList_ofList, hread]
  rfl

end Relational.Json
