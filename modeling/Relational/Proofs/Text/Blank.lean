import Mathlib.Data.List.DropRight
import Relational.Text.Blank

/-!
# Trimming

Trimmed text has nothing left to trim, and trimming takes no character that does not satisfy the test.
-/

namespace Relational.Text

variable {p q : Char → Bool} {cs : List Char}

theorem dropRightWhile_eq (p : Char → Bool) (cs : List Char) : dropRightWhile p cs = cs.rdropWhile p := rfl

/-- The first character of a trimmed text fails the test, so nothing more is taken off in front. -/
theorem dropWhile_trimWhile (p : Char → Bool) (cs : List Char) : (trimWhile p cs).dropWhile p = trimWhile p cs := by
  have hpre : trimWhile p cs <+: cs.dropWhile p := List.rdropWhile_prefix p _
  rw [List.dropWhile_eq_self_iff]
  intro hl
  rw [hpre.getElem hl]
  exact List.dropWhile_get_zero_not p cs (Nat.lt_of_lt_of_le hl hpre.length_le)

theorem trimWhile_trimWhile (p : Char → Bool) (cs : List Char) :
    trimWhile p (trimWhile p cs) = trimWhile p cs := by
  rw [trimWhile, dropWhile_trimWhile, trimWhile, dropRightWhile_eq, dropRightWhile_eq,
    List.rdropWhile_idempotent]

theorem mem_trimWhile {c : Char} (hc : c ∈ cs) (hp : p c = false) : c ∈ trimWhile p cs := by
  have hdrop : c ∈ cs.dropWhile p := by
    rw [← List.takeWhile_append_dropWhile (p := p) (l := cs)] at hc
    rcases List.mem_append.1 hc with htake | hdrop
    · simp [List.mem_takeWhile_imp htake] at hp
    · exact hdrop
  rw [← List.rdropWhile_append_rtakeWhile (p := p) (l := cs.dropWhile p)] at hdrop
  rcases List.mem_append.1 hdrop with htrim | htail
  · exact htrim
  · simp [List.mem_rtakeWhile_imp htail] at hp

/-! ## Text that is trimmed already -/

theorem dropWhile_eq_self_of_imp (hq : ∀ c, q c = true → p c = true) (h : cs.dropWhile p = cs) :
    cs.dropWhile q = cs := by
  rw [List.dropWhile_eq_self_iff] at h ⊢
  exact fun hl hc => h hl (hq _ hc)

theorem dropRightWhile_eq_self_of_imp (hq : ∀ c, q c = true → p c = true) (h : dropRightWhile p cs = cs) :
    dropRightWhile q cs = cs := by
  rw [dropRightWhile_eq, List.rdropWhile_eq_self_iff] at h ⊢
  exact fun hl hc => h hl (hq _ hc)

/-- The last character of a trimmed text fails the test. -/
theorem dropRightWhile_trimWhile (p : Char → Bool) (cs : List Char) :
    dropRightWhile p (trimWhile p cs) = trimWhile p cs :=
  List.rdropWhile_idempotent p _

/-- Trimmed text stays as it is if less is trimmed. -/
theorem trimWhile_of_imp (hq : ∀ c, q c = true → p c = true) (cs : List Char) :
    trimWhile q (trimWhile p cs) = trimWhile p cs := by
  rw [trimWhile, dropWhile_eq_self_of_imp hq (dropWhile_trimWhile p cs),
    dropRightWhile_eq_self_of_imp hq (dropRightWhile_trimWhile p cs)]

/-- Text of which no character satisfies the test is trimmed already. -/
theorem trimWhile_eq_self (h : ∀ c ∈ cs, p c = false) : trimWhile p cs = cs := by
  have hdrop : cs.dropWhile p = cs := by
    rw [List.dropWhile_eq_self_iff]
    intro hl
    simp [h _ (List.getElem_mem hl)]
  rw [trimWhile, hdrop, dropRightWhile_eq, List.rdropWhile_eq_self_iff]
  intro hl
  simp [h _ (List.getLast_mem hl)]

/-- What is trimmed at both ends satisfies the test. -/
theorem exists_trimWhile (p : Char → Bool) (cs : List Char) : ∃ before after,
    (∀ c ∈ before, p c = true) ∧ (∀ c ∈ after, p c = true) ∧ cs = before ++ trimWhile p cs ++ after := by
  refine ⟨cs.takeWhile p, (cs.dropWhile p).rtakeWhile p, fun c => List.mem_takeWhile_imp,
    fun c => List.mem_rtakeWhile_imp, ?_⟩
  rw [List.append_assoc, trimWhile, dropRightWhile_eq, List.rdropWhile_append_rtakeWhile,
    List.takeWhile_append_dropWhile]

/-- Text around which only characters that satisfy the test stand. -/
theorem trimWhile_append {before after : List Char} (hbefore : ∀ c ∈ before, p c = true)
    (hafter : ∀ c ∈ after, p c = true) (h : ∀ c ∈ cs, p c = false) : trimWhile p (before ++ cs ++ after) = cs := by
  rw [List.append_assoc, trimWhile, List.dropWhile_append_of_pos hbefore, dropRightWhile_eq]
  cases cs with
  | nil =>
    rw [List.nil_append, List.dropWhile_eq_nil_iff.2 hafter]
    rfl
  | cons c cs =>
    rw [List.cons_append, List.dropWhile_cons_of_neg (by simp [h c]), ← List.cons_append]
    have hr : (c :: cs ++ after).rdropWhile p = (c :: cs).rdropWhile p := by
      rw [List.rdropWhile, List.reverse_append, List.dropWhile_append_of_pos (by simpa using hafter)]
      rfl
    rw [hr, List.rdropWhile_eq_self_iff]
    intro hl
    simp [h _ (List.getLast_mem hl)]

/-- Text that starts and ends with characters that fail the test is trimmed already. -/
theorem trimWhile_eq_self_of_ends {c d : Char} (hc : p c = false) (hd : p d = false) (cs : List Char) :
    trimWhile p (c :: (cs ++ [d])) = c :: (cs ++ [d]) := by
  rw [trimWhile, List.dropWhile_cons_of_neg (by simp [hc]), dropRightWhile_eq, ← List.cons_append,
    List.rdropWhile_concat_neg _ _ _ (by simp [hd])]

/-- Less is trimmed to a text without a character that the wider test takes: the wider test trims it no further. -/
theorem trimWhile_eq_of_imp (hq : ∀ c, q c = true → p c = true) (h : ∀ c ∈ trimWhile q cs, p c = false) :
    trimWhile p cs = trimWhile q cs := by
  obtain ⟨before, after, hbefore, hafter, hcs⟩ := exists_trimWhile q cs
  conv_lhs => rw [hcs]
  exact trimWhile_append (fun c hc => hq c (hbefore c hc)) (fun c hc => hq c (hafter c hc)) h

/-! ## Texts between which the same text stands -/

theorem forall_mem_intercalate {sep : String} {texts : List String} (hsep : ∀ c ∈ sep.toList, p c = true)
    (h : ∀ text ∈ texts, ∀ c ∈ text.toList, p c = true) : ∀ c ∈ (sep.intercalate texts).toList, p c = true := by
  induction texts with
  | nil => simp
  | cons text texts ih =>
    rw [List.forall_mem_cons] at h
    cases texts with
    | nil => simpa using h.1
    | cons next texts =>
      simp only [String.intercalate_cons_cons, String.toList_append, List.forall_mem_append]
      exact ⟨⟨h.1, hsep⟩, ih h.2⟩

/-! ## White space -/

theorem strip_strip (s : String) : strip (strip s) = strip s := by
  simp only [strip, stripChars, String.toList_ofList, trimWhile_trimWhile]

theorem mem_strip {c : Char} {s : String} (hc : c ∈ s.toList) (hb : isBlank c = false) :
    c ∈ (strip s).toList := by
  rw [strip, String.toList_ofList]
  exact mem_trimWhile hc hb

theorem strip_eq_self {s : String} (h : ∀ c ∈ s.toList, isBlank c = false) : strip s = s := by
  rw [strip, stripChars, trimWhile_eq_self h, String.ofList_toList]

end Relational.Text
