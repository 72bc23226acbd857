import Relational.Proofs.Sorting.Search
import Relational.Sorting.Run

/-!
# Runs are sorted

A list is cut into runs, each of which has the elements of one part of the list, in order. Elements that are equal stay
in the order of the list: a run that falls is turned round only if no two of its elements are equal, and an element that
is put into a run goes behind those it is equal to.

The order of the list is any relation `T` that every element has to those after it.
-/

namespace Relational.Sorting

variable {α ε : Type} {before : α → α → Except ε Bool} {lt : α → α → Bool} {P : α → Prop} {T : α → α → Prop} {a b c : α}
  {xs : List α}

/-! ## Comparisons -/

/-- A comparison that answers for all elements in question and tells which of two comes before the other, in an order in
which whatever stands between two elements comes after the first or before the second. -/
structure Compares (before : α → α → Except ε Bool) (lt : α → α → Bool) (P : α → Prop) : Prop where
  answers : ∀ a b, P a → P b → before a b = .ok (lt a b)
  asymm : ∀ a b, P a → P b → lt a b = true → lt b a = false
  between : ∀ a b c, P a → P b → P c → lt a c = true → lt a b = true ∨ lt b c = true

/-- An element may follow another: it comes after it, or does not come before it and stood after it. -/
def Follows (lt : α → α → Bool) (T : α → α → Prop) (a b : α) : Prop :=
  lt a b = true ∨ lt b a = false ∧ T a b

theorem Compares.not_before (hc : Compares before lt P) (ha : P a) (hb : P b) (h : Follows lt T a b) :
    lt b a = false :=
  h.elim (hc.asymm a b ha hb) And.left

/-- What comes before an element comes before those that do not come before it. -/
theorem Compares.before_of_not (hc : Compares before lt P) (ha : P a) (hb : P b) (hc' : P c) (h : lt a b = true)
    (hnot : lt c b = false) : lt a c = true := by
  rcases hc.between a c b ha hc' hb h with hac | hcb
  · exact hac
  · rw [hcb] at hnot
    cases hnot

/-- What comes after an element comes after those that do not come after it. -/
theorem Compares.after_of_not (hc : Compares before lt P) (ha : P a) (hb : P b) (hc' : P c) (h : lt a c = true)
    (hnot : lt a b = false) : lt b c = true := by
  rcases hc.between a b c ha hb hc' h with hab | hbc
  · rw [hab] at hnot
    cases hnot
  · exact hbc

/-- Both coming before and not coming before are transitive. -/
theorem Compares.trans (hc : Compares before lt P) (ha : P a) (hb : P b) (hc' : P c) {falls : Bool}
    (hba : lt b a = falls) (hcb : lt c b = falls) : lt c a = falls := by
  cases falls with
  | true => exact hc.before_of_not hc' hb ha hcb (hc.asymm b a hb ha hba)
  | false =>
    rw [Bool.eq_false_iff]
    intro hca
    rw [hc.before_of_not hc' ha hb hca hba] at hcb
    cases hcb

/-! ## The run at the start of a list -/

/-- A run goes on as long as each element comes before the last one, or none does. -/
theorem spanRun_eq_ok (hc : Compares before lt P) (falls : Bool) {last : α} (hlast : P last) (hxs : ∀ x ∈ xs, P x) :
    ∃ run rest, spanRun before falls last xs = .ok (run, rest) ∧ xs = run ++ rest ∧
      (last :: run).Pairwise fun a b => lt b a = falls := by
  induction xs generalizing last with
  | nil => exact ⟨[], [], rfl, rfl, List.pairwise_singleton _ _⟩
  | cons x xs ih =>
    rw [List.forall_mem_cons] at hxs
    rw [spanRun, hc.answers x last hxs.1 hlast, ok_bind]
    split
    · rename_i hgoes
      obtain ⟨run, rest, hrun, rfl, hpairwise⟩ := ih hxs.1 hxs.2
      rw [hrun, ok_bind]
      refine ⟨x :: run, rest, rfl, rfl, List.pairwise_cons.2 ⟨?_, hpairwise⟩⟩
      have hx : lt x last = falls := by simpa using hgoes
      rw [List.forall_mem_cons]
      refine ⟨hx, fun y hy => ?_⟩
      have hPy := hxs.2 y (List.mem_append_left rest hy)
      exact hc.trans hlast hxs.1 hPy hx (List.rel_of_pairwise_cons hpairwise hy)
    · exact ⟨[], x :: xs, rfl, rfl, List.pairwise_singleton _ _⟩

/-- A run has the elements of the start of a list, in order. -/
structure Starts (lt : α → α → Bool) (T : α → α → Prop) (xs run rest : List α) : Prop where
  parts : ∃ head, xs = head ++ rest ∧ run.Perm head
  sorted : run.Pairwise (Follows lt T)
  inhabited : xs ≠ [] → run ≠ []

theorem initialRun_eq_ok (hc : Compares before lt P) (hxs : ∀ x ∈ xs, P x) (hT : xs.Pairwise T) :
    ∃ run rest, initialRun before xs = .ok (run, rest) ∧ Starts lt T xs run rest := by
  match xs with
  | [] => exact ⟨[], [], rfl, ⟨[], rfl, .refl _⟩, .nil, fun h => absurd rfl h⟩
  | [x] => exact ⟨[x], [], rfl, ⟨[x], rfl, .refl _⟩, List.pairwise_singleton _ _, fun _ h => by cases h⟩
  | x :: y :: ys =>
    rw [List.forall_mem_cons, List.forall_mem_cons] at hxs
    obtain ⟨hx, hy, hys⟩ := hxs
    rw [initialRun, hc.answers y x hy hx, ok_bind]
    obtain ⟨run, rest, hrun, rfl, hpairwise⟩ := spanRun_eq_ok hc (lt y x) hy hys
    rw [hrun, ok_bind]
    have hall : (x :: y :: run).Pairwise fun a b => lt b a = lt y x := by
      refine List.pairwise_cons.2 ⟨?_, hpairwise⟩
      rw [List.forall_mem_cons]
      refine ⟨rfl, fun z hz => ?_⟩
      exact hc.trans hx hy (hys z (List.mem_append_left rest hz)) rfl (List.rel_of_pairwise_cons hpairwise hz)
    refine ⟨_, rest, rfl, ⟨x :: y :: run, rfl, ?_⟩, ?_, fun _ h => ?_⟩
    · split
      · exact List.reverse_perm _
      · exact .refl _
    · split
      · rename_i hfalls
        rw [List.pairwise_reverse]
        exact hall.imp fun h => .inl (h.trans hfalls)
      · rename_i hrises
        have hrun : (x :: y :: run).Pairwise T := (List.pairwise_append.1 (hT : (x :: y :: run ++ rest).Pairwise T)).1
        refine hall.imp₂ (fun a b h hab => .inr ⟨?_, hab⟩) hrun
        rw [h]
        simpa using hrises
    · split at h <;> simp at h

/-! ## Insertion -/

/-- An element goes behind those that it does not come before. -/
theorem insert_eq_ok (hc : Compares before lt P) {sorted : List α} {x : α} (hsorted : ∀ y ∈ sorted, P y) (hx : P x)
    (h : sorted.Pairwise (Follows lt T)) (hT : ∀ y ∈ sorted, T y x) :
    ∃ ys, insert before sorted x = .ok ys ∧ ys.Perm (sorted ++ [x]) ∧ ys.Pairwise (Follows lt T) := by
  have hanswers : Answers (fun y => (!·) <$> before x y) (fun y => !lt x y) sorted := by
    intro y hy
    simp only [hc.answers x y hx (hsorted y hy)]
    rfl
  obtain ⟨n, hn⟩ : ∃ n, Parts (fun y => !lt x y) sorted n := by
    refine exists_parts (h.imp_of_mem fun {y y'} hy hy' hfollows hnot => ?_)
    simp only [Bool.not_eq_true'] at hnot ⊢
    rw [Bool.eq_false_iff]
    intro hbefore
    rw [hc.before_of_not hx (hsorted y hy) (hsorted y' hy') hbefore
      (hc.not_before (hsorted y hy) (hsorted y' hy') hfollows)] at hnot
    cases hnot
  rw [insert, halve_eq_ok hanswers hn (Nat.zero_le n) hn.bound (Nat.le_refl _), ok_bind]
  refine ⟨_, rfl, ?_, ?_⟩
  · have hmiddle : (sorted.take n ++ x :: sorted.drop n).Perm (x :: (sorted.take n ++ sorted.drop n)) :=
      List.perm_middle
    rw [List.take_append_drop] at hmiddle
    exact hmiddle.trans (List.perm_append_singleton x sorted).symm
  · have htake : ∀ y ∈ sorted.take n, Follows lt T y x := fun y hy =>
      .inr ⟨by simpa using hn.of_mem_take hy, hT y (List.mem_of_mem_take hy)⟩
    have hdrop : ∀ y ∈ sorted.drop n, Follows lt T x y := fun y hy => .inl (by simpa using hn.of_mem_drop hy)
    rw [← List.take_append_drop n sorted, List.pairwise_append] at h
    rw [List.pairwise_append, List.pairwise_cons]
    refine ⟨h.1, ⟨hdrop, h.2.1⟩, fun y hy => ?_⟩
    rw [List.forall_mem_cons]
    exact ⟨htake y hy, h.2.2 y hy⟩

/-- Elements are put into a run one after the other. -/
theorem insertAll_eq_ok (hc : Compares before lt P) {run more : List α} (hrun : ∀ x ∈ run, P x)
    (hmore : ∀ x ∈ more, P x) (h : run.Pairwise (Follows lt T)) (hT : more.Pairwise T) (hcross : ∀ x ∈ run, ∀ y ∈ more, T x y) :
    ∃ ys, more.foldlM (insert before) run = .ok ys ∧ ys.Perm (run ++ more) ∧ ys.Pairwise (Follows lt T) := by
  induction more generalizing run with
  | nil => exact ⟨run, rfl, by rw [List.append_nil], h⟩
  | cons x more ih =>
    rw [List.forall_mem_cons] at hmore
    obtain ⟨hx, hT⟩ := List.pairwise_cons.1 hT
    obtain ⟨run', hinsert, hperm, hsorted⟩ :=
      insert_eq_ok hc hrun hmore.1 h fun y hy => hcross y hy x List.mem_cons_self
    have hmem : ∀ y ∈ run', y ∈ run ∨ y = x := fun y hy => by simpa using hperm.mem_iff.1 hy
    have hrun' : ∀ y ∈ run', P y := fun y hy => (hmem y hy).elim (hrun y) fun heq => heq ▸ hmore.1
    have hcross' : ∀ y ∈ run', ∀ z ∈ more, T y z := fun y hy z hz =>
      (hmem y hy).elim (fun hy => hcross y hy z (List.mem_cons_of_mem x hz)) fun heq => heq ▸ hx z hz
    obtain ⟨ys, hys, hperm', hsorted'⟩ := ih hrun' hmore.2 hsorted hT hcross'
    refine ⟨ys, foldlM_cons_eq_ok.2 ⟨run', hinsert, hys⟩, ?_, hsorted'⟩
    have happend := hperm.append_right more
    rw [List.append_assoc] at happend
    exact hperm'.trans happend

/-- A short run takes in the elements after it. -/
theorem nextRun_eq_ok (hc : Compares before lt P) (least : Nat) (hxs : ∀ x ∈ xs, P x) (hT : xs.Pairwise T) :
    ∃ run rest, nextRun before least xs = .ok (run, rest) ∧ Starts lt T xs run rest := by
  obtain ⟨run, rest, hrun, ⟨head, rfl, hperm⟩, hsorted, hinhabited⟩ := initialRun_eq_ok hc hxs hT
  rw [List.pairwise_append] at hT
  have hmore : ∀ x ∈ rest.take (least - run.length), P x := fun x hx =>
    hxs x (List.mem_append_right head (List.mem_of_mem_take hx))
  obtain ⟨run', hrun', hperm', hsorted'⟩ := insertAll_eq_ok hc
    (fun x hx => hxs x (List.mem_append_left rest (hperm.mem_iff.1 hx))) hmore hsorted
    (hT.2.1.sublist (List.take_sublist _ _))
    fun x hx y hy => hT.2.2 x (hperm.mem_iff.1 hx) y (List.mem_of_mem_take hy)
  rw [nextRun, hrun, ok_bind]
  simp only [hrun', ok_bind]
  refine ⟨run', _, rfl, ⟨head ++ rest.take (least - run.length), ?_, hperm'.trans (hperm.append_right _)⟩, hsorted', ?_⟩
  · rw [List.append_assoc, List.take_append_drop]
  · rintro hne rfl
    exact hinhabited hne (List.append_eq_nil_iff.1 hperm'.nil_eq.symm).1

/-! ## All runs -/

/-- Runs have the elements of a list, each in order, and those of earlier runs stood before those of later ones. -/
structure Cut (lt : α → α → Bool) (T : α → α → Prop) (xs : List α) (runs : List (List α)) : Prop where
  perm : runs.flatten.Perm xs
  sorted : ∀ run ∈ runs, run.Pairwise (Follows lt T)
  apart : runs.Pairwise fun run later => ∀ a ∈ run, ∀ b ∈ later, T a b

theorem runsUpTo_eq_ok (hc : Compares before lt P) (least : Nat) {count : Nat} (hcount : xs.length ≤ count)
    (hxs : ∀ x ∈ xs, P x) (hT : xs.Pairwise T) :
    ∃ runs, runsUpTo before least count xs = .ok runs ∧ Cut lt T xs runs := by
  induction count generalizing xs with
  | zero =>
    obtain rfl := List.eq_nil_of_length_eq_zero (Nat.le_zero.1 hcount)
    exact ⟨[], rfl, .refl _, by simp, .nil⟩
  | succ count ih =>
    cases xs with
    | nil => exact ⟨[], rfl, .refl _, by simp, .nil⟩
    | cons x xs =>
      obtain ⟨run, rest, hrun, ⟨head, hsplit, hperm⟩, hsorted, hinhabited⟩ := nextRun_eq_ok hc least hxs hT
      have hlength : rest.length ≤ count := by
        have hpos : 0 < head.length := by
          rw [← hperm.length_eq]
          exact List.length_pos_iff.2 (hinhabited (by simp))
        have htotal := congrArg List.length hsplit
        rw [List.length_append] at htotal
        omega
      rw [hsplit] at hxs hT ⊢
      rw [List.pairwise_append] at hT
      obtain ⟨runs, hruns, hcut⟩ := ih hlength (fun y hy => hxs y (List.mem_append_right head hy)) hT.2.1
      rw [← hsplit, runsUpTo, hrun, ok_bind]
      · simp only [hruns, ok_bind]
        refine ⟨run :: runs, rfl, ?_, ?_, ?_⟩
        · rw [List.flatten_cons, hsplit]
          exact hperm.append hcut.perm
        · rw [List.forall_mem_cons]
          exact ⟨hsorted, hcut.sorted⟩
        · refine List.pairwise_cons.2 ⟨fun later hlater a ha b hb => ?_, hcut.apart⟩
          exact hT.2.2 a (hperm.mem_iff.1 ha) b (hcut.perm.mem_iff.1 (List.mem_flatten.2 ⟨later, hlater, hb⟩))
      · simp

/-- A list is cut into runs. -/
theorem runs_eq_ok (hc : Compares before lt P) (hxs : ∀ x ∈ xs, P x) (hT : xs.Pairwise T) :
    ∃ found, runs before xs = .ok found ∧ Cut lt T xs found :=
  runsUpTo_eq_ok hc (leastRun xs.length) (Nat.le_refl _) hxs hT

end Relational.Sorting
