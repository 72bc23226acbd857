import Relational.Proofs.Sorting.Mapped
import Relational.Proofs.Sorting.Merge

/-!
# Sorting is stable

Sorting merges neighbouring runs until one is left. Which of them are merged, and when, depends on their lengths; but
whichever are, the runs that are left have all elements, each run is in order, and the elements of earlier ones stood
before those of later ones. So the last one is the list in order, in which equal elements stay as they were.
-/

namespace Relational.Sorting

variable {α ε : Type} {before : α → α → Except ε Bool} {lt : α → α → Bool} {P : α → Prop} {T : α → α → Prop}
  {xs run next zs : List α} {earlier later : List (List α)}

/-! ## Neighbouring runs -/

theorem Cut.forall_mem (h : Cut lt T xs earlier) (hxs : ∀ x ∈ xs, P x) : ∀ run ∈ earlier, ∀ x ∈ run, P x :=
  fun run hrun x hx => hxs x (h.perm.mem_iff.1 (List.mem_flatten.2 ⟨run, hrun, hx⟩))

theorem Cut.neighbours (h : Cut lt T xs (earlier ++ run :: next :: later)) (hxs : ∀ x ∈ xs, P x) :
    Neighbours lt P T run next := by
  have hrun : run ∈ earlier ++ run :: next :: later := by simp
  have hnext : next ∈ earlier ++ run :: next :: later := by simp
  refine ⟨h.sorted run hrun, h.sorted next hnext, ?_, h.forall_mem hxs run hrun, h.forall_mem hxs next hnext⟩
  have hpair := (List.pairwise_append.1 h.apart).2.1
  exact List.rel_of_pairwise_cons hpair List.mem_cons_self

/-- Two neighbouring runs may become one. -/
theorem Cut.merged (h : Cut lt T xs (earlier ++ run :: next :: later)) (hmerge : IsMerge (Follows lt T) run next zs) :
    Cut lt T xs (earlier ++ zs :: later) := by
  have hmem : ∀ z ∈ zs, z ∈ run ∨ z ∈ next := fun z hz => List.mem_append.1 (hmerge.perm.mem_iff.1 hz)
  obtain ⟨hearlier, hrest, hcross⟩ := List.pairwise_append.1 h.apart
  obtain ⟨hrun, hrest⟩ := List.pairwise_cons.1 hrest
  obtain ⟨hnext, hlater⟩ := List.pairwise_cons.1 hrest
  refine ⟨?_, fun other hother => ?_, ?_⟩
  · refine List.Perm.trans ?_ h.perm
    simp only [List.flatten_append, List.flatten_cons]
    rw [← List.append_assoc run]
    exact (hmerge.perm.append_right _).append_left _
  · rw [List.mem_append, List.mem_cons] at hother
    rcases hother with hother | rfl | hother
    · exact h.sorted other (List.mem_append_left _ hother)
    · exact hmerge.sorted
    · exact h.sorted other (by simp [hother])
  · refine List.pairwise_append.2 ⟨hearlier, List.pairwise_cons.2 ⟨?_, hlater⟩, ?_⟩
    · intro other hother z hz b hb
      rcases hmem z hz with hz | hz
      · exact hrun other (List.mem_cons_of_mem next hother) z hz b hb
      · exact hnext other hother z hz b hb
    · intro first hfirst
      rw [List.forall_mem_cons]
      refine ⟨fun a ha z hz => ?_, fun other hother => hcross first hfirst other (by simp [hother])⟩
      rcases hmem z hz with hz | hz
      · exact hcross first hfirst run (by simp) a ha z hz
      · exact hcross first hfirst next (by simp) a ha z hz

/-! ## Runs that wait -/

/-- The runs that wait, the one that waits longest first. -/
def waitingRuns (waiting : List (Waiting α)) : List (List α) :=
  (waiting.map Waiting.run).reverse

theorem waitingRuns_cons (top : Waiting α) (waiting : List (Waiting α)) :
    waitingRuns (top :: waiting) = waitingRuns waiting ++ [top.run] := by
  rw [waitingRuns, List.map_cons, List.reverse_cons, waitingRuns]

section Waiting

variable {waiting : List (Waiting α)} {last : List α}

theorem collapse_eq_ok (hc : Compares before lt P) (hxs : ∀ x ∈ xs, P x) (power patience : Nat)
    (h : Cut lt T xs (waitingRuns waiting ++ last :: later)) :
    ∃ waiting' last' patience', collapse before power patience waiting last = .ok (waiting', last', patience') ∧
      Cut lt T xs (waitingRuns waiting' ++ last' :: later) := by
  induction waiting generalizing last patience with
  | nil => exact ⟨[], last, patience, rfl, h⟩
  | cons top waiting ih =>
    rw [collapse]
    split
    · rw [waitingRuns_cons, List.append_assoc, List.singleton_append] at h
      obtain ⟨zs, rest, hzs, hmerge⟩ := merge_eq_ok hc (h.neighbours hxs) patience
      rw [hzs, ok_bind]
      exact ih rest (h.merged hmerge)
    · exact ⟨top :: waiting, last, patience, rfl, h⟩

/-- In the end one run is left. -/
theorem finish_eq_ok (hc : Compares before lt P) (hxs : ∀ x ∈ xs, P x) (patience : Nat)
    (h : Cut lt T xs (waitingRuns waiting ++ [last])) :
    ∃ ys, finish before patience waiting last = .ok ys ∧ Cut lt T xs [ys] := by
  induction hlength : waiting.length generalizing waiting last patience with
  | zero =>
    obtain rfl := List.eq_nil_of_length_eq_zero hlength
    rw [finish]
    exact ⟨last, rfl, h⟩
  | succ n ih =>
    obtain ⟨top, waiting, rfl⟩ := List.exists_cons_of_length_eq_add_one hlength
    cases waiting with
    | nil =>
      rw [waitingRuns_cons, List.append_assoc, List.singleton_append] at h
      obtain ⟨zs, rest, hzs, hmerge⟩ := merge_eq_ok hc (h.neighbours hxs) patience
      rw [finish, hzs, ok_bind]
      exact ⟨zs, rfl, h.merged hmerge⟩
    | cons below waiting =>
      have hn : (below :: waiting).length = n := Nat.succ.inj hlength
      rw [finish]
      split
      · rw [waitingRuns_cons, waitingRuns_cons, List.append_assoc, List.append_assoc, List.singleton_append,
          List.singleton_append] at h
        obtain ⟨zs, rest, hzs, hmerge⟩ := merge_eq_ok hc (h.neighbours hxs) patience
        rw [hzs, ok_bind]
        refine ih rest ?_ hn
        rw [waitingRuns_cons, List.append_assoc, List.singleton_append]
        exact h.merged hmerge
      · rw [waitingRuns_cons, List.append_assoc, List.singleton_append] at h
        obtain ⟨zs, rest, hzs, hmerge⟩ := merge_eq_ok hc (h.neighbours hxs) patience
        rw [hzs, ok_bind]
        exact ih rest (h.merged hmerge) hn

theorem mergeRuns_eq_ok (hc : Compares before lt P) (hxs : ∀ x ∈ xs, P x) (total patience : Nat)
    (h : Cut lt T xs (waitingRuns waiting ++ last :: later)) :
    ∃ ys, mergeRuns before total patience waiting last later = .ok ys ∧ Cut lt T xs [ys] := by
  induction later generalizing waiting last patience with
  | nil => exact finish_eq_ok hc hxs patience h
  | cons next later ih =>
    rw [mergeRuns_cons]
    obtain ⟨waiting', last', patience', hcollapse, hcut⟩ := collapse_eq_ok hc hxs
      (power total ((waiting.map fun w => w.run.length).foldr (· + ·) 0) last.length next.length) patience h
    simp only [hcollapse, ok_bind]
    refine ih patience' ?_
    rw [waitingRuns_cons, List.append_assoc, List.singleton_append]
    exact hcut

end Waiting

/-! ## Whole lists -/

/-- Sorting gives all elements in order. Elements of which neither comes before the other stay as they stood. -/
theorem sort_eq_ok (hc : Compares before lt (· ∈ xs)) (hT : xs.Pairwise T) :
    ∃ ys, sort before xs = .ok ys ∧ ys.Perm xs ∧ ys.Pairwise (Follows lt T) := by
  have hxs : ∀ x ∈ xs, x ∈ xs := fun _ hx => hx
  obtain ⟨found, hfound, hcut⟩ := runs_eq_ok hc hxs hT
  rw [sort, hfound, ok_bind]
  cases found with
  | nil => exact ⟨[], rfl, hcut.perm, .nil⟩
  | cons run found =>
    replace hcut : Cut lt T xs (waitingRuns [] ++ run :: found) := hcut
    obtain ⟨ys, hys, hone⟩ := mergeRuns_eq_ok hc hxs xs.length initialPatience hcut
    refine ⟨ys, hys, ?_, hone.sorted ys List.mem_cons_self⟩
    have hperm := hone.perm
    rwa [List.flatten_cons, List.flatten_nil, List.append_nil] at hperm

end Relational.Sorting
