import Relational.Proofs.Sorting.Run
import Relational.Sorting.Merge

/-!
# Merging keeps the order

A merge of two runs that are in order gives all their elements in order, however it goes on: one comparison at a time or
by stretches, and from the start or from the end. A merge from the end is one of two runs turned round, in the order
turned round, so both are covered by one statement about an order `R` and a choice `goes` that is in line with it.
-/

namespace Relational.Sorting

variable {α ε : Type} {before : α → α → Except ε Bool} {forward : Bool} {R : α → α → Prop} {goes : α → α → Bool}
  {xs ys zs : List α} {x y : α}

/-! ## Two runs -/

/-- Two runs in an order `R` that can become one: for any two elements `goes` says without fail whether the one of the
second run is to go first, in line with the order. If it is, it is to go before what follows in the first run, too; and
if it is not, neither is what follows in the second run. -/
structure Mergeable (before : α → α → Except ε Bool) (forward : Bool) (R : α → α → Prop) (goes : α → α → Bool)
    (xs ys : List α) : Prop where
  first : xs.Pairwise R
  second : ys.Pairwise R
  answers : ∀ x ∈ xs, ∀ y ∈ ys, secondGoes before forward x y = .ok (goes x y)
  takes : ∀ x ∈ xs, ∀ y ∈ ys, goes x y = true → R y x
  leaves : ∀ x ∈ xs, ∀ y ∈ ys, goes x y = false → R x y
  rises : ∀ x ∈ xs, ∀ x' ∈ xs, ∀ y ∈ ys, R x x' → goes x y = true → goes x' y = true
  falls : ∀ x ∈ xs, ∀ y ∈ ys, ∀ y' ∈ ys, R y y' → goes x y = false → goes x y' = false

theorem Mergeable.sublist {xs' ys' : List α} (h : Mergeable before forward R goes xs ys) (hxs : xs'.Sublist xs)
    (hys : ys'.Sublist ys) : Mergeable before forward R goes xs' ys' where
  first := h.first.sublist hxs
  second := h.second.sublist hys
  answers x hx y hy := h.answers x (hxs.subset hx) y (hys.subset hy)
  takes x hx y hy := h.takes x (hxs.subset hx) y (hys.subset hy)
  leaves x hx y hy := h.leaves x (hxs.subset hx) y (hys.subset hy)
  rises x hx x' hx' y hy := h.rises x (hxs.subset hx) x' (hxs.subset hx') y (hys.subset hy)
  falls x hx y hy y' hy' := h.falls x (hxs.subset hx) y (hys.subset hy) y' (hys.subset hy')

/-- The last element of the run that is held aside goes after all of the other run. -/
def LastComes (forward : Bool) (goes : α → α → Bool) (xs ys : List α) : Prop :=
  if forward then ∀ x ∈ xs.getLast?, ∀ y ∈ ys, goes x y = true else ∀ y ∈ ys.getLast?, ∀ x ∈ xs, goes x y = false

theorem mem_getLast?_of_suffix {xs' : List α} (h : xs' <:+ xs) (hx : x ∈ xs'.getLast?) : x ∈ xs.getLast? := by
  obtain ⟨head, rfl⟩ := h
  rw [Option.mem_def] at hx ⊢
  rw [List.getLast?_append, hx]
  rfl

theorem LastComes.suffix {xs' ys' : List α} (h : LastComes forward goes xs ys) (hxs : xs' <:+ xs) (hys : ys' <:+ ys) :
    LastComes forward goes xs' ys' := by
  cases forward with
  | true => exact fun x hx y hy => h x (mem_getLast?_of_suffix hxs hx) y (hys.subset hy)
  | false => exact fun y hy x hx => h y (mem_getLast?_of_suffix hys hy) x (hxs.subset hx)

/-- All elements of two runs, in order. -/
structure IsMerge (R : α → α → Prop) (xs ys zs : List α) : Prop where
  perm : zs.Perm (xs ++ ys)
  sorted : zs.Pairwise R

/-- Elements of the first run stand before the merge of what is left. -/
theorem IsMerge.first {moved : List α} (h : IsMerge R xs ys zs) (hmoved : moved.Pairwise R)
    (hxs : ∀ a ∈ moved, ∀ x ∈ xs, R a x) (hys : ∀ a ∈ moved, ∀ y ∈ ys, R a y) :
    IsMerge R (moved ++ xs) ys (moved ++ zs) where
  perm := by
    rw [List.append_assoc]
    exact h.perm.append_left moved
  sorted := by
    refine List.pairwise_append.2 ⟨hmoved, h.sorted, fun a ha z hz => ?_⟩
    rcases List.mem_append.1 (h.perm.mem_iff.1 hz) with hz | hz
    · exact hxs a ha z hz
    · exact hys a ha z hz

/-- Two runs may change places. -/
theorem IsMerge.comm (h : IsMerge R xs ys zs) : IsMerge R ys xs zs :=
  ⟨h.perm.trans List.perm_append_comm, h.sorted⟩

/-- Elements of the second run stand before the merge of what is left. -/
theorem IsMerge.second {moved : List α} (h : IsMerge R xs ys zs) (hmoved : moved.Pairwise R)
    (hxs : ∀ a ∈ moved, ∀ x ∈ xs, R a x) (hys : ∀ a ∈ moved, ∀ y ∈ ys, R a y) :
    IsMerge R xs (moved ++ ys) (moved ++ zs) :=
  (h.comm.first hmoved hys hxs).comm

/-! ## From the first comparison on -/

/-- If nothing is left to compare, the rest is in order. -/
theorem Mergeable.settled (h : Mergeable before forward R goes xs ys) (hlast : LastComes forward goes xs ys)
    (hsettled : isSettled forward xs ys = true) : IsMerge R xs ys (settled forward xs ys) := by
  cases forward with
  | true =>
    refine ⟨List.perm_append_comm, List.pairwise_append.2 ⟨h.second, h.first, fun y hy x hx => ?_⟩⟩
    -- the first run has no element but its last one
    have hlength : xs.length ≤ 1 := by
      simp only [isSettled, if_true, Bool.or_eq_true, decide_eq_true_eq, List.isEmpty_iff] at hsettled
      rcases hsettled with hlength | rfl
      · exact hlength
      · cases hy
    obtain rfl : xs = [x] := by
      obtain ⟨x', rfl⟩ := List.length_eq_one_iff.1 (Nat.le_antisymm hlength (List.length_pos_of_mem hx))
      rw [List.mem_singleton.1 hx]
    exact h.takes x hx y hy (hlast x rfl y hy)
  | false =>
    refine ⟨.refl _, List.pairwise_append.2 ⟨h.first, h.second, fun x hx y hy => ?_⟩⟩
    have hlength : ys.length ≤ 1 := by
      simp only [isSettled, Bool.false_eq_true, if_false, Bool.or_eq_true, decide_eq_true_eq,
        List.isEmpty_iff] at hsettled
      rcases hsettled with hlength | rfl
      · exact hlength
      · cases hx
    obtain rfl : ys = [y] := by
      obtain ⟨y', rfl⟩ := List.length_eq_one_iff.1 (Nat.le_antisymm hlength (List.length_pos_of_mem hy))
      rw [List.mem_singleton.1 hy]
    exact h.leaves x hx y hy (hlast y rfl x hx)

theorem Mergeable.parts_first (h : Mergeable before forward R goes xs ys) (hy : y ∈ ys) :
    ∃ n, Parts (fun x => !goes x y) xs n := by
  refine exists_parts (h.first.imp_of_mem fun {x x'} hx hx' hR hnot => ?_)
  cases hgoes : goes x y with
  | false => rfl
  | true =>
    simp only [h.rises x hx x' hx' y hy hR hgoes] at hnot
    cases hnot

theorem Mergeable.parts_second (h : Mergeable before forward R goes xs ys) (hx : x ∈ xs) :
    ∃ n, Parts (goes x) ys n := by
  refine exists_parts (h.second.imp_of_mem fun {y y'} hy hy' hR hgoes' => ?_)
  cases hgoes : goes x y with
  | true => rfl
  | false =>
    rw [h.falls x hx y hy y' hy' hR hgoes] at hgoes'
    cases hgoes'

/-- The stretch of the first run that goes before `y`. -/
theorem Mergeable.gallop_first (h : Mergeable before forward R goes xs ys) (hy : y ∈ ys) :
    ∃ n, gallop forward (fun x => (!·) <$> secondGoes before forward x y) xs = .ok n ∧
      (∀ x ∈ xs.take n, goes x y = false) ∧ ∀ x ∈ xs.drop n, goes x y = true := by
  have hanswers : Answers (fun x => (!·) <$> secondGoes before forward x y) (fun x => !goes x y) xs := by
    intro x hx
    simp only [h.answers x hx y hy]
    rfl
  obtain ⟨n, hn⟩ := h.parts_first hy
  exact ⟨n, gallop_eq_ok hanswers hn, fun x hx => by simpa using hn.of_mem_take hx,
    fun x hx => by simpa using hn.of_mem_drop hx⟩

/-- The stretch of the second run that goes before `x`. -/
theorem Mergeable.gallop_second (h : Mergeable before forward R goes xs ys) (hx : x ∈ xs) :
    ∃ n, gallop forward (fun y => secondGoes before forward x y) ys = .ok n ∧
      (∀ y ∈ ys.take n, goes x y = true) ∧ ∀ y ∈ ys.drop n, goes x y = false := by
  obtain ⟨n, hn⟩ := h.parts_second hx
  exact ⟨n, gallop_eq_ok (h.answers x hx) hn, fun y hy => hn.of_mem_take hy, fun y hy => hn.of_mem_drop hy⟩

/-- If an element is to go before the head of the other run, it goes before all of it. -/
theorem Mergeable.goes_first (h : Mergeable before forward R goes xs ys) (hx : xs.head? = some x) (hy : y ∈ ys)
    (hgoes : goes x y = true) : ∀ x' ∈ xs, R y x' := by
  obtain ⟨xs, rfl⟩ := List.head?_eq_some_iff.1 hx
  have hx : x ∈ x :: xs := List.mem_cons_self
  intro x' hx'
  refine h.takes x' hx' y hy ?_
  rcases List.mem_cons.1 hx' with rfl | hmem
  · exact hgoes
  · exact h.rises x hx x' hx' y hy (List.rel_of_pairwise_cons h.first hmem) hgoes

theorem Mergeable.stays_first (h : Mergeable before forward R goes xs ys) (hx : x ∈ xs) (hy : ys.head? = some y)
    (hgoes : goes x y = false) : ∀ y' ∈ ys, R x y' := by
  obtain ⟨ys, rfl⟩ := List.head?_eq_some_iff.1 hy
  have hy : y ∈ y :: ys := List.mem_cons_self
  intro y' hy'
  refine h.leaves x hx y' hy' ?_
  rcases List.mem_cons.1 hy' with rfl | hmem
  · exact hgoes
  · exact h.falls x hx y hy y' hy' (List.rel_of_pairwise_cons h.second hmem) hgoes

theorem IsMerge.cons_second (h : IsMerge R xs ys zs) (hxs : ∀ x ∈ xs, R y x) (hys : ∀ y' ∈ ys, R y y') :
    IsMerge R xs (y :: ys) (y :: zs) := by
  have hmerge := h.second (List.pairwise_singleton R y) (by simpa using hxs) (by simpa using hys)
  exact hmerge

theorem IsMerge.cons_first (h : IsMerge R xs ys zs) (hxs : ∀ x' ∈ xs, R x x') (hys : ∀ y ∈ ys, R x y) :
    IsMerge R (x :: xs) ys (x :: zs) := by
  have hmerge := h.first (List.pairwise_singleton R x) (by simpa using hxs) (by simpa using hys)
  exact hmerge

/-- A merge at some pace succeeds. -/
def Merges (before : α → α → Except ε Bool) (forward : Bool) (R : α → α → Prop) (pace : Pace) (patience : Nat)
    (xs ys : List α) : Prop :=
  ∃ zs rest, mergeFrom before forward pace patience xs ys = .ok (zs, rest) ∧ IsMerge R xs ys zs

/-- One element goes. -/
theorem Mergeable.stepping (h : Mergeable before forward R goes (x :: xs) (y :: ys))
    (hunsettled : ¬ isSettled forward (x :: xs) (y :: ys) = true)
    (hfirst : ∀ pace patience, Merges before forward R pace patience xs (y :: ys))
    (hsecond : ∀ pace patience, Merges before forward R pace patience (x :: xs) ys) (second : Bool)
    (turns patience : Nat) : Merges before forward R (.stepping second turns) patience (x :: xs) (y :: ys) := by
  have hx : x ∈ x :: xs := List.mem_cons_self
  have hy : y ∈ y :: ys := List.mem_cons_self
  rw [Merges, mergeFrom, if_neg hunsettled]
  simp only [h.answers x hx y hy, ok_bind]
  cases hgoes : goes x y with
  | true =>
    obtain ⟨zs, rest, hzs, hmerge⟩ := hsecond (Pace.step second turns true patience) patience
    simp only [if_true, hzs, ok_bind]
    exact ⟨y :: zs, rest, rfl, hmerge.cons_second (h.goes_first rfl hy hgoes) fun y' hy' =>
      List.rel_of_pairwise_cons h.second hy'⟩
  | false =>
    obtain ⟨zs, rest, hzs, hmerge⟩ := hfirst (Pace.step second turns false patience) patience
    simp only [Bool.false_eq_true, if_false, hzs, ok_bind]
    exact ⟨x :: zs, rest, rfl, hmerge.cons_first (fun x' hx' => List.rel_of_pairwise_cons h.first hx')
      (h.stays_first hx rfl hgoes)⟩

/-- A stretch of the first run goes, and then an element of the second one. -/
theorem Mergeable.stretch_first (h : Mergeable before forward R goes (x :: xs) (y :: ys))
    (hlast : LastComes forward goes (x :: xs) (y :: ys))
    (hunsettled : ¬ isSettled forward (x :: xs) (y :: ys) = true)
    (hrest : ∀ n pace patience, Merges before forward R pace patience ((x :: xs).drop n) ys) (patience : Nat) :
    Merges before forward R .first patience (x :: xs) (y :: ys) := by
  have hy : y ∈ y :: ys := List.mem_cons_self
  obtain ⟨n, hgallop, hmoved, hleft⟩ := h.gallop_first hy
  have hdrop : (x :: xs).drop n <:+ x :: xs := List.drop_suffix n _
  have hsplit := List.pairwise_append.1 ((List.take_append_drop n (x :: xs)).symm ▸ h.first)
  have hbefore : ∀ a ∈ (x :: xs).take n, ∀ y' ∈ y :: ys, R a y' := fun a ha =>
    h.stays_first (List.mem_of_mem_take ha) rfl (hmoved a ha)
  rw [Merges, mergeFrom, if_neg hunsettled]
  simp only [hgallop, ok_bind]
  have hwhole : ∀ zs, IsMerge R ((x :: xs).drop n) (y :: ys) zs →
      IsMerge R (x :: xs) (y :: ys) ((x :: xs).take n ++ zs) := fun zs hzs => by
    have hmerge := hzs.first hsplit.1 hsplit.2.2 hbefore
    rwa [List.take_append_drop] at hmerge
  split
  · rename_i hsettled
    refine ⟨_, patience, rfl, hwhole _ ?_⟩
    exact (h.sublist hdrop.sublist (.refl _)).settled (hlast.suffix hdrop (List.suffix_refl _)) hsettled
  · obtain ⟨zs, rest, hzs, hmerge⟩ := hrest n (.second n) patience
    simp only [hzs, ok_bind]
    refine ⟨_, rest, rfl, hwhole _ (hmerge.cons_second (fun x' hx' => ?_) fun y' hy' => ?_)⟩
    · exact h.takes x' (hdrop.subset hx') y hy (hleft x' hx')
    · exact List.rel_of_pairwise_cons h.second hy'

/-- A stretch of the second run goes, and then an element of the first one. -/
theorem Mergeable.stretch_second (h : Mergeable before forward R goes (x :: xs) (y :: ys))
    (hlast : LastComes forward goes (x :: xs) (y :: ys))
    (hunsettled : ¬ isSettled forward (x :: xs) (y :: ys) = true)
    (hrest : ∀ n pace patience, Merges before forward R pace patience xs ((y :: ys).drop n)) (passed patience : Nat) :
    Merges before forward R (.second passed) patience (x :: xs) (y :: ys) := by
  have hx : x ∈ x :: xs := List.mem_cons_self
  have hxs : xs <:+ x :: xs := List.suffix_cons x xs
  obtain ⟨n, hgallop, hmoved, hleft⟩ := h.gallop_second hx
  have hdrop : (y :: ys).drop n <:+ y :: ys := List.drop_suffix n _
  have hsplit := List.pairwise_append.1 ((List.take_append_drop n (y :: ys)).symm ▸ h.second)
  have hbefore : ∀ a ∈ (y :: ys).take n, ∀ x' ∈ x :: xs, R a x' := fun a ha =>
    h.goes_first rfl (List.mem_of_mem_take ha) (hmoved a ha)
  rw [Merges, mergeFrom, if_neg hunsettled]
  simp only [hgallop, ok_bind]
  have hwhole : ∀ zs, IsMerge R (x :: xs) ((y :: ys).drop n) zs →
      IsMerge R (x :: xs) (y :: ys) ((y :: ys).take n ++ zs) := fun zs hzs => by
    have hmerge := hzs.second hsplit.1 hbefore hsplit.2.2
    rwa [List.take_append_drop] at hmerge
  have hcons : ∀ zs, IsMerge R xs ((y :: ys).drop n) zs → IsMerge R (x :: xs) ((y :: ys).drop n) (x :: zs) :=
    fun zs hzs => hzs.cons_first (fun x' hx' => List.rel_of_pairwise_cons h.first hx') fun y' hy' =>
      h.leaves x hx y' (hdrop.subset hy') (hleft y' hy')
  split
  · rename_i hsettled
    refine ⟨_, patience, rfl, hwhole _ ?_⟩
    exact (h.sublist (.refl _) hdrop.sublist).settled (hlast.suffix (List.suffix_refl _) hdrop) hsettled
  · split
    · rename_i hsettled
      refine ⟨_, patience, rfl, hwhole _ (hcons _ ?_)⟩
      exact (h.sublist hxs.sublist hdrop.sublist).settled (hlast.suffix hxs hdrop) hsettled
    · split
      · obtain ⟨zs, rest, hzs, hmerge⟩ := hrest n .first (max 1 (patience - 1))
        simp only [hzs, ok_bind]
        exact ⟨_, rest, rfl, hwhole _ (hcons _ hmerge)⟩
      · obtain ⟨zs, rest, hzs, hmerge⟩ := hrest n (.stepping true 0) (patience + 1)
        simp only [hzs, ok_bind]
        exact ⟨_, rest, rfl, hwhole _ (hcons _ hmerge)⟩

/-- What is left of two runs becomes one, at any pace. -/
theorem Mergeable.merges (h : Mergeable before forward R goes xs ys) (hlast : LastComes forward goes xs ys)
    (pace : Pace) (patience : Nat) : Merges before forward R pace patience xs ys := by
  induction hsize : xs.length + ys.length using Nat.strongRecOn generalizing xs ys pace patience with
  | ind size ih =>
    by_cases hsettled : isSettled forward xs ys = true
    · rw [Merges, mergeFrom.eq_def, if_pos hsettled]
      exact ⟨_, patience, rfl, h.settled hlast hsettled⟩
    · have hbelow : ∀ xs' ys' : List α, xs' <:+ xs → ys' <:+ ys → xs'.length + ys'.length < size →
          ∀ pace patience, Merges before forward R pace patience xs' ys' := fun xs' ys' hxs hys hlt pace patience =>
        ih _ hlt (h.sublist hxs.sublist hys.sublist) (hlast.suffix hxs hys) pace patience rfl
      match xs, ys with
      | [], ys => cases forward <;> simp [isSettled] at hsettled
      | x :: xs, [] => cases forward <;> simp [isSettled] at hsettled
      | x :: xs, y :: ys =>
        subst hsize
        have hxs : xs <:+ x :: xs := List.suffix_cons x xs
        have hys : ys <:+ y :: ys := List.suffix_cons y ys
        cases pace with
        | stepping second turns =>
          exact h.stepping hsettled (hbelow xs (y :: ys) hxs (List.suffix_refl _) (by simp))
            (hbelow (x :: xs) ys (List.suffix_refl _) hys (by simp)) second turns patience
        | first =>
          refine h.stretch_first hlast hsettled (fun n => hbelow _ ys (List.drop_suffix n _) hys ?_) patience
          simp only [List.length_drop, List.length_cons]
          omega
        | second passed =>
          refine h.stretch_second hlast hsettled (fun n => hbelow xs _ hxs (List.drop_suffix n _) ?_) passed patience
          simp only [List.length_drop, List.length_cons]
          omega

/-! ## Where the runs overlap -/

/-- A merge in which it is known which element goes first, and which one last. -/
theorem Mergeable.overlap (h : Mergeable before forward R goes xs ys) (hlast : LastComes forward goes xs ys)
    (hhead : if forward then ∀ y ∈ ys.head?, ∀ x ∈ xs, goes x y = true else ∀ x ∈ xs.head?, ∀ y ∈ ys, goes x y = false)
    (patience : Nat) :
    ∃ zs rest, mergeOverlap before forward patience xs ys = .ok (zs, rest) ∧ IsMerge R xs ys zs := by
  cases forward with
  | true =>
    cases ys with
    | nil => exact ⟨xs ++ [], patience, rfl, .refl _, by rw [List.append_nil]; exact h.first⟩
    | cons y ys =>
      have hys : ys <:+ y :: ys := List.suffix_cons y ys
      obtain ⟨zs, rest, hzs, hmerge⟩ := (h.sublist (.refl _) hys.sublist).merges (hlast.suffix (List.suffix_refl _) hys)
        (.stepping true 0) patience
      rw [mergeOverlap, hzs, ok_bind]
      exact ⟨y :: zs, rest, rfl, hmerge.cons_second
        (fun x hx => h.takes x hx y List.mem_cons_self (hhead y rfl x hx))
        fun y' hy' => List.rel_of_pairwise_cons h.second hy'⟩
  | false =>
    cases xs with
    | nil => exact ⟨[] ++ ys, patience, rfl, .refl _, h.second⟩
    | cons x xs =>
      have hxs : xs <:+ x :: xs := List.suffix_cons x xs
      obtain ⟨zs, rest, hzs, hmerge⟩ := (h.sublist hxs.sublist (.refl _)).merges (hlast.suffix hxs (List.suffix_refl _))
        (.stepping true 0) patience
      rw [mergeOverlap, hzs, ok_bind]
      exact ⟨x :: zs, rest, rfl, hmerge.cons_first (fun x' hx' => List.rel_of_pairwise_cons h.first hx')
        fun y hy => h.leaves x List.mem_cons_self y hy (hhead x rfl y hy)⟩

variable {lt : α → α → Bool} {P : α → Prop} {T : α → α → Prop}

/-- Two runs in order, of which the first stood before the second. -/
structure Neighbours (lt : α → α → Bool) (P : α → Prop) (T : α → α → Prop) (xs ys : List α) : Prop where
  first : xs.Pairwise (Follows lt T)
  second : ys.Pairwise (Follows lt T)
  apart : ∀ x ∈ xs, ∀ y ∈ ys, T x y
  firstIn : ∀ x ∈ xs, P x
  secondIn : ∀ y ∈ ys, P y

theorem Neighbours.sublist {xs' ys' : List α} (h : Neighbours lt P T xs ys) (hxs : xs'.Sublist xs)
    (hys : ys'.Sublist ys) : Neighbours lt P T xs' ys' where
  first := h.first.sublist hxs
  second := h.second.sublist hys
  apart x hx y hy := h.apart x (hxs.subset hx) y (hys.subset hy)
  firstIn x hx := h.firstIn x (hxs.subset hx)
  secondIn y hy := h.secondIn y (hys.subset hy)

/-- They are merged from the start, -/
theorem Neighbours.mergeable (h : Neighbours lt P T xs ys) (hc : Compares before lt P) :
    Mergeable before true (Follows lt T) (fun x y => lt y x) xs ys where
  first := h.first
  second := h.second
  answers x hx y hy := by
    rw [secondGoes, hc.answers y x (h.secondIn y hy) (h.firstIn x hx)]
    simp [Functor.map, Except.map]
  takes _ _ _ _ hlt := .inl hlt
  leaves x hx y hy hlt := .inr ⟨hlt, h.apart x hx y hy⟩
  rises x hx x' hx' y hy hfollows hlt := hc.before_of_not (h.secondIn y hy) (h.firstIn x hx) (h.firstIn x' hx') hlt
    (hc.not_before (h.firstIn x hx) (h.firstIn x' hx') hfollows)
  falls x hx y hy y' hy' hfollows hlt := hc.trans (h.firstIn x hx) (h.secondIn y hy) (h.secondIn y' hy') hlt
    (hc.not_before (h.secondIn y hy) (h.secondIn y' hy') hfollows)

/-- or from the end. -/
theorem Neighbours.mergeable_reverse (h : Neighbours lt P T xs ys) (hc : Compares before lt P) :
    Mergeable before false (fun a b => Follows lt T b a) (fun x y => !lt y x) xs.reverse ys.reverse where
  first := List.pairwise_reverse.2 h.first
  second := List.pairwise_reverse.2 h.second
  answers x hx y hy := by
    rw [List.mem_reverse] at hx hy
    rw [secondGoes, hc.answers y x (h.secondIn y hy) (h.firstIn x hx)]
    simp [Functor.map, Except.map]
  takes x hx y hy hlt := by
    rw [List.mem_reverse] at hx hy
    exact .inr ⟨by simpa using hlt, h.apart x hx y hy⟩
  leaves _ _ _ _ hlt := .inl (by simpa using hlt)
  rises x hx x' hx' y hy hfollows hlt := by
    rw [List.mem_reverse] at hx hx' hy
    simp only [Bool.not_eq_true'] at hlt ⊢
    exact hc.trans (h.firstIn x' hx') (h.firstIn x hx) (h.secondIn y hy)
      (hc.not_before (h.firstIn x' hx') (h.firstIn x hx) hfollows) hlt
  falls x hx y hy y' hy' hfollows hlt := by
    rw [List.mem_reverse] at hx hy hy'
    simp only [Bool.not_eq_false'] at hlt ⊢
    exact hc.after_of_not (h.secondIn y hy) (h.secondIn y' hy') (h.firstIn x hx) hlt
      (hc.not_before (h.secondIn y' hy') (h.secondIn y hy) hfollows)

theorem IsMerge.reverse {S : α → α → Prop} (h : IsMerge (fun a b => S b a) xs.reverse ys.reverse zs) :
    IsMerge S xs ys zs.reverse := by
  refine ⟨(List.reverse_perm zs).trans (h.perm.trans ?_), List.pairwise_reverse.2 h.sorted⟩
  exact (List.reverse_perm xs).append (List.reverse_perm ys)

/-- Two runs that overlap throughout are merged, whichever of them is held aside. -/
theorem Neighbours.overlap (h : Neighbours lt P T xs ys) (hc : Compares before lt P)
    (hhead : ∀ y ∈ ys.head?, ∀ x ∈ xs, lt y x = true) (hlast : ∀ x ∈ xs.getLast?, ∀ y ∈ ys, lt y x = true)
    (patience : Nat) :
    (∃ zs rest, mergeOverlap before true patience xs ys = .ok (zs, rest) ∧ IsMerge (Follows lt T) xs ys zs) ∧
      ∃ zs rest, mergeOverlap before false patience xs.reverse ys.reverse = .ok (zs, rest) ∧
        IsMerge (Follows lt T) xs ys zs.reverse := by
  refine ⟨(h.mergeable hc).overlap hlast hhead patience, ?_⟩
  have hlast' : LastComes false (fun x y => !lt y x) xs.reverse ys.reverse := by
    intro y hy x hx
    rw [List.getLast?_reverse] at hy
    simpa using hhead y hy x (List.mem_reverse.1 hx)
  have hhead' : ∀ x ∈ xs.reverse.head?, ∀ y ∈ ys.reverse, (!lt y x) = false := by
    intro x hx y hy
    rw [List.head?_reverse] at hx
    simpa using hlast x hx y (List.mem_reverse.1 hy)
  obtain ⟨zs, rest, hzs, hmerge⟩ := (h.mergeable_reverse hc).overlap hlast' hhead' patience
  exact ⟨zs, rest, hzs, hmerge.reverse⟩

/-! ## Whole runs -/

/-- The elements of the first run up to a place, and those of the second run from a place on, may stay there. -/
theorem Neighbours.around (h : Neighbours lt P T xs ys) {n m : Nat}
    (hahead : ∀ a ∈ xs.take n, ∀ y ∈ ys, Follows lt T a y) (hbehind : ∀ b ∈ ys.drop m, ∀ x ∈ xs, Follows lt T x b)
    (hmerge : IsMerge (Follows lt T) (xs.drop n) (ys.take m) zs) :
    IsMerge (Follows lt T) xs ys (xs.take n ++ zs ++ ys.drop m) := by
  have hfirst := List.pairwise_append.1 ((List.take_append_drop n xs).symm ▸ h.first)
  have hsecond := List.pairwise_append.1 ((List.take_append_drop m ys).symm ▸ h.second)
  have hall := hmerge.first hfirst.1 hfirst.2.2 fun a ha y hy => hahead a ha y (List.mem_of_mem_take hy)
  rw [List.take_append_drop] at hall
  constructor
  · have hperm := hall.perm.append_right (ys.drop m)
    rwa [List.append_assoc xs, List.take_append_drop] at hperm
  · refine List.pairwise_append.2 ⟨hall.sorted, hsecond.2.1, fun a ha b hb => ?_⟩
    rcases List.mem_append.1 (hall.perm.mem_iff.1 ha) with hx | hy
    · exact hbehind b hb a hx
    · exact hsecond.2.2 a hy b hb

/-- The elements at the start of the first run that do not come after the head of the second one stay. -/
theorem Neighbours.ahead (h : Neighbours lt P T xs ys) (hc : Compares before lt P) (hy : ys.head? = some y) :
    ∃ n, gallop true (fun x => (!·) <$> before y x) xs = .ok n ∧
      (∀ a ∈ xs.take n, ∀ y' ∈ ys, Follows lt T a y') ∧ ∀ x ∈ xs.drop n, lt y x = true := by
  have hmem : y ∈ ys := List.mem_of_head? hy
  have hanswers : Answers (fun x => (!·) <$> before y x) (fun x => !lt y x) xs := by
    intro x hx
    simp only [hc.answers y x (h.secondIn y hmem) (h.firstIn x hx)]
    rfl
  obtain ⟨n, hn⟩ := (h.mergeable hc).parts_first hmem
  refine ⟨n, gallop_eq_ok hanswers hn, fun a ha => ?_, fun x hx => by simpa using hn.of_mem_drop hx⟩
  exact (h.mergeable hc).stays_first (List.mem_of_mem_take ha) hy (by simpa using hn.of_mem_take ha)

/-- The elements at the end of the second run that do not come before the last of the first one stay. -/
theorem Neighbours.behind (h : Neighbours lt P T xs ys) (hc : Compares before lt P) (hx : xs.getLast? = some x) :
    ∃ m, gallop false (fun y => (!·) <$> before y x) ys.reverse = .ok m ∧
      (∀ b ∈ ys.drop (ys.length - m), ∀ x' ∈ xs, Follows lt T x' b) ∧
        ∀ y ∈ ys.take (ys.length - m), lt y x = true := by
  have hmem : x ∈ xs := List.mem_of_getLast? hx
  have hanswers : Answers (fun y => (!·) <$> before y x) (fun y => !lt y x) ys.reverse := by
    intro y hy
    simp only [hc.answers y x (h.secondIn y (List.mem_reverse.1 hy)) (h.firstIn x hmem)]
    rfl
  obtain ⟨m, hm⟩ := (h.mergeable_reverse hc).parts_second (List.mem_reverse.2 hmem)
  refine ⟨m, gallop_eq_ok hanswers hm, fun b hb x' hx' => ?_, fun y hy => ?_⟩
  · rw [← List.mem_reverse, ← List.take_reverse] at hb
    exact (h.mergeable_reverse hc).goes_first (List.head?_reverse.trans hx) (List.mem_of_mem_take hb)
      (hm.of_mem_take hb) x' (List.mem_reverse.2 hx')
  · rw [← List.mem_reverse, ← List.drop_reverse] at hy
    simpa using hm.of_mem_drop hy

/-- Two neighbouring runs become one. -/
theorem merge_eq_ok (hc : Compares before lt P) (h : Neighbours lt P T xs ys) (patience : Nat) :
    ∃ zs rest, merge before patience xs ys = .ok (zs, rest) ∧ IsMerge (Follows lt T) xs ys zs := by
  cases ys with
  | nil => exact ⟨xs, patience, rfl, by rw [List.append_nil], h.first⟩
  | cons y ys =>
    obtain ⟨n, hn, hahead, hafter⟩ := h.ahead hc (y := y) rfl
    rw [merge]
    simp only [hn, ok_bind]
    cases hlast : (xs.drop n).getLast? with
    | none =>
      have hnone : xs.take n = xs := by
        have hsplit := List.take_append_drop n xs
        rwa [List.getLast?_eq_none_iff.1 hlast, List.append_nil] at hsplit
      rw [hnone] at hahead
      exact ⟨_, patience, rfl, .refl _, List.pairwise_append.2 ⟨h.first, h.second, hahead⟩⟩
    | some last =>
      obtain ⟨m, hm, hbehind, hbefore⟩ := h.behind hc (mem_getLast?_of_suffix (List.drop_suffix n xs) hlast)
      simp only [hm, ok_bind]
      generalize (y :: ys).length - m = k at hbehind hbefore ⊢
      have hinner := h.sublist (List.drop_sublist n xs) (List.take_sublist k (y :: ys))
      split
      · rename_i hempty
        rw [List.isEmpty_iff] at hempty
        have hnone : IsMerge (Follows lt T) (xs.drop n) ((y :: ys).take k) (xs.drop n) :=
          ⟨by rw [hempty, List.append_nil], hinner.first⟩
        have hwhole := h.around hahead hbehind hnone
        have hdrop : (y :: ys).drop k = y :: ys := by
          have hsplit := List.take_append_drop k (y :: ys)
          rwa [hempty, List.nil_append] at hsplit
        rw [List.take_append_drop, hdrop] at hwhole
        exact ⟨_, patience, rfl, hwhole⟩
      · have hhead : ∀ y' ∈ ((y :: ys).take k).head?, ∀ x ∈ xs.drop n, lt y' x = true := by
          intro y' hy' x hx
          cases k with
          | zero => cases hy'
          | succ k =>
            obtain rfl : y = y' := Option.some.inj hy'
            exact hafter x hx
        have hlast' : ∀ x ∈ (xs.drop n).getLast?, ∀ y' ∈ (y :: ys).take k, lt y' x = true := by
          intro x hx y' hy'
          obtain rfl : last = x := Option.some.inj (hlast.symm.trans hx)
          exact hbefore y' hy'
        obtain ⟨⟨zs, rest, hzs, hmerge⟩, zs', rest', hzs', hmerge'⟩ := hinner.overlap hc hhead hlast' patience
        split
        · simp only [hzs, ok_bind]
          exact ⟨_, rest, rfl, h.around hahead hbehind hmerge⟩
        · simp only [hzs', ok_bind]
          exact ⟨_, rest', rfl, h.around hahead hbehind hmerge'⟩

end Relational.Sorting
