import Relational.Proofs.Failure
import Relational.Sorting.Search

/-!
# What searching a list finds

If the elements that satisfy a test all stand at the start of a list, both searches find where they end: halving,
because the end stays between its bounds, and striding, because it stops between a position before the end and one that
is not.
-/

namespace Relational.Sorting

variable {α ε : Type} {forward : Bool} {holds : α → Except ε Bool} {test : α → Bool} {xs : List α} {n : Nat}

/-- The elements that satisfy a test are the first `n`. -/
structure Parts (test : α → Bool) (xs : List α) (n : Nat) : Prop where
  bound : n ≤ xs.length
  iff : ∀ i x, xs[i]? = some x → (test x = true ↔ i < n)

/-- A test never fails on the elements of a list. -/
def Answers (holds : α → Except ε Bool) (test : α → Bool) (xs : List α) : Prop :=
  ∀ x ∈ xs, holds x = .ok (test x)

/-- If no element that satisfies the test comes after one that does not, those that do are the first ones. -/
theorem exists_parts (h : xs.Pairwise fun x x' => test x' = true → test x = true) : ∃ n, Parts test xs n := by
  induction xs with
  | nil => exact ⟨0, Nat.le_refl 0, fun i x hx => by simp at hx⟩
  | cons x xs ih =>
    obtain ⟨hx, hxs⟩ := List.pairwise_cons.1 h
    obtain ⟨n, hn, hiff⟩ := ih hxs
    cases htest : test x with
    | true =>
      refine ⟨n + 1, Nat.succ_le_succ hn, fun i y hy => ?_⟩
      cases i with
      | zero =>
        obtain rfl : x = y := Option.some.inj hy
        simp [htest]
      | succ i => rw [hiff i y hy, Nat.succ_lt_succ_iff]
    | false =>
      refine ⟨0, Nat.zero_le _, fun i y hy => ?_⟩
      simp only [Nat.not_lt_zero, iff_false]
      intro hy'
      cases i with
      | zero =>
        obtain rfl : x = y := Option.some.inj hy
        rw [htest] at hy'
        cases hy'
      | succ i =>
        have htrue := hx y (List.mem_of_getElem? hy) hy'
        rw [htest] at htrue
        cases htrue

theorem Parts.le_of_not {i : Nat} {x : α} (h : Parts test xs n) (hx : xs[i]? = some x) (htest : test x = false) :
    n ≤ i := by
  refine Nat.not_lt.1 fun hi => ?_
  rw [(h.iff i x hx).2 hi] at htest
  cases htest

theorem Parts.of_mem_take (h : Parts test xs n) {x : α} (hx : x ∈ xs.take n) : test x = true := by
  obtain ⟨i, hi⟩ := List.mem_iff_getElem?.1 hx
  rw [List.getElem?_take] at hi
  split at hi
  · rename_i hlt
    exact (h.iff i x hi).2 hlt
  · cases hi

theorem Parts.of_mem_drop (h : Parts test xs n) {x : α} (hx : x ∈ xs.drop n) : test x = false := by
  obtain ⟨i, hi⟩ := List.mem_iff_getElem?.1 hx
  rw [List.getElem?_drop] at hi
  rw [Bool.eq_false_iff, ne_eq, h.iff _ x hi]
  omega

/-! ## Halving -/

/-- Between bounds, the end of the elements that satisfy the test is found by halving. -/
theorem halve_eq_ok (hanswers : Answers holds test xs) (h : Parts test xs n) {low high : Nat} (hlow : low ≤ n)
    (hhigh : n ≤ high) (hbound : high ≤ xs.length) : halve forward holds xs low high = .ok n := by
  induction hsize : high - low using Nat.strongRecOn generalizing low high with
  | ind size ih =>
    rw [halve]
    split
    · rename_i hlt
      have hmiddle := low_le_middle forward low high
      have hmiddle' := middle_lt_high forward hlt
      have hx := List.getElem?_eq_getElem (Nat.lt_of_lt_of_le hmiddle' hbound)
      simp only [hx]
      rw [hanswers _ (List.getElem_mem _), ok_bind]
      cases htest : test xs[middle forward low high] with
      | true => exact ih _ (by omega) ((h.iff _ _ hx).1 htest) hhigh hbound rfl
      | false => exact ih _ (by omega) hlow (h.le_of_not hx htest) (by omega) rfl
    · rw [Except.ok.injEq]
      omega

/-! ## Striding -/

/-- Steps that double end at a position before the end of the elements that satisfy the test, and at one that is not. -/
theorem stride_eq_ok (hanswers : Answers holds test xs) (h : Parts test xs n) {last next : Nat} (hlast : last < n)
    (hnext : last < next) : ∃ last' next', stride holds xs last next = .ok (last', next') ∧ last' < n ∧ n ≤ next' ∧
      next' ≤ xs.length := by
  induction hsize : xs.length - next using Nat.strongRecOn generalizing last next with
  | ind size ih =>
    rw [stride]
    split
    · exact ⟨last, xs.length, rfl, hlast, h.bound, Nat.le_refl _⟩
    · rename_i x hx
      have hlt : next < xs.length := (List.getElem?_eq_some_iff.1 hx).1
      rw [hanswers x (List.mem_of_getElem? hx), ok_bind]
      cases htest : test x with
      | true => exact ih _ (by omega) ((h.iff next x hx).1 htest) (by omega) rfl
      | false => exact ⟨last, next, rfl, hlast, h.le_of_not hx htest, Nat.le_of_lt hlt⟩

/-- The number of elements that satisfy the test. -/
theorem gallop_eq_ok (hanswers : Answers holds test xs) (h : Parts test xs n) :
    gallop forward holds xs = .ok n := by
  cases xs with
  | nil =>
    have hn : n = 0 := Nat.le_zero.1 h.bound
    rw [hn]
    rfl
  | cons x xs =>
    rw [gallop, hanswers x List.mem_cons_self, ok_bind]
    cases htest : test x with
    | true =>
      obtain ⟨last, next, hstride, hlast, hnext, hbound⟩ :=
        stride_eq_ok hanswers h ((h.iff 0 x rfl).1 htest) Nat.zero_lt_one
      rw [if_pos rfl, hstride, ok_bind]
      exact halve_eq_ok hanswers h hlast hnext hbound
    | false =>
      have hn : n = 0 := Nat.le_zero.1 (h.le_of_not rfl htest)
      rw [hn]
      rfl

end Relational.Sorting
