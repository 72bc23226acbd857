import Mathlib.Data.List.Forall2
import Relational.Failure

/-!
# Results of steps that can fail

A chain of steps succeeds exactly if every step does. These lemmas take a success apart into the successes of its
steps.
-/

namespace Relational

variable {ε α β : Type}

/-! ## One step after another -/

theorem bind_eq_ok {x : Except ε α} {f : α → Except ε β} {b : β} :
    (x >>= f) = .ok b ↔ ∃ a, x = .ok a ∧ f a = .ok b := by
  cases x with
  | error e => simp [Bind.bind, Except.bind]
  | ok a => simp [Bind.bind, Except.bind]

/-- A step that gives nothing but its success. -/
theorem check_bind_eq_ok {x : Except ε Unit} {f : Unit → Except ε β} {b : β} :
    (x >>= f) = .ok b ↔ x = .ok () ∧ f () = .ok b := by
  rw [bind_eq_ok]
  exact ⟨fun ⟨(), hx, hf⟩ => ⟨hx, hf⟩, fun ⟨hx, hf⟩ => ⟨(), hx, hf⟩⟩

@[simp] theorem ok_bind (a : α) (f : α → Except ε β) : ((.ok a : Except ε α) >>= f) = f a := rfl

@[simp] theorem pure_eq_ok (a : α) : (pure a : Except ε α) = .ok a := rfl

/-- Two steps give the same in two readings. -/
theorem map_eq_map_iff {γ δ : Type} {x : Except ε α} {y : Except ε γ} {f : α → δ} {g : γ → δ} :
    x.map f = y.map g ↔ (∃ e, x = .error e ∧ y = .error e) ∨ ∃ a b, x = .ok a ∧ y = .ok b ∧ f a = g b := by
  cases x <;> cases y <;> simp [Except.map, eq_comm]

/-! ## Refusals, rejections and faults -/

@[simp] theorem refuse_bind (cause : Refusal) (f : α → Except Failure β) :
    (refuse cause >>= f) = refuse cause := rfl

@[simp] theorem reject_bind (cause : Rejection) (f : α → Except Failure β) :
    (reject cause >>= f) = reject cause := rfl

@[simp] theorem fail_bind (cause : Fault) (f : α → Except Failure β) : (fail cause >>= f) = fail cause := rfl

@[simp] theorem refuse_ne_ok (cause : Refusal) (a : α) : (refuse cause = .ok a) = False := by
  simp [refuse]

@[simp] theorem reject_ne_ok (cause : Rejection) (a : α) : (reject cause = .ok a) = False := by
  simp [reject]

@[simp] theorem fail_ne_ok (cause : Fault) (a : α) : (fail cause = .ok a) = False := by
  simp [fail]

/-! ## Kinds of failures -/

/-- A step fails, if it does, in a certain way. -/
def FailsOnly (P : ε → Prop) (x : Except ε α) : Prop :=
  ∀ e, x = .error e → P e

section FailsOnly

variable {P : ε → Prop}

theorem FailsOnly.ok (a : α) : FailsOnly P (.ok a) :=
  fun _ h => by cases h

theorem FailsOnly.error {e : ε} (h : P e) : FailsOnly P (.error e : Except ε α) := by
  rintro _ ⟨⟩
  exact h

theorem FailsOnly.bind {x : Except ε α} {f : α → Except ε β} (hx : FailsOnly P x)
    (hf : ∀ a, x = .ok a → FailsOnly P (f a)) : FailsOnly P (x >>= f) := by
  cases x with
  | error e => exact .error (hx e rfl)
  | ok a => exact hf a rfl

theorem FailsOnly.map {x : Except ε α} (hx : FailsOnly P x) (f : α → β) : FailsOnly P (x.map f) := by
  cases x with
  | error e => exact .error (hx e rfl)
  | ok a => exact .ok (f a)

theorem FailsOnly.mapM {f : α → Except ε β} {as : List α} (h : ∀ a ∈ as, FailsOnly P (f a)) :
    FailsOnly P (as.mapM f) := by
  induction as with
  | nil => exact .ok []
  | cons a as ih =>
    rw [List.forall_mem_cons] at h
    rw [List.mapM_cons]
    exact h.1.bind fun b _ => (ih h.2).bind fun bs _ => .ok (b :: bs)

theorem FailsOnly.forM {f : α → Except ε Unit} {as : List α} (h : ∀ a ∈ as, FailsOnly P (f a)) :
    FailsOnly P (as.forM f) := by
  induction as with
  | nil => exact .ok ()
  | cons a as ih =>
    rw [List.forall_mem_cons] at h
    exact h.1.bind fun _ _ => ih h.2

end FailsOnly

/-! ## Steps for all items of a list -/

theorem mapM_eq_ok {f : α → Except ε β} {as : List α} {bs : List β} :
    as.mapM f = .ok bs ↔ List.Forall₂ (fun a b => f a = .ok b) as bs := by
  induction as generalizing bs with
  | nil => cases bs <;> simp
  | cons a as ih =>
    rw [List.mapM_cons, bind_eq_ok]
    constructor
    · rintro ⟨b, hb, h⟩
      obtain ⟨bs', hbs, h⟩ := bind_eq_ok.1 h
      cases h
      exact .cons hb (ih.1 hbs)
    · rintro (_ | ⟨hb, hbs⟩)
      exact ⟨_, hb, by simp [ih.2 hbs]⟩

theorem exists_mem_of_forall₂ {R : α → β → Prop} {as : List α} {bs : List β} (h : List.Forall₂ R as bs) {a : α}
    (ha : a ∈ as) : ∃ b ∈ bs, R a b := by
  induction h with
  | nil => cases ha
  | @cons _ b _ bs hb _ ih =>
    rcases List.mem_cons.1 ha with rfl | ha
    · exact ⟨b, List.mem_cons_self, hb⟩
    · obtain ⟨c, hc, hac⟩ := ih ha
      exact ⟨c, List.mem_cons_of_mem b hc, hac⟩

theorem exists_getElem?_of_forall₂ {R : α → β → Prop} {as : List α} {bs : List β} (h : List.Forall₂ R as bs) {i : Nat}
    {a : α} (ha : as[i]? = some a) : ∃ b, bs[i]? = some b ∧ R a b := by
  induction h generalizing i with
  | nil => simp at ha
  | cons hb _ ih =>
    cases i with
    | zero =>
      cases ha
      exact ⟨_, rfl, hb⟩
    | succ i => exact ih ha

/-- Every item has its result among the results. -/
theorem exists_mem_of_mapM {f : α → Except ε β} {as : List α} {bs : List β} (h : as.mapM f = .ok bs) {a : α}
    (ha : a ∈ as) : ∃ b ∈ bs, f a = .ok b :=
  exists_mem_of_forall₂ (mapM_eq_ok.1 h) ha

/-- Steps of which none fails give the list of their results. -/
theorem mapM_eq_ok_map {f : α → Except ε β} {g : α → β} {as : List α} (h : ∀ a ∈ as, f a = .ok (g a)) :
    as.mapM f = .ok (as.map g) := by
  rw [mapM_eq_ok, List.forall₂_map_right_iff, List.forall₂_same]
  exact h

theorem forM_eq_ok {f : α → Except ε Unit} {as : List α} : as.forM f = .ok () ↔ ∀ a ∈ as, f a = .ok () := by
  induction as with
  | nil => exact iff_of_true rfl (by simp)
  | cons a as ih =>
    rw [List.forall_mem_cons, ← ih]
    exact check_bind_eq_ok

theorem foldlM_cons_eq_ok {f : β → α → Except ε β} {a : α} {as : List α} {b c : β} :
    (a :: as).foldlM f b = .ok c ↔ ∃ d, f b a = .ok d ∧ as.foldlM f d = .ok c := by
  rw [List.foldlM_cons, bind_eq_ok]

/-- What every step keeps, a chain of steps keeps. -/
theorem foldlM_preserves {P : β → Prop} {f : β → α → Except ε β} (hf : ∀ b a c, P b → f b a = .ok c → P c)
    {as : List α} {b c : β} (hb : P b) (h : as.foldlM f b = .ok c) : P c := by
  induction as generalizing b with
  | nil =>
    cases h
    exact hb
  | cons a as ih =>
    obtain ⟨d, hd, h⟩ := foldlM_cons_eq_ok.1 h
    exact ih (hf b a d hb hd) h

/-- Items that are added one after another are all there in the end. -/
theorem foldlM_build {σ : Type} {f : σ → β → Except ε σ} {g : α → β} (P : List α → σ) {items : List α}
    (h : ∀ before a after, items = before ++ a :: after → f (P before) (g a) = .ok (P (before ++ [a]))) :
    (items.map g).foldlM f (P []) = .ok (P items) := by
  suffices hall : ∀ before after, items = before ++ after → (after.map g).foldlM f (P before) = .ok (P items) from
    hall [] items rfl
  intro before after
  induction after generalizing before with
  | nil =>
    rintro rfl
    rw [List.append_nil]
    rfl
  | cons a after ih =>
    intro hitems
    rw [List.map_cons, List.foldlM_cons, h before a after hitems, ok_bind]
    exact ih (before ++ [a]) (by rw [hitems, List.append_assoc]; rfl)

end Relational
