import Relational.Proofs.Failure

/-!
# Computations that agree

Two computations agree if both fail, with failures that are related, or both succeed, with results that are related.
Agreement goes through a chain of steps.
-/

namespace Relational

variable {ε α β γ δ : Type} {E : ε → ε → Prop} {R : α → β → Prop} {S : γ → δ → Prop}

/-- Both computations fail with failures in `E`, or both succeed with results in `R`. -/
inductive ResultsAgree (E : ε → ε → Prop) (R : α → β → Prop) : Except ε α → Except ε β → Prop where
  | failed {e e' : ε} (h : E e e') : ResultsAgree E R (.error e) (.error e')
  | done {a : α} {b : β} (h : R a b) : ResultsAgree E R (.ok a) (.ok b)

namespace ResultsAgree

theorem bind {x : Except ε α} {y : Except ε β} {f : α → Except ε γ} {g : β → Except ε δ} (h : ResultsAgree E R x y)
    (hstep : ∀ a b, R a b → ResultsAgree E S (f a) (g b)) : ResultsAgree E S (x >>= f) (y >>= g) := by
  cases h with
  | failed hfailed => exact .failed hfailed
  | done hdone => exact hstep _ _ hdone

theorem map {x : Except ε α} {y : Except ε β} {f : α → γ} {g : β → δ} (h : ResultsAgree E R x y)
    (hmap : ∀ a b, R a b → S (f a) (g b)) : ResultsAgree E S (x.map f) (y.map g) := by
  cases h with
  | failed hfailed => exact .failed hfailed
  | done hdone => exact .done (hmap _ _ hdone)

theorem mono {R' : α → β → Prop} {x : Except ε α} {y : Except ε β} (h : ResultsAgree E R x y)
    (hmono : ∀ a b, R a b → R' a b) : ResultsAgree E R' x y := by
  cases h with
  | failed hfailed => exact .failed hfailed
  | done hdone => exact .done (hmono _ _ hdone)

/-- The results that are related are those of the computations. -/
theorem with_eq {x : Except ε α} {y : Except ε β} (h : ResultsAgree E R x y) :
    ResultsAgree E (fun a b => x = .ok a ∧ y = .ok b ∧ R a b) x y := by
  cases h with
  | failed hfailed => exact .failed hfailed
  | done hdone => exact .done ⟨rfl, rfl, hdone⟩

/-- A computation agrees with itself. -/
theorem refl {R : α → α → Prop} (hE : ∀ e, E e e) (hR : ∀ a, R a a) (x : Except ε α) : ResultsAgree E R x x := by
  cases x with
  | error e => exact .failed (hE e)
  | ok a => exact .done (hR a)

theorem of_eq (hE : ∀ e, E e e) {x y : Except ε α} (h : x = y) : ResultsAgree E (· = ·) x y :=
  h ▸ refl hE (fun _ => rfl) x

theorem mapM {f : α → Except ε γ} {g : β → Except ε δ} {as : List α} {bs : List β}
    (h : List.Forall₂ (fun a b => ResultsAgree E S (f a) (g b)) as bs) :
    ResultsAgree E (List.Forall₂ S) (as.mapM f) (bs.mapM g) := by
  induction h with
  | nil => exact .done .nil
  | cons hhead _ ih =>
    rw [List.mapM_cons, List.mapM_cons]
    exact hhead.bind fun c d hcd => ih.bind fun cs ds hrest => .done (.cons hcd hrest)

end ResultsAgree

/-- Failures of one kind, whatever they say. -/
inductive Failure.SameKind : Failure → Failure → Prop where
  | refusal {cause cause' : Refusal} : SameKind (.refusal cause) (.refusal cause')
  | rejection {cause cause' : Rejection} : SameKind (.rejection cause) (.rejection cause')
  | fault {cause cause' : Fault} : SameKind (.fault cause) (.fault cause')

theorem Failure.SameKind.refl (failure : Failure) : failure.SameKind failure := by
  cases failure with
  | refusal cause => exact .refusal
  | rejection cause => exact .rejection
  | fault cause => exact .fault

theorem ResultsAgree.same (x : Except Failure α) : ResultsAgree Failure.SameKind (· = ·) x x :=
  refl Failure.SameKind.refl (fun _ => rfl) x

/-! ## The same results -/

/-- Both computations fail, for whatever reason, or both succeed with the same result. -/
def SameResult (x y : Except ε α) : Prop :=
  ResultsAgree (fun _ _ => True) (· = ·) x y

namespace SameResult

variable {x y z : Except ε α}

theorem failed (e e' : ε) : SameResult (.error e : Except ε α) (.error e') :=
  ResultsAgree.failed trivial

theorem refl (x : Except ε α) : SameResult x x :=
  ResultsAgree.refl (fun _ => trivial) (fun _ => rfl) x

theorem symm (h : SameResult x y) : SameResult y x := by
  cases h with
  | failed _ => exact failed _ _
  | done hdone => exact ResultsAgree.done hdone.symm

theorem trans (h : SameResult x y) (h' : SameResult y z) : SameResult x z := by
  cases h with
  | failed _ =>
    cases h' with
    | failed _ => exact failed _ _
  | done hxy =>
    cases h' with
    | done hyz => exact ResultsAgree.done (hxy.trans hyz)

/-- What gives the same on a normal form gives the same on all that has it. -/
theorem of_normalForm {normalForm : α → γ} {f : α → Except ε β} {g : γ → Except ε β}
    (h : ∀ a, SameResult (g (normalForm a)) (f a)) {a a' : α} (heq : normalForm a = normalForm a') :
    SameResult (f a) (f a') := by
  have hsmall := h a
  rw [heq] at hsmall
  exact hsmall.symm.trans (h a')

theorem andThen {f : α → Except ε β} {g : α → Except ε γ} {S : β → γ → Prop} (h : SameResult x y)
    (hstep : ∀ a, ResultsAgree (fun _ _ => True) S (f a) (g a)) :
    ResultsAgree (fun _ _ => True) S (x >>= f) (y >>= g) := by
  apply ResultsAgree.bind h
  intro a b hab
  rw [hab]
  exact hstep b

theorem bind {f g : α → Except ε β} (h : SameResult x y) (hstep : ∀ a, SameResult (f a) (g a)) :
    SameResult (x >>= f) (y >>= g) :=
  h.andThen hstep

end SameResult

end Relational
