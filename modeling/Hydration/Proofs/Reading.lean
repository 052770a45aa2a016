import Hydration.Row

/-!
# What a reading gives

`x.Meets P E` says that the reading `x` gives a value with `P` or fails with an error with `E`.
Readings are put together by the rules below, so what is known of a chain of steps follows from
what is known of each step.  `x.map f` passes what `x` gives through `f`.

    x.Meets P E → (∀ a, P a → (f a).Meets Q E) → (x.bind f).Meets Q E                (Meets.bind)
    x.Meets P E → (∀ e, E e → F (e.context (.of c))) → (x.within c).Meets P F      (Meets.within)
-/

namespace Hydration

namespace Reading

variable {α β : Type}

/-- The reading with what it gives passed through `f`. -/
def map (f : α → β) (x : Reading α) : Reading β := ⟨x.trail, x.result.map f⟩

/-- Chains of readings give what the chains of their results give. -/
theorem result_bind (x : Reading α) (f : α → Reading β) :
    (x.bind f).result = x.result.bind fun a => (f a).result := by
  unfold bind
  cases x.result <;> rfl

theorem bind_map {γ : Type} (x : Reading α) (f : α → β) (g : β → Reading γ) :
    (x.map f).bind g = x.bind fun a => g (f a) := by
  unfold bind map
  cases x.result <;> rfl

theorem map_bind {γ : Type} (x : Reading α) (f : α → Reading β) (g : β → γ) :
    (x.bind f).map g = x.bind fun a => (f a).map g := by
  unfold bind map
  cases x.result <;> rfl

/-- A result that is worked out in two steps can be worked out in one. -/
theorem bind_ofResult_bind {γ : Type} (x : Reading α) (f : α → Except Error β) (g : β → γ) :
    ((x.bind fun a => .ofResult (f a)).bind fun b => .ofResult (.ok (g b))) =
      x.bind fun a => .ofResult ((f a).map g) := by
  unfold bind ofResult
  cases x.result with
  | error e => rfl
  | ok a => cases hf : f a <;> simp [hf, Except.map]

/-- The reading gives a value with `P`, or it fails with an error with `E`. -/
def Meets (x : Reading α) (P : α → Prop) (E : Error → Prop) : Prop :=
  match x.result with
  | .ok a => P a
  | .error e => E e

variable {x : Reading α} {P Q : α → Prop} {E F : Error → Prop}

theorem meets_iff :
    x.Meets P E ↔ (∀ a, x.result = .ok a → P a) ∧ ∀ e, x.result = .error e → E e := by
  unfold Meets
  cases x.result with
  | ok a => simp
  | error e => simp

theorem meets_of_ok {a : α} (h : x.result = .ok a) (ha : P a) : x.Meets P E := by
  unfold Meets
  rw [h]
  exact ha

theorem meets_of_error {e : Error} (h : x.result = .error e) (he : E e) : x.Meets P E := by
  unfold Meets
  rw [h]
  exact he

theorem Meets.mono (h : x.Meets P E) (hP : ∀ a, P a → Q a) (hE : ∀ e, E e → F e) :
    x.Meets Q F := by
  rw [meets_iff] at h ⊢
  exact ⟨fun a ha => hP a (h.1 a ha), fun e he => hE e (h.2 e he)⟩

theorem Meets.with_error (h : x.Meets P E) : x.Meets P fun e => E e ∧ x.result = .error e := by
  rw [meets_iff] at h ⊢
  exact ⟨h.1, fun e he => ⟨h.2 e he, he⟩⟩

theorem Meets.bind {R : β → Prop} {f : α → Reading β} (h : x.Meets P E)
    (hf : ∀ a, P a → (f a).Meets R E) : (x.bind f).Meets R E := by
  rw [meets_iff] at h
  cases hx : x.result with
  | ok a =>
    rw [bind_of_ok hx]
    exact hf a (h.1 a hx)
  | error e =>
    rw [bind_of_error hx]
    exact h.2 e hx

theorem Meets.within {c : Fault} (h : x.Meets P E) (hE : ∀ e, E e → F (e.context (.of c))) :
    (x.within c).Meets P F := by
  rw [meets_iff] at h
  cases hx : x.result with
  | ok a => exact meets_of_ok (by rw [Reading.within, hx]; rfl) (h.1 a hx)
  | error e => exact meets_of_error (by rw [Reading.within, hx]; rfl) (hE e (h.2 e hx))

end Reading

end Hydration
