import Mathlib.Data.List.Perm.Basic

/-!
# Steps that may fail

Chains and traversals of steps that may fail, by what they give when they succeed:

    x.bind f = .ok b  ↔  ∃ a, x = .ok a ∧ f a = .ok b                   (bind_eq_ok_iff)
    xs.mapM f = .ok ys  ↔  xs.map f = ys.map .ok                        (mapM_eq_ok_iff)
    steps that give the same in another order succeed alike             (exists_map_ok_of_perm)
-/

namespace Hydration.Traversal

variable {α β ε : Type} {f : α → Except ε β}

/-- The error of a step that failed. -/
def error? : Except ε α → Option ε
  | .ok _ => none
  | .error e => some e

theorem bind_eq_ok_iff {x : Except ε α} {b : β} :
    x.bind f = .ok b ↔ ∃ a, x = .ok a ∧ f a = .ok b := by
  cases x <;> simp [Except.bind]

theorem map_eq_ok_iff {x : Except ε α} {g : α → β} {b : β} :
    x.map g = .ok b ↔ ∃ a, x = .ok a ∧ g a = b := by
  cases x <;> simp [Except.map]

theorem map_eq_error_iff {x : Except ε α} {g : α → β} {e : ε} :
    x.map g = .error e ↔ x = .error e := by
  cases x <;> simp [Except.map]

theorem mapError_ok {ε' : Type} (g : ε → ε') (a : α) :
    (Except.ok a : Except ε α).mapError g = .ok a := rfl

theorem mapM_cons_of_ok {x : α} {xs : List α} {y : β} (h : f x = .ok y) :
    (x :: xs).mapM f = (xs.mapM f).map (y :: ·) := by
  rw [List.mapM_cons, h]
  cases xs.mapM f <;> rfl

theorem mapM_cons_of_error {x : α} {xs : List α} {e : ε} (h : f x = .error e) :
    (x :: xs).mapM f = .error e := by
  rw [List.mapM_cons, h]
  rfl

/-- A traversal succeeds when every step does, and then gives what the steps give. -/
theorem mapM_eq_ok_iff {xs : List α} {ys : List β} :
    xs.mapM f = .ok ys ↔ xs.map f = ys.map .ok := by
  induction xs generalizing ys with
  | nil => cases ys <;> simp [pure, Except.pure]
  | cons x xs ih =>
    cases hx : f x with
    | error e =>
      rw [mapM_cons_of_error hx]
      cases ys <;> simp [hx]
    | ok y =>
      rw [mapM_cons_of_ok hx]
      cases ys with
      | nil => cases xs.mapM f <;> simp [Except.map]
      | cons z zs =>
        rw [List.map_cons, List.map_cons, hx, List.cons.injEq, ← ih]
        cases xs.mapM f <;> simp [Except.map]

/-- A traversal that is to fail in the end fails with the first error on the way, or else with
the last. -/
theorem mapM_bind_error {γ : Type} (f : α → Except ε β) (xs : List α) (e : ε) :
    ((xs.mapM f).bind fun _ => (.error e : Except ε γ)) =
      .error ((xs.findSome? fun x => error? (f x)).getD e) := by
  induction xs with
  | nil => rfl
  | cons x xs ih =>
    cases hx : f x with
    | error d =>
      rw [mapM_cons_of_error hx, List.findSome?_cons_of_isSome (by rw [hx]; rfl), hx]
      rfl
    | ok y =>
      rw [mapM_cons_of_ok hx, List.findSome?_cons_of_isNone (by rw [hx]; rfl), ← ih]
      cases xs.mapM f <;> rfl

/-- A traversal fails with the error of the first step that fails. -/
theorem error?_mapM (f : α → Except ε β) (xs : List α) :
    error? (xs.mapM f) = xs.findSome? fun x => error? (f x) := by
  induction xs with
  | nil => rfl
  | cons x xs ih =>
    cases hx : f x with
    | error e =>
      rw [mapM_cons_of_error hx, List.findSome?_cons_of_isSome (by rw [hx]; rfl), hx]
      rfl
    | ok y =>
      rw [mapM_cons_of_ok hx, List.findSome?_cons_of_isNone (by rw [hx]; rfl), ← ih]
      cases xs.mapM f <;> rfl

theorem error?_eq_none_iff {x : Except ε α} : error? x = none ↔ ∃ a, x = .ok a := by
  cases x <;> simp [error?]

theorem error?_eq_some_iff {x : Except ε α} {e : ε} : error? x = some e ↔ x = .error e := by
  cases x <;> simp [error?]

theorem error?_map {γ : Type} (x : Except ε α) (g : α → γ) : error? (x.map g) = error? x := by
  cases x <;> rfl

theorem mapM_congr {f g : α → Except ε β} {xs : List α} (h : ∀ x ∈ xs, f x = g x) :
    xs.mapM f = xs.mapM g := by
  induction xs with
  | nil => rfl
  | cons x xs ih =>
    rw [List.mapM_cons, List.mapM_cons, h x List.mem_cons_self,
      ih fun y hy => h y (List.mem_cons_of_mem _ hy)]

theorem findSome?_flatMap {γ : Type} (xs : List α) (g : α → List β) (k : β → Option γ) :
    (xs.flatMap g).findSome? k = xs.findSome? fun x => (g x).findSome? k := by
  induction xs with
  | nil => rfl
  | cons x xs ih =>
    rw [List.flatMap_cons, List.findSome?_append, List.findSome?_cons, ih]
    cases (g x).findSome? k <;> rfl

/-- What every step keeps, the traversal keeps. -/
theorem map_eq_of_map_ok {γ : Type} {xs : List α} {ys : List β} {g : β → γ} {k : α → γ}
    (h : xs.map f = ys.map .ok) (hg : ∀ x y, f x = .ok y → g y = k x) : ys.map g = xs.map k := by
  induction xs generalizing ys with
  | nil =>
    cases ys with
    | nil => rfl
    | cons y ys => cases h
  | cons x xs ih =>
    cases ys with
    | nil => cases h
    | cons y ys =>
      rw [List.map_cons, List.map_cons, List.cons.injEq] at h
      rw [List.map_cons, List.map_cons, hg x y h.1, ih h.2]

/-- The steps of some of the elements give some of the results. -/
theorem filter_map_ok {xs : List α} {ys : List β} {p : α → Bool} {q : β → Bool}
    (h : xs.map f = ys.map .ok) (hpq : ∀ x y, f x = .ok y → q y = p x) :
    (xs.filter p).map f = (ys.filter q).map .ok := by
  induction xs generalizing ys with
  | nil =>
    cases ys with
    | nil => rfl
    | cons y ys => cases h
  | cons x xs ih =>
    cases ys with
    | nil => cases h
    | cons y ys =>
      rw [List.map_cons, List.map_cons, List.cons.injEq] at h
      rw [List.filter_cons, List.filter_cons, hpq x y h.1]
      cases p x with
      | false => exact ih h.2
      | true =>
        rw [if_pos rfl, if_pos rfl, List.map_cons, List.map_cons, h.1, ih h.2]

theorem exists_of_mem_of_map_ok {xs : List α} {ys : List β} (h : xs.map f = ys.map .ok) {y : β}
    (hy : y ∈ ys) : ∃ x ∈ xs, f x = .ok y := by
  have hm : Except.ok y ∈ xs.map f := h ▸ List.mem_map_of_mem hy
  obtain ⟨x, hx, he⟩ := List.mem_map.1 hm
  exact ⟨x, hx, he⟩

theorem exists_map_ok {xs : List α} (h : ∀ x ∈ xs, ∃ y, f x = .ok y) :
    ∃ ys : List β, xs.map f = ys.map .ok := by
  induction xs with
  | nil => exact ⟨[], rfl⟩
  | cons x xs ih =>
    obtain ⟨y, hy⟩ := h x List.mem_cons_self
    obtain ⟨ys, hys⟩ := ih fun z hz => h z (List.mem_cons_of_mem _ hz)
    exact ⟨y :: ys, by rw [List.map_cons, List.map_cons, hy, hys]⟩

theorem map_map_of_map_ok {γ : Type} {xs : List α} {ys : List β} (g : β → γ)
    (h : xs.map f = ys.map .ok) : (xs.map fun x => (f x).map g) = (ys.map g).map .ok := by
  have hmap := congrArg (List.map (Except.map g)) h
  rw [List.map_map, List.map_map] at hmap
  rw [List.map_map]
  exact hmap

section
variable {α' β' γ : Type} {f' : α' → Except ε β'} {g : β → γ} {g' : β' → γ} {xs : List α}
  {xs' : List α'} {ys : List β}

/-- Steps that give the same as steps that succeed, as far as `g` and `g'` tell, succeed. -/
theorem exists_map_ok_of_mem (h : xs.map f = ys.map .ok)
    (hmem : ∀ x ∈ xs', (f' x).map g' ∈ xs.map fun x => (f x).map g) :
    ∃ ys' : List β', xs'.map f' = ys'.map .ok := by
  refine exists_map_ok fun x hx => ?_
  have hx := hmem x hx
  rw [map_map_of_map_ok g h] at hx
  obtain ⟨c, -, hc⟩ := List.mem_map.1 hx
  obtain ⟨y, hy, -⟩ := map_eq_ok_iff.1 hc.symm
  exact ⟨y, hy⟩

theorem exists_map_ok_of_eq (h : xs.map f = ys.map .ok)
    (he : (xs'.map fun x => (f' x).map g') = xs.map fun x => (f x).map g) :
    ∃ ys' : List β', xs'.map f' = ys'.map .ok ∧ ys'.map g' = ys.map g := by
  obtain ⟨ys', hys'⟩ := exists_map_ok_of_mem h fun x hx => he ▸ List.mem_map_of_mem hx
  rw [map_map_of_map_ok g h, map_map_of_map_ok g' hys'] at he
  have hinj : Function.Injective (Except.ok : γ → Except ε γ) := fun _ _ => Except.ok.inj
  exact ⟨ys', hys', List.map_injective_iff.2 hinj he⟩

theorem exists_map_ok_of_perm (h : xs.map f = ys.map .ok)
    (hp : (xs'.map fun x => (f' x).map g').Perm (xs.map fun x => (f x).map g)) :
    ∃ ys' : List β', xs'.map f' = ys'.map .ok ∧ (ys'.map g').Perm (ys.map g) := by
  obtain ⟨ys', hys'⟩ :=
    exists_map_ok_of_mem h fun x hx => hp.mem_iff.1 (List.mem_map_of_mem hx)
  rw [map_map_of_map_ok g h, map_map_of_map_ok g' hys'] at hp
  have hinj : Function.Injective (Except.ok : γ → Except ε γ) := fun _ _ => Except.ok.inj
  exact ⟨ys', hys', (List.map_perm_map_iff hinj).1 hp⟩

end

end Hydration.Traversal
