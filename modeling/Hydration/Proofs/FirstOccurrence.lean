import Mathlib.Data.List.Induction

/-!
# First occurrences

A list without its repetitions keeps the first of equal elements.  Of labelled elements, the labels
without their repetitions are those of the elements that come first with them.

    (xs ++ [a]).eraseDups = if a ∈ xs then xs.eraseDups else xs.eraseDups ++ [a]
                                                                        (eraseDups_snoc)
    First P xs x → First P xs y → x = y                                 (First.unique)
    firsts.map f = (xs.map f).eraseDups for the first of each label     (exists_firsts)
-/

namespace Hydration

variable {α β : Type} {P : α → Prop} {xs : List α} {x y : α}

/-- `x` is the first of the elements for which `P` holds. -/
def First (P : α → Prop) (xs : List α) (x : α) : Prop :=
  P x ∧ ∃ before after, xs = before ++ x :: after ∧ ∀ y ∈ before, ¬P y

theorem First.unique (hx : First P xs x) (hy : First P xs y) : x = y := by
  obtain ⟨hPx, before, after, rfl, hbefore⟩ := hx
  obtain ⟨hPy, before', after', hsplit, hbefore'⟩ := hy
  rcases List.append_eq_append_iff.1 hsplit with ⟨between, rfl, h⟩ | ⟨between, rfl, h⟩
  · cases between with
    | nil => exact (List.cons.inj h).1
    | cons z rest =>
      obtain ⟨rfl, -⟩ := List.cons.inj h
      exact absurd hPx (hbefore' x (by simp))
  · cases between with
    | nil => exact (List.cons.inj h).1.symm
    | cons z rest =>
      obtain ⟨rfl, -⟩ := List.cons.inj h
      exact absurd hPy (hbefore y (by simp))

theorem First.snoc (h : First P xs x) (a : α) : First P (xs ++ [a]) x := by
  obtain ⟨hP, before, after, rfl, hbefore⟩ := h
  exact ⟨hP, before, after ++ [a], by simp, hbefore⟩

theorem eraseDups_snoc [DecidableEq α] (xs : List α) (a : α) :
    (xs ++ [a]).eraseDups = if a ∈ xs then xs.eraseDups else xs.eraseDups ++ [a] := by
  rw [List.eraseDups_append]
  by_cases h : a ∈ xs
  · simp [List.removeAll, h]
  · simp [List.removeAll, h, List.eraseDups_cons]

/-- Labels without repetitions are those of the elements that come first with them. -/
theorem exists_firsts [DecidableEq β] (f : α → β) (xs : List α) :
    ∃ firsts : List α, firsts.Sublist xs ∧ firsts.map f = (xs.map f).eraseDups ∧
      ∀ x ∈ firsts, First (fun y => f y = f x) xs x := by
  induction xs using List.reverseRecOn with
  | nil => exact ⟨[], .slnil, rfl, fun _ h => absurd h List.not_mem_nil⟩
  | append_singleton xs a ih =>
    obtain ⟨firsts, hsub, hlabels, hfirst⟩ := ih
    have hsnoc : (xs ++ [a]).map f = xs.map f ++ [f a] := List.map_append
    rw [hsnoc, eraseDups_snoc]
    by_cases ha : f a ∈ xs.map f
    · rw [if_pos ha]
      exact ⟨firsts, hsub.trans (List.sublist_append_left xs [a]), hlabels,
        fun x hx => (hfirst x hx).snoc a⟩
    · rw [if_neg ha]
      refine ⟨firsts ++ [a], hsub.append_right [a], by rw [List.map_append, hlabels]; rfl,
        fun x hx => ?_⟩
      rcases List.mem_append.1 hx with hx | hx
      · exact (hfirst x hx).snoc a
      · cases List.mem_singleton.1 hx
        exact ⟨rfl, xs, [], rfl, fun y hy he => ha (he ▸ List.mem_map_of_mem hy)⟩

end Hydration
