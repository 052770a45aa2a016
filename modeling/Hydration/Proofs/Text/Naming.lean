import Hydration.Text.Naming

/-!
# What a name finds

A name finds the first entry that is called so, or else the first that is called so in another
case, and never two.

    locate label xs name = some i  ↔  ∃ exact, Finds label xs name i exact    (locate_iff_finds)
    xs.findIdx? p = some i  ↔  FirstAt (p · = true) xs i        (findIdx?_eq_some_iff_firstAt)
-/

namespace Hydration.Text

variable {α : Type}

/-- `i` is the first position at which `P` holds. -/
def FirstAt (P : α → Prop) (xs : List α) (i : Nat) : Prop :=
  (∃ x, xs[i]? = some x ∧ P x) ∧ ∀ j < i, ∀ x, xs[j]? = some x → ¬P x

/-- A name finds the entry at `i`, exactly, or in another case when nothing is called so. -/
inductive Finds (label : α → Option String) (xs : List α) (name : String) : Nat → Bool → Prop
  | exact {i : Nat} (h : FirstAt (fun x => label x = some name) xs i) :
    Finds label xs name i true
  | folded {i : Nat} (none : ∀ x ∈ xs, label x ≠ some name)
    (h : FirstAt (fun x => ∃ l, label x = some l ∧ sameFolded l name = true) xs i) :
    Finds label xs name i false

variable {label : α → Option String} {xs : List α} {name : String} {i j : Nat}

theorem findIdx?_eq_some_iff_firstAt {p : α → Bool} :
    xs.findIdx? p = some i ↔ FirstAt (fun x => p x = true) xs i := by
  rw [List.findIdx?_eq_some_iff_getElem]
  constructor
  · rintro ⟨hi, hp, hlt⟩
    refine ⟨⟨xs[i], List.getElem?_eq_getElem hi, hp⟩, fun j hj x hx => ?_⟩
    obtain ⟨hjl, rfl⟩ := List.getElem?_eq_some_iff.1 hx
    exact hlt j hj
  · rintro ⟨⟨x, hx, hp⟩, hlt⟩
    obtain ⟨hi, rfl⟩ := List.getElem?_eq_some_iff.1 hx
    exact ⟨hi, hp, fun j hj => hlt j hj _ (List.getElem?_eq_getElem (by omega))⟩

theorem findIdx?_exact_iff :
    xs.findIdx? (fun x => label x == some name) = some i ↔
      FirstAt (fun x => label x = some name) xs i := by
  rw [findIdx?_eq_some_iff_firstAt]
  simp only [beq_iff_eq]

theorem findIdx?_folded_iff :
    xs.findIdx? (fun x => (label x).any (sameFolded · name)) = some i ↔
      FirstAt (fun x => ∃ l, label x = some l ∧ sameFolded l name = true) xs i := by
  rw [findIdx?_eq_some_iff_firstAt]
  simp only [Option.any_eq_true]

theorem locate_iff_finds :
    locate label xs name = some i ↔ ∃ exact, Finds label xs name i exact := by
  rw [locate_eq_some_iff, findIdx?_exact_iff, findIdx?_folded_iff]
  constructor
  · rintro (h | ⟨hn, h⟩)
    · exact ⟨true, .exact h⟩
    · refine ⟨false, .folded (fun x hx => ?_) h⟩
      simpa using List.findIdx?_eq_none_iff.1 hn x hx
  · rintro ⟨_, h | ⟨hn, h⟩⟩
    · exact .inl h
    · exact .inr ⟨List.findIdx?_eq_none_iff.2 fun x hx => by simpa using hn x hx, h⟩

theorem locate_eq_none_iff : locate label xs name = none ↔ ∀ i e, ¬Finds label xs name i e := by
  rw [Option.eq_none_iff_forall_ne_some]
  simp only [ne_eq, locate_iff_finds, not_exists]

/-- A name is found exactly when the entry found is called so. -/
theorem Finds.exact_iff {e : Bool} (h : Finds label xs name i e) :
    e = decide (xs[i]?.bind label = some name) := by
  cases h with
  | exact h =>
    obtain ⟨⟨x, hx, hl⟩, -⟩ := h
    simp [hx, hl]
  | folded hn h =>
    obtain ⟨⟨x, hx, -⟩, -⟩ := h
    simp [hx, hn x (List.mem_of_getElem? hx)]

theorem Finds.unique {e e' : Bool} (h : Finds label xs name i e) (h' : Finds label xs name j e') :
    i = j ∧ e = e' := by
  have hi := locate_iff_finds.2 ⟨e, h⟩
  have hj := locate_iff_finds.2 ⟨e', h'⟩
  rw [hi, Option.some.injEq] at hj
  subst hj
  exact ⟨rfl, h.exact_iff.trans h'.exact_iff.symm⟩

/-- The entry that is found has the name, at least when case is ignored. -/
theorem Finds.fold_eq {e : Bool} (h : Finds label xs name i e) :
    ∃ x l, xs[i]? = some x ∧ label x = some l ∧ fold l = fold name := by
  rcases h with ⟨⟨x, hx, hl⟩, -⟩ | ⟨-, ⟨x, hx, l, hl, hf⟩, -⟩
  · exact ⟨x, name, hx, hl, rfl⟩
  · exact ⟨x, l, hx, hl, beq_iff_eq.1 hf⟩

/-- Names that find the same entry are the same when case is ignored. -/
theorem Finds.fold_eq_fold {e e' : Bool} {other : String} (h : Finds label xs name i e)
    (h' : Finds label xs other i e') : fold name = fold other := by
  obtain ⟨x, l, hx, hl, hf⟩ := h.fold_eq
  obtain ⟨y, k, hy, hk, hf'⟩ := h'.fold_eq
  cases hx.symm.trans hy
  cases hl.symm.trans hk
  exact hf.symm.trans hf'

/-- A name is found when an entry has it, even in another case. -/
theorem exists_locate {x : α} {l : String} (hx : x ∈ xs) (hl : label x = some l)
    (hf : fold l = fold name) : ∃ i, locate label xs name = some i := by
  unfold locate
  split
  · exact ⟨_, rfl⟩
  · refine Option.isSome_iff_exists.1 ?_
    rw [List.findIdx?_isSome, List.any_eq_true]
    exact ⟨x, hx, by rw [hl]; exact beq_iff_eq.2 hf⟩

end Hydration.Text
