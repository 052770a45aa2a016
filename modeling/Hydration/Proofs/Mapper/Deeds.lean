import Hydration.Error
import Hydration.Proofs.Traversal
import Mathlib.Data.List.Nodup
import Mathlib.Data.List.Perm.Basic

/-!
# Deeds on the parts of a record

A deed changes one part of a record, or fails.  It is confined when it changes no other part and
what it does depends on its own part alone.  Confined deeds on distinct parts do not notice one
another: together they succeed when each of them succeeds on the record that they start from,
and then every part holds what its deed makes of that record.

    performAll ds start = .ok record → Done view ds start record     (done_of_performAll)
    each d.perform start succeeds → performAll ds start succeeds     (exists_performAll)
    what succeeds in one order succeeds in every order, and leaves
      the same in every part                                         (exists_performAll_of_perm)
-/

namespace Hydration

open Traversal

variable {κ ρ α : Type}

/-- What is done to the part of a record at `part`. -/
structure Deed (κ ρ : Type) where
  part : κ
  perform : ρ → Except Error ρ

namespace Deed

/-! ## Algorithm -/

/-- Deeds one after the other. -/
def performAll : List (Deed κ ρ) → ρ → Except Error ρ
  | [], record => .ok record
  | d :: rest, record => (d.perform record).bind (performAll rest)

/-- The deed changes its own part only, and what becomes of that part depends on it alone. -/
structure Confined (view : κ → ρ → α) (d : Deed κ ρ) : Prop where
  frame : ∀ a x, d.perform a = .ok x → ∀ k, k ≠ d.part → view k x = view k a
  own : ∀ a b x, d.perform a = .ok x → view d.part b = view d.part a →
    ∃ y, d.perform b = .ok y ∧ view d.part y = view d.part x

/-- Every part of `record` holds what its deed makes of `start`, and what it held before if there
is no deed on it. -/
structure Done (view : κ → ρ → α) (ds : List (Deed κ ρ)) (start record : ρ) : Prop where
  kept : ∀ k, k ∉ ds.map part → view k record = view k start
  changed : ∀ d ∈ ds, ∃ x, d.perform start = .ok x ∧ view d.part record = view d.part x

/-! ## Lemmas -/

section
variable {view : κ → ρ → α} {ds ds' : List (Deed κ ρ)} {start record record' : ρ}

/-- A deed on another part does not notice one that was done before. -/
theorem Confined.of_other {d e : Deed κ ρ} {a x y : ρ} (hd : d.Confined view)
    (he : e.Confined view) (hne : e.part ≠ d.part) (hx : d.perform a = .ok x)
    (hy : e.perform a = .ok y) : ∃ z, e.perform x = .ok z ∧ view e.part z = view e.part y :=
  he.own a x y hy (hd.frame a x hx e.part hne)

theorem part_ne_of_mem {d e : Deed κ ρ} (hd : ((d :: ds).map part).Nodup) (he : e ∈ ds) :
    e.part ≠ d.part := by
  rw [List.map_cons, List.nodup_cons] at hd
  exact fun h => hd.1 (h ▸ List.mem_map_of_mem he)

/-- Deeds on distinct parts are done as if each were done first. -/
theorem done_of_performAll (hc : ∀ d ∈ ds, d.Confined view) (hd : (ds.map part).Nodup)
    (h : performAll ds start = .ok record) : Done view ds start record := by
  induction ds generalizing start with
  | nil =>
    cases h
    exact ⟨fun _ _ => rfl, fun d hd => absurd hd List.not_mem_nil⟩
  | cons d rest ih =>
    rw [performAll, bind_eq_ok_iff] at h
    obtain ⟨x, hx, hrest⟩ := h
    have hcd := hc d List.mem_cons_self
    have hcrest := fun e he => hc e (List.mem_cons_of_mem _ he)
    have hdone := ih hcrest (List.nodup_cons.1 hd).2 hrest
    refine ⟨fun k hk => ?_, fun e he => ?_⟩
    · rw [List.map_cons, List.mem_cons, not_or] at hk
      rw [hdone.kept k hk.2, hcd.frame start x hx k hk.1]
    · rcases List.mem_cons.1 he with rfl | he
      · exact ⟨x, hx, hdone.kept e.part (List.nodup_cons.1 hd).1⟩
      · obtain ⟨y, hy, hview⟩ := hdone.changed e he
        -- `e` was done on `x`, which holds in its part what `start` holds there
        have hsame : view e.part start = view e.part x :=
          (hcd.frame start x hx e.part (part_ne_of_mem hd he)).symm
        obtain ⟨z, hz, hzy⟩ := (hcrest e he).own x start y hy hsame
        exact ⟨z, hz, hview.trans hzy.symm⟩

/-- Deeds on distinct parts succeed together when each succeeds alone. -/
theorem exists_performAll (hc : ∀ d ∈ ds, d.Confined view) (hd : (ds.map part).Nodup)
    (h : ∀ d ∈ ds, ∃ x, d.perform start = .ok x) : ∃ record, performAll ds start = .ok record := by
  induction ds generalizing start with
  | nil => exact ⟨start, rfl⟩
  | cons d rest ih =>
    obtain ⟨x, hx⟩ := h d List.mem_cons_self
    have hcrest := fun e he => hc e (List.mem_cons_of_mem _ he)
    have halone : ∀ e ∈ rest, ∃ z, e.perform x = .ok z := by
      intro e he
      obtain ⟨y, hy⟩ := h e (List.mem_cons_of_mem _ he)
      obtain ⟨z, hz, -⟩ := (hc d List.mem_cons_self).of_other (hcrest e he)
        (part_ne_of_mem hd he) hx hy
      exact ⟨z, hz⟩
    obtain ⟨record, hrecord⟩ := ih hcrest (List.nodup_cons.1 hd).2 halone
    exact ⟨record, by rw [performAll, hx]; exact hrecord⟩

/-- What a record holds after deeds are done does not depend on their order. -/
theorem Done.unique (h : Done view ds start record) (h' : Done view ds' start record')
    (hmem : ∀ d, d ∈ ds ↔ d ∈ ds') (k : κ) : view k record' = view k record := by
  by_cases hk : k ∈ ds.map part
  · obtain ⟨d, hd, rfl⟩ := List.mem_map.1 hk
    obtain ⟨x, hx, hview⟩ := h.changed d hd
    obtain ⟨y, hy, hview'⟩ := h'.changed d ((hmem d).1 hd)
    rw [hx, Except.ok.injEq] at hy
    rw [hview, hview', hy]
  · have hk' : k ∉ ds'.map part := by
      rintro hk'
      obtain ⟨d, hd, rfl⟩ := List.mem_map.1 hk'
      exact hk (List.mem_map_of_mem ((hmem d).2 hd))
    rw [h.kept k hk, h'.kept k hk']

/-- Deeds that succeed in one order succeed in any other, with the same contents. -/
theorem exists_performAll_of_perm (hc : ∀ d ∈ ds, d.Confined view) (hd : (ds.map part).Nodup)
    (hp : ds'.Perm ds) (h : performAll ds start = .ok record) :
    ∃ record', performAll ds' start = .ok record' ∧ ∀ k, view k record' = view k record := by
  have hc' : ∀ d ∈ ds', d.Confined view := fun d h => hc d (hp.mem_iff.1 h)
  have hd' : (ds'.map part).Nodup := (hp.map part).nodup_iff.2 hd
  have hdone := done_of_performAll hc hd h
  have halone : ∀ d ∈ ds', ∃ x, d.perform start = .ok x := by
    intro d h
    obtain ⟨x, hx, -⟩ := hdone.changed d (hp.mem_iff.1 h)
    exact ⟨x, hx⟩
  obtain ⟨record', h'⟩ := exists_performAll hc' hd' halone
  exact ⟨record', h', hdone.unique (done_of_performAll hc' hd' h') fun _ => hp.mem_iff.symm⟩

end

end Deed

end Hydration
