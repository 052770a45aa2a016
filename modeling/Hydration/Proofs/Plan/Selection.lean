import Hydration.Proofs.FirstOccurrence
import Hydration.Proofs.Plan.Contest
import Mathlib.Data.List.MinMax

/-!
# The claims that are kept

Which claims the contest keeps can be said without running it.  The claims on one field are
rivals; the earliest of the highest rank among them is kept, and the fields come in the order in
which they were first claimed.

    rivals claims i    the claims on the field at i, in their order
    best? claims i     the earliest of the highest rank among them
    kept claims        the best of each field, by first claim
    (contest claim columns ([], [])).1 = kept (columns.filterMap claim)    (contest_fst_eq_kept)

One more claim adds its field at the end, or takes over the place of a lower rival; both sides
change alike.
-/

namespace Hydration

namespace Claim

/-! ## Algorithm -/

/-- The claims on the field at an index. -/
def rivals (claims : List Claim) (i : Nat) : List Claim := claims.filter fun x => x.field = i

/-- The earliest of the claims on a field that have the highest rank. -/
def best? (claims : List Claim) (i : Nat) : Option Claim := (rivals claims i).argmax rank

/-- The best claim on each field that is claimed, in the order in which they were first claimed. -/
def kept (claims : List Claim) : List Claim :=
  (claims.map field).eraseDups.filterMap (best? claims)

/-- The claim that holds a place after `x` was entered. -/
def yield (x held : Claim) : Claim :=
  if held.field = x.field ∧ held.rank < x.rank then x else held

/-! ## Lemmas -/

variable {claims held : List Claim} {x y : Claim} {i : Nat}

theorem mem_rivals_iff : x ∈ rivals claims i ↔ x ∈ claims ∧ x.field = i := by
  rw [rivals, List.mem_filter, decide_eq_true_eq]

theorem rivals_snoc_of_ne (h : x.field ≠ i) : rivals (claims ++ [x]) i = rivals claims i := by
  simp [rivals, h]

theorem rivals_snoc_self (claims : List Claim) (x : Claim) :
    rivals (claims ++ [x]) x.field = rivals claims x.field ++ [x] := by
  simp [rivals]

/-- The best claim on a field is one on it that no other outranks, the earliest of them. -/
theorem best?_eq_some_iff :
    best? claims i = some x ↔ x ∈ rivals claims i ∧ (∀ y ∈ rivals claims i, y.rank ≤ x.rank) ∧
      ∀ y ∈ rivals claims i, x.rank ≤ y.rank →
        (rivals claims i).idxOf x ≤ (rivals claims i).idxOf y := by
  rw [best?, ← Option.mem_def, List.mem_argmax_iff]

theorem mem_of_best? (h : best? claims i = some x) : x ∈ claims ∧ x.field = i :=
  mem_rivals_iff.1 (best?_eq_some_iff.1 h).1

/-- A field that is claimed has a best claim. -/
theorem exists_best? (h : i ∈ claims.map field) : ∃ x, best? claims i = some x := by
  obtain ⟨y, hy, rfl⟩ := List.mem_map.1 h
  cases hx : best? claims y.field with
  | some x => exact ⟨x, rfl⟩
  | none =>
    have hnil : rivals claims y.field = [] := List.argmax_eq_none.1 hx
    have hmem : y ∈ rivals claims y.field := mem_rivals_iff.2 ⟨hy, rfl⟩
    rw [hnil] at hmem
    cases hmem

theorem mem_kept_iff : x ∈ kept claims ↔ best? claims x.field = some x := by
  constructor
  · intro h
    obtain ⟨i, -, hi⟩ := List.mem_filterMap.1 h
    obtain ⟨-, rfl⟩ := mem_of_best? hi
    exact hi
  · intro h
    have hfield : x.field ∈ (claims.map field).eraseDups :=
      List.mem_eraseDups.2 (List.mem_map_of_mem (mem_of_best? h).1)
    exact List.mem_filterMap.2 ⟨x.field, hfield, h⟩

/-- The fields of the claims that are kept are those that are claimed, each once. -/
theorem map_field_kept (claims : List Claim) :
    (kept claims).map field = (claims.map field).eraseDups := by
  have hfield : ∀ i ∈ (claims.map field).eraseDups, (best? claims i).map field = some i := by
    intro i hi
    obtain ⟨x, hx⟩ := exists_best? (List.mem_eraseDups.1 hi)
    rw [hx, Option.map_some, (mem_of_best? hx).2]
  rw [kept, List.map_filterMap, List.filterMap_congr hfield, List.filterMap_some]

/-! ### One more claim -/

theorem map_yield_of_notMem (h : x.field ∉ held.map field) : held.map (yield x) = held := by
  have hsame : ∀ y ∈ held, yield x y = id y := by
    intro y hy
    refine if_neg fun hyx => h ?_
    rw [← hyx.1]
    exact List.mem_map_of_mem hy
  rw [List.map_congr_left hsame, List.map_id]

/-- A claim on a field that is held leaves every place to the one that holds it, or takes it. -/
theorem enter_fst_of_mem (hd : (held.map field).Nodup) (h : x.field ∈ held.map field) :
    (enter x held).1 = held.map (yield x) := by
  induction held with
  | nil => cases h
  | cons first rest ih =>
    rw [List.map_cons, List.nodup_cons] at hd
    rw [enter, List.map_cons]
    by_cases hf : first.field = x.field
    · -- the other places are of other fields
      have hrest : rest.map (yield x) = rest := map_yield_of_notMem (hf ▸ hd.1)
      rw [if_pos hf, hrest]
      by_cases hr : first.rank < x.rank
      · rw [if_pos hr, yield, if_pos ⟨hf, hr⟩]
      · rw [if_neg hr, yield, if_neg fun hyx => hr hyx.2]
    · have hmem : x.field ∈ rest.map field := by
        rw [List.map_cons, List.mem_cons] at h
        exact h.resolve_left fun he => hf he.symm
      have hfirst : yield x first = first := if_neg fun hyx => hf hyx.1
      rw [if_neg hf, hfirst, ← ih hd.2 hmem]

theorem best?_snoc (h : best? claims i = some y) :
    best? (claims ++ [x]) i = some (yield x y) := by
  have hy : y.field = i := (mem_of_best? h).2
  by_cases hi : x.field = i
  · subst hi
    rw [best?] at h
    rw [best?, rivals_snoc_self, List.argmax_concat, h]
    by_cases hr : y.rank < x.rank
    · simp [yield, hr, hy]
    · simp [yield, hr]
  · have hyield : yield x y = y := if_neg fun hyx => hi (hyx.1.symm.trans hy)
    rw [best?, rivals_snoc_of_ne hi, hyield]
    exact h

/-- What is kept changes with one more claim as what is held does. -/
theorem kept_snoc (hd : ((kept claims).map field).Nodup) (x : Claim) :
    kept (claims ++ [x]) = (enter x (kept claims)).1 := by
  have hold : (claims.map field).eraseDups.filterMap (best? (claims ++ [x])) =
      (kept claims).map (yield x) := by
    rw [kept, List.map_filterMap]
    refine List.filterMap_congr fun i hi => ?_
    obtain ⟨y, hy⟩ := exists_best? (List.mem_eraseDups.1 hi)
    rw [hy, Option.map_some, best?_snoc hy]
  have hmem : x.field ∈ (kept claims).map field ↔ x.field ∈ claims.map field := by
    rw [map_field_kept, List.mem_eraseDups]
  rw [kept, List.map_append, List.map_cons, List.map_nil, eraseDups_snoc]
  -- a field that is claimed already keeps its place, a new one comes last
  by_cases hx : x.field ∈ claims.map field
  · rw [if_pos hx, hold, enter_fst_of_mem hd (hmem.2 hx)]
  · rw [if_neg hx, List.filterMap_append, hold]
    rcases enter_cases x (kept claims) with ⟨hfield, he⟩ | ⟨before, old, after, hsplit, hold, -⟩
    · have hnew : best? (claims ++ [x]) x.field = some x := by
        have hnil : rivals claims x.field = [] := by
          rw [rivals, List.filter_eq_nil_iff]
          intro y hy hyx
          exact hx (of_decide_eq_true hyx ▸ List.mem_map_of_mem hy)
        rw [best?, rivals_snoc_self, hnil]
        rfl
      rw [he, map_yield_of_notMem hfield, List.filterMap_cons_some hnew, List.filterMap_nil]
    · refine absurd (hmem.1 ?_) hx
      rw [hsplit, ← hold]
      simp

theorem contest_snoc (claim : Column → Option Claim) (columns : List Column) (c : Column)
    (s : List Claim × List Column) :
    contest claim (columns ++ [c]) s = offer claim c (contest claim columns s) := by
  induction columns generalizing s with
  | nil =>
    rw [List.nil_append, contest_cons]
    rfl
  | cons d rest ih => rw [List.cons_append, contest_cons, contest_cons, ih]

/-! ## Top theorems -/

/-- The contest keeps the best claim on each field, in the order in which they were first
claimed. -/
theorem contest_fst_eq_kept {claim : Column → Option Claim}
    (hcol : ∀ c x, claim c = some x → x.column = c) (columns : List Column) :
    (contest claim columns ([], [])).1 = kept (columns.filterMap claim) := by
  induction columns using List.reverseRecOn with
  | nil => rfl
  | append_singleton seen c ih =>
    have hd := (contested_contest hcol seen).fields
    rw [contest_snoc, List.filterMap_append]
    rw [ih] at hd
    cases hc : claim c with
    | none =>
      rw [List.filterMap_cons_none hc, List.filterMap_nil, List.append_nil, ← ih]
      simp only [offer, hc]
    | some x =>
      rw [List.filterMap_cons_some hc, List.filterMap_nil, kept_snoc hd, ← ih]
      simp only [offer, hc]

end Claim

end Hydration
