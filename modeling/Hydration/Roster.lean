/-!
# Rosters

Lists whose entries have distinct names, in the order in which the names first came.
Putting an entry under a name that is taken replaces the entry and keeps its place.

    (r.put a).find? (key a) = some a                           (find?_put_self)
    key a ≠ k → (r.put a).find? k = r.find? k                  (find?_put_of_ne)
-/

namespace Hydration

/-- Entries with distinct names, the oldest name first. -/
structure Roster (α : Type) (key : α → String) where
  items : List α
  distinct : (items.map key).Nodup

namespace Roster

variable {α : Type} {key : α → String}

/-! ## Algorithm -/

def empty : Roster α key := ⟨[], by simp⟩

/-- `a` in the place of the entries of its name. -/
def replace (key : α → String) (a : α) (xs : List α) : List α :=
  xs.map fun x => if key x = key a then a else x

theorem map_key_replace (a : α) (xs : List α) : (replace key a xs).map key = xs.map key := by
  simp only [replace, List.map_map]
  apply List.map_congr_left
  intro x _
  simp only [Function.comp]
  split <;> simp_all

/-- `a` under its name: in the place of the entry that has the name, else at the end. -/
def put (r : Roster α key) (a : α) : Roster α key :=
  if h : key a ∈ r.items.map key then
    ⟨replace key a r.items, by rw [map_key_replace]; exact r.distinct⟩
  else
    ⟨r.items ++ [a], by
      rw [List.map_append, List.nodup_append]
      refine ⟨r.distinct, by simp, ?_⟩
      simp only [List.map_cons, List.map_nil, List.mem_singleton]
      rintro x hx y rfl rfl
      exact h hx⟩

/-- Entries put one after the other. -/
def ofList (xs : List α) : Roster α key := xs.foldl put empty

/-- The entry of a name. -/
def find? (r : Roster α key) (k : String) : Option α := r.items.find? fun x => key x == k

/-- The names, the oldest first. -/
def keys (r : Roster α key) : List String := r.items.map key

/-! ## Lemmas -/

@[ext] theorem ext {r s : Roster α key} (h : r.items = s.items) : r = s := by
  cases r
  cases s
  simp_all

theorem find?_eq_some_iff {r : Roster α key} {k : String} {a : α} :
    r.find? k = some a ↔ a ∈ r.items ∧ key a = k := by
  unfold find?
  have hd := r.distinct
  revert hd
  generalize r.items = xs
  intro hd
  induction xs with
  | nil => simp
  | cons x xs ih =>
    simp only [List.map_cons, List.nodup_cons] at hd
    rw [List.find?_cons]
    by_cases hx : key x = k
    · simp only [hx, beq_self_eq_true, Option.some.injEq, List.mem_cons]
      constructor
      · rintro rfl
        exact ⟨.inl rfl, hx⟩
      · rintro ⟨rfl | ha, hk⟩
        · rfl
        · exact absurd (hx.trans hk.symm ▸ List.mem_map_of_mem ha) hd.1
    · simp only [beq_eq_false_iff_ne.2 hx, ih hd.2, List.mem_cons]
      constructor
      · rintro ⟨ha, hk⟩
        exact ⟨.inr ha, hk⟩
      · rintro ⟨rfl | ha, hk⟩
        · exact absurd hk hx
        · exact ⟨ha, hk⟩

theorem items_put (r : Roster α key) (a : α) :
    (r.put a).items =
      if key a ∈ r.keys then replace key a r.items else r.items ++ [a] := by
  unfold put keys
  split <;> rfl

theorem keys_put (r : Roster α key) (a : α) :
    (r.put a).keys = if key a ∈ r.keys then r.keys else r.keys ++ [key a] := by
  unfold keys
  rw [items_put]
  unfold keys
  split
  · exact map_key_replace a r.items
  · simp

theorem mem_put_iff {r : Roster α key} {a x : α} :
    x ∈ (r.put a).items ↔ x = a ∨ x ∈ r.items ∧ key x ≠ key a := by
  rw [items_put]
  split
  · rename_i h
    simp only [replace, List.mem_map]
    constructor
    · rintro ⟨y, hy, rfl⟩
      split
      · exact .inl rfl
      · exact .inr ⟨hy, by assumption⟩
    · rintro (rfl | ⟨hx, hk⟩)
      · obtain ⟨y, hy, hk⟩ := List.mem_map.1 h
        exact ⟨y, hy, if_pos hk⟩
      · exact ⟨x, hx, if_neg hk⟩
  · rename_i h
    simp only [List.mem_append, List.mem_singleton]
    constructor
    · rintro (hx | rfl)
      · exact .inr ⟨hx, fun hk => h (hk ▸ List.mem_map_of_mem hx)⟩
      · exact .inl rfl
    · rintro (rfl | ⟨hx, -⟩)
      · exact .inr rfl
      · exact .inl hx

theorem find?_put_self (r : Roster α key) (a : α) : (r.put a).find? (key a) = some a :=
  find?_eq_some_iff.2 ⟨mem_put_iff.2 (.inl rfl), rfl⟩

theorem find?_put_of_ne {r : Roster α key} {a : α} {k : String} (h : key a ≠ k) :
    (r.put a).find? k = r.find? k := by
  refine Option.ext fun x => ?_
  rw [find?_eq_some_iff, find?_eq_some_iff, mem_put_iff]
  constructor
  · rintro ⟨rfl | ⟨hx, -⟩, hk⟩
    · exact absurd hk h
    · exact ⟨hx, hk⟩
  · rintro ⟨hx, hk⟩
    exact ⟨.inr ⟨hx, fun he => h (he ▸ hk)⟩, hk⟩

end Roster

end Hydration
