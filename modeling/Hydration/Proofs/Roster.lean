import Hydration.Proofs.FirstOccurrence
import Hydration.Roster

/-!
# Rosters of lists

Entries that are put one after the other: each name keeps the place where it first came, and the
last entry of a name is the one that stays.

    (ofList xs).keys = (xs.map key).eraseDups                           (keys_ofList)
    (ofList xs).find? k = the last of xs with the name k                (find?_ofList)
-/

namespace Hydration.Roster

variable {α : Type} {key : α → String} {xs : List α} {a : α}

theorem mem_of_mem_foldl_put {r : Roster α key} (h : a ∈ (xs.foldl put r).items) :
    a ∈ r.items ∨ a ∈ xs := by
  induction xs generalizing r with
  | nil => exact .inl h
  | cons x xs ih =>
    rcases ih h with h | h
    · rcases mem_put_iff.1 h with rfl | ⟨h, -⟩
      · exact .inr List.mem_cons_self
      · exact .inl h
    · exact .inr (List.mem_cons_of_mem _ h)

theorem mem_of_mem_ofList (h : a ∈ (ofList xs : Roster α key).items) : a ∈ xs :=
  (mem_of_mem_foldl_put h).resolve_left List.not_mem_nil

theorem ofList_snoc (xs : List α) (a : α) :
    (ofList (xs ++ [a]) : Roster α key) = (ofList xs).put a := by
  rw [ofList, List.foldl_append]
  rfl

/-- The names stand in the order in which they first came. -/
theorem keys_ofList (xs : List α) : (ofList xs : Roster α key).keys = (xs.map key).eraseDups := by
  induction xs using List.reverseRecOn with
  | nil => rfl
  | append_singleton xs a ih =>
    have hmap : (xs ++ [a]).map key = xs.map key ++ [key a] := List.map_append
    rw [ofList_snoc, keys_put, ih, hmap, eraseDups_snoc]
    simp only [List.mem_eraseDups]

/-- Of the entries of a name the last one is found. -/
theorem find?_ofList (xs : List α) (k : String) :
    (ofList xs : Roster α key).find? k = xs.reverse.find? fun x => key x == k := by
  induction xs using List.reverseRecOn with
  | nil => rfl
  | append_singleton xs a ih =>
    rw [ofList_snoc, List.reverse_concat, List.find?_cons]
    by_cases hk : key a = k
    · subst hk
      rw [find?_put_self, beq_self_eq_true]
    · rw [find?_put_of_ne hk, ih, beq_false_of_ne hk]

end Hydration.Roster
