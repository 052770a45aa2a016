import Hydration.Text.Blank
import Mathlib.Data.List.DropRight

/-!
# What trimming leaves

A text is some blanks, a core that no blank begins or ends, and some blanks again.  There is one
such core, and trimming gives it.

    trim cs = core  ↔  Trims cs core                       (trim_eq_iff)
    Bare cs → Trims cs cs                                  (Bare.trims)
-/

namespace Hydration.Text

/-! ## Algorithm -/

/-- No blank stands at either end. -/
structure Bare (cs : List Char) : Prop where
  head : ∀ c, cs.head? = some c → isBlank c = false
  last : ∀ c, cs.getLast? = some c → isBlank c = false

instance (cs : List Char) : Decidable (Bare cs) :=
  decidable_of_iff (cs.head?.any isBlank = false ∧ cs.getLast?.any isBlank = false) <| by
    rw [Option.any_eq_false, Option.any_eq_false]
    exact ⟨fun ⟨head, last⟩ => ⟨head, last⟩, fun h => ⟨h.head, h.last⟩⟩

/-- `core` is what a text holds between the blanks at its ends. -/
inductive Trims : (cs core : List Char) → Prop
  | intro {front core back : List Char} (blank_front : ∀ c ∈ front, isBlank c = true)
      (blank_back : ∀ c ∈ back, isBlank c = true) (bare : Bare core) :
      Trims (front ++ core ++ back) core

/-! ## Lemmas -/

variable {cs core back : List Char}

theorem trimEnd_concat (cs : List Char) (c : Char) :
    trimEnd (cs ++ [c]) = if isBlank c then trimEnd cs else cs ++ [c] := by
  induction cs with
  | nil => cases h : isBlank c <;> simp [trimEnd, h]
  | cons d cs ih =>
    rw [List.cons_append, trimEnd, ih]
    cases h : isBlank c <;> simp [trimEnd]

/-- Trimming at the end, which recurs from the front, drops from the back. -/
theorem trimEnd_eq_rdropWhile (cs : List Char) : trimEnd cs = cs.rdropWhile isBlank := by
  induction cs using List.reverseRecOn with
  | nil => rfl
  | append_singleton cs c ih => rw [trimEnd_concat, List.rdropWhile_concat, ih]

theorem trimEnd_append_of_blank (h : ∀ c ∈ back, isBlank c = true) (cs : List Char) :
    trimEnd (cs ++ back) = trimEnd cs := by
  induction back using List.reverseRecOn with
  | nil => rw [List.append_nil]
  | append_singleton back c ih =>
    rw [← List.append_assoc, trimEnd_concat, if_pos (h c (by simp))]
    exact ih fun d hd => h d (List.mem_append_left _ hd)

theorem Bare.trimEnd_eq (h : Bare core) : trimEnd core = core := by
  rw [trimEnd_eq_rdropWhile, List.rdropWhile_eq_self_iff]
  intro hne
  rw [h.last _ (List.getLast?_eq_some_getLast hne)]
  exact Bool.false_ne_true

theorem Bare.trimEnd_dropWhile (h : Bare core) (hback : ∀ c ∈ back, isBlank c = true) :
    trimEnd ((core ++ back).dropWhile isBlank) = core := by
  cases core with
  | nil =>
    rw [List.nil_append, List.dropWhile_eq_nil_iff.2 hback]
    rfl
  | cons c core =>
    have hc : ¬isBlank c = true := by
      rw [h.head c rfl]
      exact Bool.false_ne_true
    rw [List.cons_append, List.dropWhile_cons_of_neg hc, ← List.cons_append,
      trimEnd_append_of_blank hback, h.trimEnd_eq]

/-- What trimming leaves at the end is no blank. -/
theorem last_trimEnd {c : Char} (h : (trimEnd cs).getLast? = some c) : isBlank c = false := by
  rw [trimEnd_eq_rdropWhile] at h
  have hne : cs.rdropWhile isBlank ≠ [] := by
    intro hnil
    rw [hnil] at h
    cases h
  rw [List.getLast?_eq_some_getLast hne, Option.some.injEq] at h
  rw [← h]
  exact Bool.eq_false_iff.2 (List.rdropWhile_last_not isBlank cs hne)

theorem trims_trim (cs : List Char) : Trims cs (trim cs) := by
  let front := cs.takeWhile isBlank
  let back := (cs.dropWhile isBlank).rtakeWhile isBlank
  have hsplit : front ++ trim cs ++ back = cs := by
    rw [trim, trimEnd_eq_rdropWhile, List.append_assoc, List.rdropWhile_append_rtakeWhile,
      List.takeWhile_append_dropWhile]
  have hbare : Bare (trim cs) := ⟨fun _ => trim_head, fun _ => last_trimEnd⟩
  have htrims : Trims (front ++ trim cs ++ back) (trim cs) :=
    .intro (fun _ => List.mem_takeWhile_imp) (fun _ => List.mem_rtakeWhile_imp) hbare
  rwa [hsplit] at htrims

/-! ## Top theorems -/

/-- Trimming gives the core between the blanks. -/
theorem trim_eq_iff : trim cs = core ↔ Trims cs core := by
  constructor
  · rintro rfl
    exact trims_trim cs
  · rintro ⟨hfront, hback, hbare⟩
    rw [trim, List.append_assoc, List.dropWhile_append_of_pos hfront]
    exact hbare.trimEnd_dropWhile hback

/-- A text that no blank begins or ends is its own core. -/
theorem Bare.trims (h : Bare cs) : Trims cs cs := by
  have htrims : Trims ([] ++ cs ++ []) cs := .intro (by simp) (by simp) h
  rwa [List.nil_append, List.append_nil] at htrims

end Hydration.Text
