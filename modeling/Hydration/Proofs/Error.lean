import Hydration.Error
import Mathlib.Data.List.Induction

/-!
# Errors with contexts around them

Contexts are errors themselves, and may have contexts of their own.  Of a context its outermost
fault is taken, or, while the context is in use elsewhere, the words of that fault.  What is shown
is the same; what the new error can be told apart by is not.

    (e.wrap w).message = w.error.outer.message ++ ": " ++ e.message          (message_wrap)
    (e.wrapAll ws).message = ": ".intercalate (e.segments ws)                (message_wrapAll)
    every error is a single fault with contexts around it                    (exists_wrapAll)
-/

namespace Hydration

/-! ## Algorithm -/

/-- An error that is put around others, and whether it is in use elsewhere at the time. -/
structure Context where
  error : Error
  shared : Bool

/-- What is taken of a context. -/
def Context.taken (w : Context) : Error :=
  if w.shared then .adhoc w.error.outer.message else w.error

namespace Error

/-- `e` with a context around it. -/
def wrap (e : Error) (w : Context) : Error :=
  if w.shared then e.contextShared w.error else e.context w.error

/-- `e` with contexts around it, the last one outermost. -/
def wrapAll (e : Error) (ws : List Context) : Error := ws.foldl wrap e

/-- What is shown of `e` with contexts around it: the most recent one first, and `e` last. -/
def segments (e : Error) (ws : List Context) : List String :=
  (ws.map fun w => w.error.outer.message).reverse ++ [e.message]

/-! ## Lemmas -/

/-- A shared context is one that was told in the same words. -/
theorem wrap_eq_context (e : Error) (w : Context) : e.wrap w = e.context w.taken := by
  unfold wrap Context.taken
  cases w.shared <;> rfl

theorem message_outer_taken (w : Context) :
    w.taken.outer.message = w.error.outer.message := by
  unfold Context.taken
  cases w.shared <;> rfl

theorem message_wrap (e : Error) (w : Context) :
    (e.wrap w).message = w.error.outer.message ++ ": " ++ e.message := by
  rw [wrap_eq_context, message_context, message_outer_taken]

theorem root_wrap (e : Error) (w : Context) : (e.wrap w).root = e.root := by
  rw [wrap_eq_context, root_context]

theorem is_wrap (e : Error) (w : Context) (k : Fault.Category) :
    (e.wrap w).is k =
      if w.shared then (adhoc w.error.outer.message).is k else w.error.is k := by
  rw [wrap_eq_context]
  unfold Context.taken
  cases w.shared <;> rfl

theorem wrapAll_snoc (e : Error) (ws : List Context) (w : Context) :
    e.wrapAll (ws ++ [w]) = (e.wrapAll ws).wrap w := by
  rw [wrapAll, List.foldl_append, wrapAll]
  rfl

theorem segments_snoc (e : Error) (ws : List Context) (w : Context) :
    e.segments (ws ++ [w]) = w.error.outer.message :: e.segments ws := by
  simp only [segments, List.map_append, List.map_cons, List.map_nil, List.reverse_concat,
    List.cons_append]

theorem length_segments (e : Error) (ws : List Context) :
    (e.segments ws).length = ws.length + 1 := by
  rw [segments, List.length_append, List.length_reverse, List.length_map]
  rfl

/-- Contexts are shown before what they are around, each behind the next. -/
theorem message_wrapAll (e : Error) (ws : List Context) :
    (e.wrapAll ws).message = ": ".intercalate (e.segments ws) := by
  induction ws using List.reverseRecOn with
  | nil => exact (String.intercalate_singleton).symm
  | append_singleton ws w ih =>
    have hne : e.segments ws ≠ [] := List.append_ne_nil_of_right_ne_nil _ (List.cons_ne_nil _ _)
    rw [wrapAll_snoc, message_wrap, ih, segments_snoc, String.intercalate_cons_of_ne_nil hne]

theorem root_wrapAll (e : Error) (ws : List Context) : (e.wrapAll ws).root = e.root := by
  induction ws using List.reverseRecOn with
  | nil => rfl
  | append_singleton ws w ih => rw [wrapAll_snoc, root_wrap, ih]

/-- Every error is a single fault with contexts around it, one for each further fault. -/
theorem exists_wrapAll (e : Error) :
    ∃ f ws, e = (of f).wrapAll ws ∧ ws.length = e.causes.length := by
  obtain ⟨outer, causes⟩ := e
  induction causes generalizing outer with
  | nil => exact ⟨outer, [], rfl, rfl⟩
  | cons cause rest ih =>
    obtain ⟨f, ws, he, hlength⟩ := ih cause
    refine ⟨f, ws ++ [⟨of outer, false⟩], ?_, ?_⟩
    · rw [wrapAll_snoc, ← he]
      rfl
    · rw [List.length_append, hlength]
      rfl

/-! ## Top theorems -/

/-- A context is shown in front of the error that it is around, by its outermost fault, and leaves
the first fault and its category alone.  The new error is of the category of the context, and adhoc
when the context is in use elsewhere; what is shown is the same.  With `n` contexts around it an
error shows `n + 1` segments, itself last; and every error is a single fault with contexts around
it. -/
theorem context_chains (e : Error) (w : Context) (ws : List Context) :
    (e.wrap w).message = w.error.outer.message ++ ": " ++ e.message ∧
    (e.wrap w).root = e.root ∧ (∀ k, (e.wrap w).root.is k = e.root.is k) ∧
    (∀ k, (e.wrap w).is k =
      if w.shared then (adhoc w.error.outer.message).is k else w.error.is k) ∧
    (e.contextShared w.error).message = (e.context w.error).message ∧
    ((e.wrapAll ws).message = ": ".intercalate (e.segments ws) ∧
      (e.segments ws).length = ws.length + 1 ∧ (e.wrapAll ws).root = e.root) ∧
    ∃ f layers, e = (of f).wrapAll layers ∧ layers.length = e.causes.length := by
  have hroot := e.root_wrap w
  refine ⟨e.message_wrap w, hroot, fun k => by rw [hroot], e.is_wrap w, ?_,
    ⟨e.message_wrapAll ws, e.length_segments ws, e.root_wrapAll ws⟩, e.exists_wrapAll⟩
  calc (e.contextShared w.error).message
      = w.error.outer.message ++ ": " ++ e.message := e.message_wrap ⟨w.error, true⟩
    _ = (e.context w.error).message := (e.message_wrap ⟨w.error, false⟩).symm

end Error

end Hydration
