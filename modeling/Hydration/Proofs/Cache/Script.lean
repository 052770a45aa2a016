import Hydration.Workspace
import Mathlib.Data.List.DropRight

/-!
# Scripts on a cache

Whoever uses a cache follows a script: it looks mappers up, finds or builds them, counts them and
clears the cache, and what it does next may depend on every answer.  What builds a mapper is a
script as well, so scripts nest to any depth.

`run` is what a script does to a workspace.  `history` tells it moment by moment, in the order of
time: what was found, built, stored and given.  Of a history, `first?` is the mapper that was
stored first for a key and a target since the cache was last cleared.

    first? (past ++ [.cleared]) k i = none                                       (first?_cleared)
    first? (past ++ [m]) k i = (first? past k i).or (m.storedFor? k i)  otherwise  (first?_snoc)
-/

namespace Hydration

variable {ι : Type} {E : ι → Type}

/-! ## Algorithm -/

/-- What is done on a cache, up to a result. -/
inductive Script (E : ι → Type) : Type → Type 1 where
  | done {α : Type} (a : α) : Script E α
  /-- Looks a mapper up. -/
  | find {α : Type} (key : CacheKey) (target : ι)
      (next : Option (Stored (E target)) → Script E α) : Script E α
  /-- Finds a mapper, or else builds and stores one. -/
  | getOrBuild {α : Type} (key : CacheKey) (target : ι)
      (build : Script E (Except Error (Mapper (E target))))
      (next : Except Error (Stored (E target)) → Script E α) : Script E α
  | count {α : Type} (next : Nat → Script E α) : Script E α
  | clear {α : Type} (next : Script E α) : Script E α
  /-- Does anything else, leaving the cache alone. -/
  | other {α β : Type} (step : Workspace E → β × Workspace E)
      (cache_step : ∀ w, (step w).2.cache = w.cache) (next : β → Script E α) : Script E α

/-- What happens on a cache. -/
inductive Moment (E : ι → Type) where
  /-- A look-up answers. -/
  | found (key : CacheKey) (target : ι) (answer : Option (Stored (E target)))
  /-- What was to build a mapper has ended. -/
  | built (key : CacheKey) (target : ι) (result : Except Error (Mapper (E target)))
  /-- A built mapper is stored. -/
  | stored (key : CacheKey) (target : ι) (mapper : Stored (E target))
  /-- A call that finds or builds a mapper returns. -/
  | given (key : CacheKey) (target : ι) (answer : Except Error (Stored (E target)))
  | counted (n : Nat)
  | cleared

section
variable [DecidableEq ι]

namespace Script

/-- What a script does to a workspace, and its result. -/
def run : {α : Type} → Script E α → Workspace E → α × Workspace E
  | _, done a, w => (a, w)
  | _, find key target next, w => run (next (w.cache.find? key target)) w
  | _, getOrBuild key target build next, w =>
    let (answer, w) := Workspace.getOrBuild key target (run build) w
    run (next answer) w
  | _, count next, w => run (next w.cache.size) w
  | _, clear next, w => run next { w with cache := w.cache.clear }
  | _, other step _ next, w =>
    let (b, w) := step w
    run (next b) w

/-- The storing of what was built, unless there is a mapper already. -/
def storing (key : CacheKey) (target : ι) :
    Except Error (Mapper (E target)) × Workspace E → List (Moment E)
  | (.error _, _) => []
  | (.ok m, w) =>
    match w.cache.find? key target with
    | some _ => []
    | none => [.stored key target (w.cache.store key target m).1]

/-- What happens in place of a mapper that is not found: `built` is what happens while one is
built, and `ended` is how that ends. -/
def onMiss (key : CacheKey) (target : ι) (w : Workspace E) (built : List (Moment E))
    (ended : Except Error (Mapper (E target)) × Workspace E) : List (Moment E) :=
  match w.cache.find? key target with
  | some _ => []
  | none => built ++ .built key target ended.1 :: storing key target ended

/-- What happens while a script runs, in the order of time. -/
def history : {α : Type} → Script E α → Workspace E → List (Moment E)
  | _, done _, _ => []
  | _, find key target next, w =>
    .found key target (w.cache.find? key target) :: history (next (w.cache.find? key target)) w
  | _, getOrBuild key target build next, w =>
    let (answer, w') := Workspace.getOrBuild key target (run build) w
    onMiss key target w (history build w) (run build w) ++
      .given key target answer :: history (next answer) w'
  | _, count next, w => .counted w.cache.size :: history (next w.cache.size) w
  | _, clear next, w => .cleared :: history next { w with cache := w.cache.clear }
  | _, other step _ next, w => history (next (step w).1) (step w).2

end Script

namespace Moment

def isClear : Moment E → Bool
  | cleared => true
  | _ => false

/-- The mapper that is stored at the moment, if it is for this key and target. -/
def storedFor? (key : CacheKey) (target : ι) : Moment E → Option (Stored (E target))
  | stored k i s => if k = key then if h : i = target then some (h ▸ s) else none else none
  | _ => none

/-- The key and the target for which a mapper is stored at the moment. -/
def pair? : Moment E → Option (CacheKey × ι)
  | stored k i _ => some (k, i)
  | _ => none

end Moment

/-- The moments since the cache was last cleared. -/
def sinceClear (past : List (Moment E)) : List (Moment E) := past.rtakeWhile fun m => !m.isClear

/-- The mapper that was stored first for a key and a target since the cache was last cleared. -/
def first? (past : List (Moment E)) (key : CacheKey) (target : ι) : Option (Stored (E target)) :=
  (sinceClear past).findSome? (Moment.storedFor? key target)

/-- The keys and targets for which mappers were stored since the cache was last cleared. -/
def pairs (past : List (Moment E)) : List (CacheKey × ι) :=
  (sinceClear past).filterMap Moment.pair?

end

/-! ## Lemmas -/

variable {past : List (Moment E)} {k k' : CacheKey} {i j : ι}

theorem sinceClear_cleared (past : List (Moment E)) : sinceClear (past ++ [.cleared]) = [] :=
  List.rtakeWhile_concat_neg _ _ _ nofun

theorem sinceClear_snoc {m : Moment E} (h : m.isClear = false) :
    sinceClear (past ++ [m]) = sinceClear past ++ [m] :=
  List.rtakeWhile_concat_pos _ _ _ (by rw [h]; rfl)

theorem pairs_cleared (past : List (Moment E)) : pairs (past ++ [.cleared]) = [] := by
  rw [pairs, sinceClear_cleared, List.filterMap_nil]

theorem pairs_snoc {m : Moment E} (h : m.isClear = false) :
    pairs (past ++ [m]) = pairs past ++ m.pair?.toList := by
  rw [pairs, pairs, sinceClear_snoc h, List.filterMap_append]
  cases m <;> rfl

variable [DecidableEq ι]

theorem storedFor?_self (k : CacheKey) (i : ι) (s : Stored (E i)) :
    (Moment.stored k i s).storedFor? k i = some s := by
  simp [Moment.storedFor?]

theorem storedFor?_of_ne {s : Stored (E i)} (h : (k', j) ≠ (k, i)) :
    (Moment.stored k i s).storedFor? k' j = none := by
  simp only [Moment.storedFor?]
  split
  · rename_i hk
    rw [dif_neg]
    rintro rfl
    exact h (Prod.ext hk.symm rfl)
  · rfl

theorem first?_cleared (past : List (Moment E)) (k : CacheKey) (i : ι) :
    first? (past ++ [.cleared]) k i = none := by
  rw [first?, sinceClear_cleared, List.findSome?_nil]

theorem first?_snoc {m : Moment E} (h : m.isClear = false) (k : CacheKey) (i : ι) :
    first? (past ++ [m]) k i = (first? past k i).or (m.storedFor? k i) := by
  rw [first?, first?, sinceClear_snoc h, List.findSome?_append, List.findSome?_singleton]

/-- A mapper that was stored stays the first until the cache is cleared. -/
theorem first?_append_of_some {s : Stored (E i)} (h : first? past k i = some s)
    {more : List (Moment E)} (hmore : .cleared ∉ more) : first? (past ++ more) k i = some s := by
  induction more using List.reverseRecOn with
  | nil => rwa [List.append_nil]
  | append_singleton more m ih =>
    rw [List.mem_append, not_or, List.mem_singleton] at hmore
    have hm : m.isClear = false := by
      cases m <;> first | rfl | exact absurd rfl hmore.2
    rw [← List.append_assoc, first?_snoc hm, ih hmore.1, Option.some_or]

/-- A mapper that is the first was stored. -/
theorem stored_mem_of_first? {s : Stored (E i)} (h : first? past k i = some s) :
    .stored k i s ∈ past := by
  obtain ⟨m, hm, hs⟩ := List.exists_of_findSome?_eq_some h
  have hmem : m ∈ past := (List.rtakeWhile_suffix _ past).subset hm
  cases m with
  | stored k' j s' =>
    by_cases hne : (k, i) = (k', j)
    · cases hne
      rw [storedFor?_self] at hs
      cases hs
      exact hmem
    · rw [storedFor?_of_ne hne] at hs
      cases hs
  | _ => cases hs

/-- No mapper is the first for a key and a target that none was stored for. -/
theorem first?_eq_none_iff : first? past k i = none ↔ (k, i) ∉ pairs past := by
  rw [first?, List.findSome?_eq_none_iff, pairs, List.mem_filterMap, not_exists]
  refine forall_congr' fun m => ?_
  rw [not_and]
  refine imp_congr_right fun _ => ?_
  cases m with
  | stored k' j s =>
    by_cases hne : (k, i) = (k', j)
    · cases hne
      rw [storedFor?_self]
      exact iff_of_false nofun (fun h => h rfl)
    · rw [storedFor?_of_ne hne]
      exact iff_of_true rfl fun h => hne (Option.some.inj h).symm
  | _ => exact iff_of_true rfl nofun

end Hydration
