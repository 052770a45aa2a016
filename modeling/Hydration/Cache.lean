import Hydration.Mapper

/-!
# The mapper cache

Mappers by key and target.  `E` gives the records of each target.  A mapper of any
target's records is kept with a tag of its target, and is given back by that tag only;
what is filed under a target has the target's tag.  Entries stay until the cache is
cleared.  A mapper gets a serial number when it is stored, by which one mapper can be
told from another of the same key; the numbers go on after the cache is cleared.

    c.entry? k i = some e → ∃ s, e.erased.downcast? i = some s      (downcast?_of_entry?)
    (c.store k i m).2.find? k i = some (c.store k i m).1            (find?_store_self)
    (k', j) ≠ (k, i) → (c.store k i m).2.find? k' j = c.find? k' j  (find?_store_of_ne)
-/

namespace Hydration

variable {ι : Type} {E : ι → Type}

/-- A mapper in a cache. -/
structure Stored (ρ : Type) where
  serial : Nat
  mapper : Mapper ρ

/-- A stored mapper of the records of some target, told by a tag. -/
structure Erased (E : ι → Type) where
  tag : ι
  stored : Stored (E tag)

/-- The mapper, if its tag is the target. -/
def Erased.downcast? [DecidableEq ι] (x : Erased E) (target : ι) : Option (Stored (E target)) :=
  if h : x.tag = target then some (h ▸ x.stored) else none

/-- A stored mapper, filed under its key and its target. -/
structure CacheEntry (E : ι → Type) where
  key : CacheKey
  target : ι
  erased : Erased E
  tag_eq : erased.tag = target

/-- Mappers by key and target, the newest first. -/
structure MapperCache (E : ι → Type) where
  entries : List (CacheEntry E) := []
  /-- Mappers stored so far, cleared ones included. -/
  issued : Nat := 0

namespace MapperCache

/-! ## Algorithm -/

def empty : MapperCache E := ⟨[], 0⟩

section
variable [DecidableEq ι]

/-- What is filed under a key and a target. -/
def entry? (c : MapperCache E) (key : CacheKey) (target : ι) : Option (CacheEntry E) :=
  c.entries.find? fun e => decide (e.key = key ∧ e.target = target)

/-- The mapper stored for a key and a target. -/
def find? (c : MapperCache E) (key : CacheKey) (target : ι) : Option (Stored (E target)) :=
  (c.entry? key target).bind fun e => e.erased.downcast? target

end

/-- Stores a mapper under a key and a target. -/
def store (c : MapperCache E) (key : CacheKey) (target : ι) (m : Mapper (E target)) :
    Stored (E target) × MapperCache E :=
  let stored := ⟨c.issued, m⟩
  (stored, ⟨⟨key, target, ⟨target, stored⟩, rfl⟩ :: c.entries, c.issued + 1⟩)

/-- Number of stored mappers. -/
def size (c : MapperCache E) : Nat := c.entries.length

/-- Forgets every mapper. -/
def clear (c : MapperCache E) : MapperCache E := { c with entries := [] }

/-- The shape of a cache for display. -/
def outline (c : MapperCache E) : Outline :=
  .record "MapperCache" [("len", .nat c.size)]

/-! ## Lemmas -/

variable [DecidableEq ι] {c : MapperCache E} {k k' : CacheKey} {i j : ι}

/-- What is filed under a target is a mapper of its records. -/
theorem downcast?_of_entry? {e : CacheEntry E} (h : c.entry? k i = some e) :
    ∃ s, e.erased.downcast? i = some s := by
  unfold entry? at h
  have matched := List.find?_some h
  simp only [decide_eq_true_eq] at matched
  exact ⟨_, dif_pos (e.tag_eq.trans matched.2)⟩

theorem find?_eq_none_iff : c.find? k i = none ↔ c.entry? k i = none := by
  unfold find?
  cases he : c.entry? k i with
  | none => exact iff_of_true rfl rfl
  | some e =>
    obtain ⟨s, hs⟩ := downcast?_of_entry? he
    rw [Option.bind_some, hs]
    exact iff_of_false nofun nofun

theorem find?_store_self (c : MapperCache E) (k : CacheKey) (i : ι) (m : Mapper (E i)) :
    (c.store k i m).2.find? k i = some (c.store k i m).1 := by
  simp [store, find?, entry?, Erased.downcast?]

theorem find?_store_of_ne {m : Mapper (E i)} (h : (k', j) ≠ (k, i)) :
    (c.store k i m).2.find? k' j = c.find? k' j := by
  have hne : decide (k = k' ∧ i = j) = false := decide_eq_false fun he =>
    h (Prod.ext he.1.symm he.2.symm)
  simp only [store, find?, entry?, List.find?_cons, hne]

theorem find?_of_entries_nil (h : c.entries = []) (k : CacheKey) (i : ι) : c.find? k i = none := by
  rw [find?_eq_none_iff, entry?, h, List.find?_nil]

theorem find?_clear (c : MapperCache E) (k : CacheKey) (i : ι) : c.clear.find? k i = none := rfl

end MapperCache

end Hydration
