import Hydration.Coercion

/-!
# Registries that grow

Resolving a coercion registers the handler of an enumeration when it is first seen, and
does nothing else to a registry.  `r.Extends s` says that `s` is `r` with handlers of
further enumerations.  No rule of resolution can tell the two apart:

    (resolve r slot nullable column named).1
      = (resolve s slot nullable column named).1          if r.Extends s   (resolve_fst_of_extends)
    r.Extends (resolve r slot nullable column named).2                    (extends_resolve)
-/

namespace Hydration

namespace Registry

/-- `s` is `r` with the handlers of further enumerations, each of which satisfies `P`. -/
structure Extends (r s : Registry) (P : Enumeration → Prop := fun _ => True) : Prop where
  named : s.named = r.named
  find? : ∀ k c, s.find? k c = r.find? k c ∨
    ∃ e, P e ∧ k = .enum e ∧ c = .any ∧ r.find? k c = none ∧ s.find? k c = some (.ofEnumeration e)

variable {r s u : Registry} {P : Enumeration → Prop}

namespace Extends

theorem refl (r : Registry) (P : Enumeration → Prop) : r.Extends r P :=
  ⟨rfl, fun _ _ => .inl rfl⟩

theorem trans (h : r.Extends s P) (h' : s.Extends u P) : r.Extends u P := by
  refine ⟨h'.named.trans h.named, fun k c => ?_⟩
  rcases h'.find? k c with hu | ⟨e, he, hk, hc, hs, hu⟩
  · rw [hu]
    exact h.find? k c
  · rcases h.find? k c with hr | ⟨e', _, _, _, _, hs'⟩
    · exact .inr ⟨e, he, hk, hc, hr ▸ hs, hu⟩
    · rw [hs] at hs'
      cases hs'

/-- Handlers for slots that are not of an enumeration stay as they are. -/
theorem find?_of_not_enum (h : r.Extends s P) {k c : Kind} (hk : ∀ e, k ≠ .enum e) :
    s.find? k c = r.find? k c := by
  rcases h.find? k c with hs | ⟨e, _, he, _⟩
  · exact hs
  · exact absurd he (hk e)

theorem findNamed (h : r.Extends s P) (name : String) : s.findNamed name = r.findNamed name := by
  simp only [Registry.findNamed, h.named]

end Extends

theorem forEnumeration_fst (r : Registry) (e : Enumeration) :
    (r.forEnumeration e).1 = (r.find? (.enum e) .any).getD (.ofEnumeration e) := by
  unfold forEnumeration
  cases r.find? (.enum e) .any <;> rfl

/-- The handler of an enumeration is the same before and after it is registered. -/
theorem Extends.forEnumeration (h : r.Extends s P) (e : Enumeration) :
    (s.forEnumeration e).1 = (r.forEnumeration e).1 := by
  rw [forEnumeration_fst, forEnumeration_fst]
  rcases h.find? (.enum e) .any with hs | ⟨e', _, hk, _, hr, hs⟩
  · rw [hs]
  · cases hk
    rw [hr, hs]
    rfl

theorem extends_forEnumeration (r : Registry) {e : Enumeration} (he : P e) :
    r.Extends (r.forEnumeration e).2 P := by
  unfold forEnumeration
  cases hf : r.find? (.enum e) .any with
  | some x => exact .refl r P
  | none =>
    refine ⟨rfl, fun k c => ?_⟩
    by_cases hkc : (k, c) = (.enum e, .any)
    · cases hkc
      exact .inr ⟨e, he, rfl, rfl, hf, find?_register_self r _ _ _⟩
    · exact .inl (find?_register_of_ne hkc)

end Registry

namespace Coercion

variable {r s : Registry} {P : Enumeration → Prop}

/-- The coercion that is resolved for a slot when no handler is named, as a function of the
handlers that are found. -/
theorem resolve_none_of_not_enum (r : Registry) {slot : Kind} (nullable : Bool) (column : Kind)
    (hs : ∀ e, slot ≠ .enum e) :
    resolve r slot nullable column none =
      (.ok (if slot = column then if nullable then nullableUnwrap else directRead
        else
          match r.find? slot column with
          | some h => handler (slot.name ++ "<-" ++ column.name) h
          | none =>
            match r.find? slot .any with
            | some h => handler (slot.name ++ "<-" ++ Kind.any.name) h
            | none => object), r) := by
  unfold resolve
  cases slot with
  | enum e => exact absurd rfl (hs e)
  | _ =>
    simp only
    split
    · rfl
    · split
      · simp only [*]
      · split <;> simp only [*]

theorem resolve_none_of_enum (r : Registry) (e : Enumeration) (nullable : Bool) (column : Kind) :
    resolve r (.enum e) nullable column none =
      (.ok (enum (r.forEnumeration e).1), (r.forEnumeration e).2) := rfl

theorem resolve_some (r : Registry) (slot : Kind) (nullable : Bool) (column : Kind)
    (name : String) :
    resolve r slot nullable column (some name) = ((r.findNamed name).map (handler name), r) := rfl

/-- A slot is of an enumeration or it is not. -/
theorem enum_or_not (slot : Kind) : (∃ e, slot = .enum e) ∨ ∀ e, slot ≠ .enum e := by
  cases slot with
  | enum e => exact .inl ⟨e, rfl⟩
  | _ => exact .inr fun e h => by cases h

/-- Handlers of enumerations that were registered meanwhile change no coercion. -/
theorem resolve_fst_of_extends (h : r.Extends s P) (slot : Kind) (nullable : Bool) (column : Kind)
    (named : Option String) :
    (resolve s slot nullable column named).1 = (resolve r slot nullable column named).1 := by
  cases named with
  | some name => rw [resolve_some, resolve_some, h.findNamed]
  | none =>
    rcases enum_or_not slot with ⟨e, rfl⟩ | hs
    · rw [resolve_none_of_enum, resolve_none_of_enum, h.forEnumeration]
    · rw [resolve_none_of_not_enum s _ _ hs, resolve_none_of_not_enum r _ _ hs,
        h.find?_of_not_enum hs, h.find?_of_not_enum hs]

/-- The handlers for kinds and the handler that is named decide the coercion. -/
theorem resolve_fst_congr (hkinds : s.byKinds = r.byKinds) {slot column : Kind} {nullable : Bool}
    {named : Option String}
    (hnamed : ∀ name, named = some name → s.findNamed name = r.findNamed name) :
    (resolve s slot nullable column named).1 = (resolve r slot nullable column named).1 := by
  have hfind : ∀ k c, s.find? k c = r.find? k c := by
    intro k c
    rw [Registry.find?, Registry.find?, hkinds]
  cases named with
  | some name => rw [resolve_some, resolve_some, hnamed name rfl]
  | none =>
    rcases enum_or_not slot with ⟨e, rfl⟩ | hs
    · rw [resolve_none_of_enum, resolve_none_of_enum, Registry.forEnumeration_fst,
        Registry.forEnumeration_fst, hfind]
    · rw [resolve_none_of_not_enum s _ _ hs, resolve_none_of_not_enum r _ _ hs, hfind, hfind]

/-- Resolving registers at most the handler of the slot's enumeration, and only when no handler
is named. -/
theorem extends_resolve (r : Registry) (slot : Kind) (nullable : Bool) (column : Kind)
    (named : Option String) (hP : ∀ e, named = none → slot = .enum e → P e) :
    r.Extends (resolve r slot nullable column named).2 P := by
  cases named with
  | some name => exact .refl r P
  | none =>
    rcases enum_or_not slot with ⟨e, rfl⟩ | hs
    · exact r.extends_forEnumeration (hP e rfl rfl)
    · rw [resolve_none_of_not_enum r _ _ hs]
      exact .refl r P

end Coercion

end Hydration
