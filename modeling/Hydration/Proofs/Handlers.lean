import Hydration.Handler.Stock
import Hydration.Proofs.Reading
import Hydration.Proofs.Registry
import Hydration.Proofs.Traversal

/-!
# What handlers look at

A handler is given the whole row.  A local one looks, of all cells, only at the cell that it is
asked for; a uniform one gives the same wherever in a row that cell stands.  A coercion that was
resolved from a registry of such handlers is local or uniform itself, for what it does beside its
handler depends on the cell alone.

    handler_of_resolve      the handler of a coercion is one of the registry or an enumeration's
    Coercion.read_congr     a coercion reads two cells alike when they are equal and its handler does
-/

namespace Hydration

open Traversal

namespace Handler

/-! ## Algorithm -/

/-- Of the cells of a row the handler looks only at the one that it is asked for. -/
def Local (h : Handler) : Prop :=
  ∀ row row' index kind, row'.columns = row.columns → row'.cell index = row.cell index →
    (h.read row' index kind).result = (h.read row index kind).result

/-- What the handler gives depends on the cell, its column's name and kind, and the wanted kind. -/
def Uniform (h : Handler) : Prop :=
  ∀ row row' i j kind v, row.cell i = .ok v → row'.cell j = .ok v →
    row'.columnName j = row.columnName i → row'.columnKind j = row.columnKind i →
      (h.read row' j kind).result = (h.read row i kind).result

/-! ## Lemmas -/

theorem result_ofEnumeration (e : Enumeration) (row : Row) (index : Nat) (kind : Kind) :
    ((ofEnumeration e).read row index kind).result = (row.cell index).bind e.convert :=
  Reading.result_bind _ _

theorem local_ofEnumeration (e : Enumeration) : (ofEnumeration e).Local := by
  intro row row' index kind _ hcell
  rw [result_ofEnumeration, result_ofEnumeration, hcell]

theorem uniform_ofEnumeration (e : Enumeration) : (ofEnumeration e).Uniform := by
  intro row row' i j kind v hi hj _ _
  rw [result_ofEnumeration, result_ofEnumeration, hi, hj]

theorem uniform_reading (label : String) (kind : Kind) (f : Value → Except Error Value) :
    (reading label kind f).Uniform := by
  have hread : ∀ row index wanted, ((reading label kind f).read row index wanted).result =
      (row.cell index).bind f := fun _ _ _ => Reading.result_bind _ _
  intro row row' i j wanted v hi hj _ _
  rw [hread, hread, hi, hj]

end Handler

/-- Every handler that can be found in the registry satisfies `P`. -/
structure Registry.Every (r : Registry) (P : Handler → Prop) : Prop where
  named : ∀ name h, r.findNamed name = .ok h → P h
  byKinds : ∀ k c h, r.find? k c = some h → P h

theorem Registry.Every.empty (P : Handler → Prop) : Registry.Every {} P :=
  ⟨fun _ _ h => absurd h nofun, fun _ _ _ h => absurd h nofun⟩

theorem Registry.Every.registerNamed {r : Registry} {P : Handler → Prop} (hr : r.Every P)
    (name : String) {h : Handler} (hh : P h) : (r.registerNamed name h).Every P := by
  refine ⟨fun other found hfound => ?_, hr.byKinds⟩
  by_cases hn : other = name
  · subst hn
    simp only [findNamed, Registry.registerNamed, List.lookup_cons_self, Except.ok.injEq] at hfound
    exact hfound ▸ hh
  · refine hr.named other found ?_
    rw [← hfound]
    simp only [findNamed, Registry.registerNamed, List.lookup_cons, beq_eq_false_iff_ne.2 hn]

namespace Coercion

variable {r : Registry} {P : Handler → Prop} {slot column : Kind} {nullable : Bool}
  {named : Option String} {c : Coercion} {h : Handler}

theorem handler_of_resolve (hr : r.Every P) (he : ∀ e, P (.ofEnumeration e))
    (hc : (resolve r slot nullable column named).1 = .ok c) (hh : c.handler? = some h) : P h := by
  cases named with
  | some name =>
    rw [resolve_some, map_eq_ok_iff] at hc
    obtain ⟨found, hfound, rfl⟩ := hc
    cases hh
    exact hr.named name h hfound
  | none =>
    rcases enum_or_not slot with ⟨e, rfl⟩ | hs
    · rw [resolve_none_of_enum, Except.ok.injEq] at hc
      subst hc
      cases hh
      rw [Registry.forEnumeration_fst]
      cases hf : r.find? (.enum e) .any with
      | none => exact he e
      | some found => exact hr.byKinds _ _ _ hf
    · rw [resolve_none_of_not_enum r _ _ hs, Except.ok.injEq] at hc
      subst hc
      split at hh
      · cases nullable <;> cases hh
      · split at hh
        · cases hh
          exact hr.byKinds _ _ _ ‹_›
        · split at hh
          · cases hh
            exact hr.byKinds _ _ _ ‹_›
          · cases hh

/-- A coercion reads two cells alike when they are equal and its handler reads them alike. -/
theorem read_congr {row row' : Row} {i j : Nat} (hcell : row'.cell j = row.cell i)
    (hh : ∀ h, c.handler? = some h →
      (h.read row' j slot).result = (h.read row i slot).result) :
    (c.read row' j slot nullable).result = (c.read row i slot nullable).result := by
  cases c with
  | directRead | nullableUnwrap | object =>
    simp only [read, Reading.result_bind, Row.read, hcell]
  | enum h =>
    simp only [read, Reading.result_bind, hh h rfl]
  | handler name h => exact hh h rfl

end Coercion

end Hydration
