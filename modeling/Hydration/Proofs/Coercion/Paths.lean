import Hydration.Proofs.Coercion
import Hydration.Proofs.Handlers
import Hydration.Source.Basic

/-!
# Coercions agree where they meet

The planner takes a short way to a cell where it can: it reads the cell as it is when the column
has the slot's kind, and by an enumeration's own handler when the slot is of an enumeration.  The
long way is to read the cell as it is found and to cast it.  Where both ways are open they come to
the same:

    (enum (.ofEnumeration e)).read row i (.enum e) nullable
      = object.read row i (.enum e) nullable                              (read_enumeration)
    (directRead.read row i slot nullable).result
      = (object.read row i slot nullable).result
          if the cell of a slot that is of no enumeration holds nothing
          but what the slot may hold                                      (result_read_direct)

The long way gives values of the slot's kind, and nothing for an empty cell only.
-/

namespace Hydration

open Traversal

/-! ## Algorithm -/

namespace Coercion

/-- The coercions that convert what they read, for a slot: a cast, and the enumeration's own
handler. -/
inductive Casts : Kind → Coercion → Prop
  | object {slot : Kind} : Casts slot .object
  | enum {e : Enumeration} : Casts (.enum e) (.enum (.ofEnumeration e))

/-- What the coercions for a slot have in common when they read the cell at an index. -/
structure PathsAgree (row : Row) (index : Nat) (slot : Kind) (nullable : Bool) : Prop where
  /-- Where nobody registered a handler for an enumeration, the registry's own reads like a cast,
  whether it is registered by now or not. -/
  enumeration : ∀ (e : Enumeration) (r s : Registry), slot = .enum e →
    r.find? (.enum e) .any = none → r.Extends s →
    (enum (s.forEnumeration e).1).read row index slot nullable =
      object.read row index slot nullable
  /-- A cell that holds what the slot may hold, or that cannot be read, is read directly as it is
  read by a cast. -/
  direct : (∀ e, slot ≠ .enum e) →
    (∀ v, row.cell index = .ok v → v = .null ∨ Kind.Inhabits v slot) →
    (directRead.read row index slot nullable).result =
        (object.read row index slot nullable).result ∧
      (nullableUnwrap.read row index slot nullable).result =
        (object.read row index slot nullable).result
  /-- What is read by a conversion is of the slot's kind or null, and null for an empty cell only
  whose slot may be empty or has no value of its own. -/
  value : ∀ c, Casts slot c → ∀ w, (c.read row index slot nullable).result = .ok w →
    (w = .null ∨ Kind.Inhabits w slot) ∧
    (w = .null ↔ row.cell index = .ok .null ∧
      (nullable = true ∨ slot = .any ∨ ∃ e, slot = .enum e ∧ e.variants = []))
  /-- A slot that may not be empty takes its default from an empty cell. -/
  default : ∀ c, Casts slot c → nullable = false → row.cell index = .ok .null →
    (c.read row index slot nullable).result = .ok slot.defaultValue

end Coercion

/-! ## Lemmas -/

theorem Kind.cast_enum (e : Enumeration) (v : Value) : (Kind.enum e).cast v = e.convert v := by
  cases v <;> rfl

/-- The kinds that have no value of their own. -/
theorem Kind.defaultValue_eq_null_iff {k : Kind} :
    k.defaultValue = .null ↔ k = .any ∨ ∃ e, k = .enum e ∧ e.variants = [] := by
  cases k with
  | any => simp [defaultValue]
  | enum e =>
    have hnone : e.variant? 0 = none ↔ e.variants = [] := by
      rw [← Option.not_isSome_iff_eq_none, Enumeration.isSome_variant?, List.length_pos_iff,
        not_not]
    cases h : e.variant? 0 with
    | none => simp [defaultValue, h, hnone.1 h]
    | some x =>
      have hsome : e.variants ≠ [] := fun hv => Option.some_ne_none x (h.symm.trans (hnone.2 hv))
      simp [defaultValue, h, hsome]
  | _ => simp [defaultValue]

/-- A handler that nobody registered is the enumeration's own. -/
theorem Registry.forEnumeration_own {r s : Registry} {e : Enumeration}
    (h : r.find? (.enum e) .any = none) (hx : r.Extends s) :
    (s.forEnumeration e).1 = .ofEnumeration e := by
  rw [hx.forEnumeration, forEnumeration_fst, h]
  rfl

namespace Coercion

variable {row : Row} {index : Nat} {slot : Kind} {nullable : Bool} {c : Coercion} {v w : Value}

theorem fill_null (slot : Kind) (nullable : Bool) :
    fill slot nullable .null = if nullable then .null else slot.defaultValue := by
  cases nullable <;> rfl

theorem fill_of_ne_null (hv : v ≠ .null) (slot : Kind) (nullable : Bool) :
    fill slot nullable v = v := by
  rw [fill, if_neg]
  rw [Bool.and_eq_true, Value.isNull_iff]
  exact fun h => hv h.1

/-- The long way: the cell, cast, or else the slot's default. -/
theorem result_read_object (row : Row) (index : Nat) (slot : Kind) (nullable : Bool) :
    (object.read row index slot nullable).result =
      (row.cell index).bind fun v => (slot.cast v).map (fill slot nullable) :=
  Reading.result_bind _ _

/-- An enumeration's own handler looks at the cell as a cast does, and converts it alike. -/
theorem read_enumeration (row : Row) (index : Nat) (e : Enumeration) (nullable : Bool) :
    (enum (.ofEnumeration e)).read row index (.enum e) nullable =
      object.read row index (.enum e) nullable := by
  have hlong : object.read row index (.enum e) nullable = (row.read index .any).bind fun v =>
      .ofResult ((e.convert v).map (fill (.enum e) nullable)) := by
    simp only [read, Kind.cast_enum]
  rw [hlong]
  exact Reading.bind_ofResult_bind (row.read index .any) e.convert _

/-- A cell that holds what its slot may hold is not changed by a cast. -/
theorem result_read_direct (hs : ∀ e, slot ≠ .enum e)
    (hfit : ∀ v, row.cell index = .ok v → v = .null ∨ Kind.Inhabits v slot) (nullable : Bool) :
    (directRead.read row index slot nullable).result =
      (object.read row index slot nullable).result := by
  have hdirect : (directRead.read row index slot nullable).result =
      (row.cell index).bind fun v => .ok (fill slot nullable v) := Reading.result_bind _ _
  rw [hdirect, result_read_object]
  cases hcell : row.cell index with
  | error err => rfl
  | ok v =>
    have hcast : slot.cast v = .ok v := by
      rcases hfit v hcell with rfl | h
      · exact Kind.cast_null slot
      · exact Kind.cast_of_inhabits (fun e he => absurd he (hs e)) h
    show Except.ok _ = (slot.cast v).map _
    rw [hcast]
    rfl

/-- A conversion reads as a cast does. -/
theorem Casts.result_read (hc : Casts slot c) (row : Row) (index : Nat) (nullable : Bool) :
    (c.read row index slot nullable).result =
      (row.cell index).bind fun v => (slot.cast v).map (fill slot nullable) := by
  cases hc with
  | object => exact result_read_object row index slot nullable
  | enum => rw [read_enumeration, result_read_object]

/-- What is read was cast from the cell, and filled in where the cell is empty. -/
theorem Casts.exists_cast (hc : Casts slot c)
    (h : (c.read row index slot nullable).result = .ok w) :
    ∃ v x, row.cell index = .ok v ∧ slot.cast v = .ok x ∧ fill slot nullable x = w := by
  rw [hc.result_read, bind_eq_ok_iff] at h
  obtain ⟨v, hv, hcast⟩ := h
  obtain ⟨x, hx, hfill⟩ := map_eq_ok_iff.1 hcast
  exact ⟨v, x, hv, hx, hfill⟩

/-- An empty cell reads as the slot's default, if the slot may not be empty. -/
theorem Casts.result_read_of_null (hc : Casts slot c) (h : row.cell index = .ok .null)
    (nullable : Bool) :
    (c.read row index slot nullable).result =
      .ok (if nullable then .null else slot.defaultValue) := by
  rw [hc.result_read, h, ← fill_null]
  rfl

/-- A default is of its kind, or there is none. -/
theorem inhabits_defaultValue (k : Kind) :
    k.defaultValue = .null ∨ Kind.Inhabits k.defaultValue k := by
  by_cases hk : ∃ e, k = .enum e ∧ e.variants = []
  · exact .inl (Kind.defaultValue_eq_null_iff.2 (.inr hk))
  · have hvariants : ∀ e, k = .enum e → e.variants ≠ [] := fun e he hv => hk ⟨e, he, hv⟩
    rcases Kind.suits_defaultValue hvariants true with h | h
    · exact .inl h.1
    · exact .inr h.2

/-! ## Top theorems -/

/-- Wherever a source stands, the coercions for a slot agree where more than one of them is open,
and those that convert give what the slot may hold. -/
theorem paths_agree (σ : Type) [RowSource σ] (s : σ) (index : Nat) (slot : Kind)
    (nullable : Bool) : PathsAgree (RowSource.row s) index slot nullable where
  enumeration := by
    rintro e r s rfl hr hx
    rw [Registry.forEnumeration_own hr hx, read_enumeration]
  direct := by
    intro hs hfit
    have hdirect := result_read_direct hs hfit nullable
    exact ⟨hdirect, hdirect⟩
  value := by
    intro c hc w h
    obtain ⟨v, x, hv, hx, rfl⟩ := hc.exists_cast h
    by_cases hnull : v = .null
    · rw [(Kind.null_iff_of_cast hx).2 hnull, fill_null, hv, hnull,
        ← Kind.defaultValue_eq_null_iff]
      cases nullable with
      | true => simp
      | false => simpa using inhabits_defaultValue slot
    · obtain ⟨hne, hin⟩ := Kind.inhabits_of_cast hx hnull
      rw [fill_of_ne_null hne, hv]
      exact ⟨.inr hin, iff_of_false hne fun hcell => hnull (Except.ok.inj hcell.1)⟩
  default := by
    rintro c hc rfl hcell
    exact hc.result_read_of_null hcell false

end Coercion

end Hydration
