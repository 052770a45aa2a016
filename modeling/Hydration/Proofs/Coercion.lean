import Hydration.Proofs.Conversion
import Hydration.Proofs.Reading
import Hydration.Proofs.Registry

/-!
# Coercions without handlers

Where no handler is named and none is registered but those of enumerations, a slot is read as it
is, as a variant of its enumeration, or by a cast.  From a cell of its column's kind such a
coercion gives what the slot may hold, and where it fails a conversion failed.

    resolve_plain      there is always a plain coercion
    Plain.read_meets   what it gives
-/

namespace Hydration

namespace Coercion

/-! ## Algorithm -/

/-- The coercions that read by no handler but that of the slot's enumeration. -/
inductive Plain (slot column : Kind) : Coercion → Prop
  | directRead (h : slot = column) : Plain slot column .directRead
  | nullableUnwrap (h : slot = column) : Plain slot column .nullableUnwrap
  | enum {e : Enumeration} (h : slot = .enum e) : Plain slot column (.enum (.ofEnumeration e))
  | object : Plain slot column .object

/-- The coercion converts the values that it reads. -/
def Converts (c : Coercion) : Prop := c = .object ∨ ∃ h, c = .enum h

/-! ## Lemmas -/

variable {r : Registry} {slot column : Kind} {nullable : Bool} {c : Coercion} {row : Row}
  {index : Nat} {v : Value}

theorem find?_empty (k c : Kind) : Registry.empty.find? k c = none := rfl

/-- A slot that no handler is named for has a plain coercion. -/
theorem resolve_plain (hr : Registry.empty.Extends r) (slot : Kind) (nullable : Bool)
    (column : Kind) :
    ∃ c, (resolve r slot nullable column none).1 = .ok c ∧ Plain slot column c := by
  rw [resolve_fst_of_extends hr]
  rcases enum_or_not slot with ⟨e, rfl⟩ | hs
  · exact ⟨_, rfl, .enum rfl⟩
  · rw [resolve_none_of_not_enum _ _ _ hs, find?_empty, find?_empty]
    by_cases hk : slot = column
    · cases nullable with
      | true => exact ⟨.nullableUnwrap, by rw [if_pos hk]; rfl, .nullableUnwrap hk⟩
      | false => exact ⟨.directRead, by rw [if_pos hk]; rfl, .directRead hk⟩
    · exact ⟨.object, by rw [if_neg hk], .object⟩

theorem suits_fill (hk : ∀ e, slot = .enum e → e.variants ≠ [])
    (hv : v ≠ .null → Kind.Inhabits v slot) : slot.Suits nullable (fill slot nullable v) := by
  unfold fill
  by_cases hn : v = .null
  · cases nullable with
    | true => exact .inl ⟨by simp [hn], .inl rfl⟩
    | false =>
      rw [hn]
      exact Kind.suits_defaultValue hk false
  · have hnull : ¬(v.isNull && !nullable) = true := by
      rw [Bool.and_eq_true, Value.isNull_iff]
      exact fun h => hn h.1
    rw [if_neg hnull]
    exact .inr ⟨hn, hv hn⟩

theorem read_cell_meets (hv : row.cell index = .ok v) (k : Kind) :
    (row.read index k).Meets (· = v) fun _ => False :=
  Reading.meets_of_ok hv rfl

theorem read_enumeration_meets (hv : row.cell index = .ok v) (e : Enumeration) (k : Kind) :
    ((Handler.ofEnumeration e).read row index k).Meets
      (fun w => w ≠ .null → Kind.Inhabits w (.enum e))
      fun err => ∃ v wanted, err = .conversion v wanted := by
  refine ((read_cell_meets hv .any).mono (fun _ h => h) fun _ h => h.elim).bind fun w hw => ?_
  subst hw
  cases hc : e.convert w with
  | error err => exact Reading.meets_of_error rfl ⟨w, Enumeration.error_of_convert hc⟩
  | ok x =>
    refine Reading.meets_of_ok rfl fun hx => ?_
    by_cases hn : w = .null
    · subst hn
      cases hc
      exact absurd rfl hx
    · exact (Enumeration.inhabits_of_convert hc hn).2

/-! ## Top theorems -/

/-- From a cell of its column's kind a plain coercion gives what the slot may hold, or a
conversion fails. -/
theorem Plain.read_meets (hc : Plain slot column c)
    (hk : ∀ e, slot = .enum e → e.variants ≠ []) (hv : row.cell index = .ok v)
    (hfit : v = .null ∨ Kind.Inhabits v column) (nullable : Bool) :
    (c.read row index slot nullable).Meets (slot.Suits nullable)
      fun err => c.Converts ∧ ∃ v wanted, err = .conversion v wanted := by
  have hcell := fun k => (read_cell_meets hv k).mono (F := fun err =>
    c.Converts ∧ ∃ v wanted, err = .conversion v wanted) (fun _ h => h) fun _ h => h.elim
  have hdirect : slot = column → ((row.read index slot).bind fun w =>
      .ofResult (.ok (fill slot nullable w))).Meets (slot.Suits nullable)
        fun err => c.Converts ∧ ∃ v wanted, err = .conversion v wanted := by
    intro hs
    refine (hcell slot).bind fun w hw => Reading.meets_of_ok rfl ?_
    subst hw hs
    exact suits_fill hk fun hn => hfit.resolve_left hn
  cases hc with
  | directRead hs => exact hdirect hs
  | nullableUnwrap hs => exact hdirect hs
  | @enum e hs =>
    subst hs
    refine ((read_enumeration_meets hv e (.enum e)).mono (fun _ h => h) fun _ h =>
      ⟨.inr ⟨_, rfl⟩, h⟩).bind fun w hw => Reading.meets_of_ok rfl ?_
    exact suits_fill hk hw
  | object =>
    refine (hcell .any).bind fun w hw => ?_
    subst hw
    cases hcast : slot.cast w with
    | error err => exact Reading.meets_of_error rfl ⟨.inl rfl, w, Kind.error_of_cast hcast⟩
    | ok x =>
      refine Reading.meets_of_ok rfl (suits_fill hk fun hx => ?_)
      by_cases hn : w = .null
      · subst hn
        rw [Kind.cast_null] at hcast
        cases hcast
        exact absurd rfl hx
      · exact (Kind.inhabits_of_cast hcast hn).2

end Coercion

end Hydration
