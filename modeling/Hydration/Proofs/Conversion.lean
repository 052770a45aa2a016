import Hydration.Conversion
import Hydration.Proofs.Traversal
import Mathlib.Data.List.Nodup

/-!
# Casts and conversions are sound

A cast of a value that is there gives a value of the kind, or it fails with a conversion error
of that value.  A conversion keeps what is of the kind already, and so does a cast when the
variants of an enumeration have distinct names.

    k.cast v = .ok w → v ≠ .null → w ≠ .null ∧ Inhabits w k          (inhabits_of_cast)
    k.cast v = .error e → ∃ wanted, e = .conversion v wanted         (error_of_cast)
    v ≠ .null → Inhabits v k → k.convert v = .ok v                   (convert_of_inhabits)
    Inhabits v k → k.cast v = .ok v                                  (cast_of_inhabits)
    a default is of its kind, if the kind has a value                (suits_defaultValue)
    a second cast changes nothing                                    (cast_sound)
-/

namespace Hydration

open Traversal

namespace Kind

/-- What a slot may hold: a value of its kind, or none when it may be empty or is of kind `any`. -/
def Suits (k : Kind) (nullable : Bool) (v : Value) : Prop :=
  v = .null ∧ (nullable = true ∨ k = .any) ∨ v ≠ .null ∧ Inhabits v k

end Kind

/-! ## Single conversions -/

namespace Value

variable {v : Value} {w : IntWidth} {n : SizedInt} {e : Error}

theorem width_of_toInt (h : v.toInt w = .ok n) : n.width = w := by
  unfold toInt at h
  rw [orElse_eq_ok_iff] at h
  cases v with
  | int m => exact (SizedInt.ofInt?_eq_some_iff.1 h).2.1
  | text s =>
    obtain ⟨z, -, hz⟩ := Option.bind_eq_some_iff.1 h
    exact (SizedInt.ofInt?_eq_some_iff.1 hz).2.1
  | double x =>
    obtain ⟨z, -, hz⟩ := Option.bind_eq_some_iff.1 h
    exact (SizedInt.ofInt?_eq_some_iff.1 hz).2.1
  | _ => cases h

theorem toInt_of_width (h : n.width = w) : (Value.int n).toInt w = .ok n := by
  subst h
  unfold toInt
  rw [orElse_eq_ok_iff]
  exact n.ofInt?_value

theorem error_of_orElse {α : Type} {wanted : String} {o : Option α}
    (h : v.orElse wanted o = .error e) : ∃ wanted, e = .conversion v wanted :=
  ⟨wanted, (orElse_eq_error_iff.1 h).2⟩

theorem error_of_castText (h : v.castText = .error e) : ∃ wanted, e = .conversion v wanted := by
  unfold castText at h
  split at h
  · exact error_of_orElse h
  · cases h

theorem error_of_castBytes (h : v.castBytes = .error e) : ∃ wanted, e = .conversion v wanted := by
  unfold castBytes at h
  split at h
  · cases h
  · cases h
  · exact error_of_orElse h

theorem error_of_castUuid (h : v.castUuid = .error e) : ∃ wanted, e = .conversion v wanted := by
  unfold castUuid at h
  split at h
  · exact error_of_orElse h
  · exact error_of_orElse h

end Value

/-! ## Enumerations -/

namespace Enumeration

variable {e : Enumeration} {v w : Value} {err : Error}

theorem inhabits_of_convert (h : e.convert v = .ok w) (hv : v ≠ .null) :
    w ≠ .null ∧ Kind.Inhabits w (.enum e) := by
  unfold convert at h
  rw [if_neg (fun hn => hv (Value.isNull_iff.1 hn)), Value.orElse_eq_ok_iff] at h
  obtain ⟨x, hx, rfl⟩ := Option.map_eq_some_iff.1 h
  obtain ⟨i, -, hi⟩ := Option.bind_eq_some_iff.1 hx
  have hord := (variant?_eq_some_iff.1 hi).1
  refine ⟨by simp, ?_⟩
  show e.variant? x.ordinal = some x
  rw [hord]
  exact hi

theorem error_of_convert (h : e.convert v = .error err) : ∃ wanted, err = .conversion v wanted := by
  unfold convert at h
  split at h
  · cases h
  · exact Value.error_of_orElse h

/-- A variant is found by its name when no other has the name; names that differ in case only are
kept apart, because exact matches come first. -/
theorem ordinalOf?_name {x : Variant} (hd : e.variants.Nodup)
    (hx : e.variant? x.ordinal = some x) : e.ordinalOf? x.name = some x.ordinal := by
  obtain ⟨hlt, hname⟩ := List.getElem?_eq_some_iff.1 (variant?_eq_some_iff.1 hx).2
  refine (Text.locate_eq_some_iff _ _ _ _).2
    (.inl (List.findIdx?_eq_some_iff_getElem.2 ⟨hlt, ?_, fun j hj => ?_⟩))
  · rw [hname, beq_self_eq_true]
  · rw [beq_iff_eq, Option.some.injEq, ← hname, hd.getElem_inj_iff]
    omega

theorem convert_of_inhabits (hd : e.variants.Nodup) (h : Kind.Inhabits v (.enum e)) :
    e.convert v = .ok v := by
  cases v with
  | enum x =>
    have hx : e.variant? x.ordinal = some x := h
    show (Value.enum x).orElse e.name _ = _
    rw [Value.orElse_eq_ok_iff, ordinalFor?, ordinalOf?_name hd hx, Option.bind_some, hx,
      Option.map_some]
  | _ => exact h.elim

end Enumeration

/-! ## Kinds -/

namespace Kind

variable {k : Kind} {v w : Value} {err : Error}

/-- A cast of a value that is there gives a value of the kind. -/
theorem inhabits_of_cast (h : k.cast v = .ok w) (hv : v ≠ .null) : w ≠ .null ∧ Inhabits w k := by
  unfold cast at h
  rw [if_neg fun hn => hv (Value.isNull_iff.1 hn)] at h
  cases k with
  | any =>
    cases h
    exact ⟨hv, by cases v <;> trivial⟩
  | int width =>
    obtain ⟨n, hn, rfl⟩ := map_eq_ok_iff.1 h
    exact ⟨by simp, Value.width_of_toInt hn⟩
  | enum e => exact Enumeration.inhabits_of_convert h hv
  | _ =>
    obtain ⟨x, -, rfl⟩ := map_eq_ok_iff.1 h
    exact ⟨by simp, trivial⟩

/-- A cast fails with a conversion error of its value. -/
theorem error_of_cast (h : k.cast v = .error err) : ∃ wanted, err = .conversion v wanted := by
  unfold cast at h
  split at h
  · cases h
  · cases k with
    | any => cases h
    | bool => exact Value.error_of_orElse (map_eq_error_iff.1 h)
    | text => exact Value.error_of_castText (map_eq_error_iff.1 h)
    | int width => exact Value.error_of_orElse (map_eq_error_iff.1 h)
    | double => exact Value.error_of_orElse (map_eq_error_iff.1 h)
    | bytes => exact Value.error_of_castBytes (map_eq_error_iff.1 h)
    | uuid => exact Value.error_of_castUuid (map_eq_error_iff.1 h)
    | enum e => exact Enumeration.error_of_convert h

/-- A conversion keeps a value of the kind. -/
theorem convert_of_inhabits (h : Inhabits v k) (hv : v ≠ .null) : k.convert v = .ok v := by
  cases k with
  | any => rfl
  | int width =>
    cases v with
    | int n =>
      show ((Value.int n).toInt width).map Value.int = .ok (Value.int n)
      rw [Value.toInt_of_width h]
      rfl
    | null => exact absurd rfl hv
    | _ => cases h
  | _ =>
    cases v with
    | null => exact absurd rfl hv
    | _ => first | rfl | cases h

/-- A cast keeps what is of the kind. -/
theorem cast_of_inhabits (hk : ∀ e, k = .enum e → e.variants.Nodup) (h : Inhabits v k) :
    k.cast v = .ok v := by
  by_cases hv : v = .null
  · rw [hv, cast_null]
  · unfold cast
    rw [if_neg fun hn => hv (Value.isNull_iff.1 hn)]
    cases k with
    | enum e => exact Enumeration.convert_of_inhabits (hk e rfl) h
    | any | int _ | double => exact convert_of_inhabits h hv
    | _ =>
      cases v with
      | null => exact absurd rfl hv
      | _ => first | rfl | exact h.elim

/-- A cast empties no cell and fills none. -/
theorem null_iff_of_cast (h : k.cast v = .ok w) : w = .null ↔ v = .null := by
  constructor
  · intro hw
    by_contra hv
    exact (inhabits_of_cast h hv).1 hw
  · rintro rfl
    exact (Except.ok.inj h).symm

/-- The default of a kind suits every slot of the kind, unless the kind is an enumeration
without variants. -/
theorem suits_defaultValue (hk : ∀ e, k = .enum e → e.variants ≠ []) (nullable : Bool) :
    k.Suits nullable k.defaultValue := by
  cases k with
  | any => exact .inl ⟨rfl, .inr rfl⟩
  | enum e =>
    have hlen : 0 < e.variants.length := List.length_pos_iff.2 (hk e rfl)
    obtain ⟨x, hx⟩ := Option.isSome_iff_exists.1 (Enumeration.isSome_variant?.2 hlen)
    have hd : (Kind.enum e).defaultValue = .enum x := by
      simp only [defaultValue, hx]
    rw [hd]
    refine .inr ⟨by simp, ?_⟩
    show e.variant? x.ordinal = some x
    rw [(Enumeration.variant?_eq_some_iff.1 hx).1]
    exact hx
  | int width => exact .inr ⟨by simp [defaultValue], rfl⟩
  | _ => exact .inr ⟨by simp [defaultValue], trivial⟩

/-! ## Top theorems -/

/-- What a cast gives is of the kind, or empty where the value was, and a second cast keeps it; a
value that is of the kind already is kept by the first.  Where a cast fails, the value could not be
converted.  Enumerations are to have variants of distinct names, or else a variant could be taken
for an earlier one of its name. -/
theorem cast_sound (k : Kind) (hk : ∀ e, k = .enum e → e.variants.Nodup) (v : Value) :
    (∀ w, k.cast v = .ok w →
      (w = .null ↔ v = .null) ∧ (w ≠ .null → Inhabits w k) ∧ k.cast w = .ok w) ∧
    (Inhabits v k → k.cast v = .ok v) ∧
    ∀ err, k.cast v = .error err → ∃ wanted, err = .conversion v wanted := by
  refine ⟨fun w h => ⟨null_iff_of_cast h, fun hw => ?_, ?_⟩, cast_of_inhabits hk,
    fun err => error_of_cast⟩
  · exact (inhabits_of_cast h fun hv => hw ((null_iff_of_cast h).2 hv)).2
  · by_cases hv : v = .null
    · rw [(null_iff_of_cast h).2 hv, cast_null]
    · exact cast_of_inhabits hk (inhabits_of_cast h hv).2

/-- Grades that differ in case only. -/
def gradeKind : Kind := .enum ⟨"Grade", ["a", "A", "b"]⟩

/-- A grade between blanks is found exactly, and the variant is found again by its name. -/
theorem cast_sound_grade :
    (∀ e, gradeKind = .enum e → e.variants.Nodup) ∧
      gradeKind.cast (.text " A ") = .ok (.enum ⟨1, "A"⟩) ∧
      gradeKind.cast (.enum ⟨1, "A"⟩) = .ok (.enum ⟨1, "A"⟩) := by
  have hk : ∀ e, gradeKind = .enum e → e.variants.Nodup := by
    rintro e ⟨⟩
    decide
  have hcast : gradeKind.cast (.text " A ") = .ok (.enum ⟨1, "A"⟩) := by decide
  exact ⟨hk, hcast, ((cast_sound gradeKind hk _).1 _ hcast).2.2⟩

end Kind

end Hydration
