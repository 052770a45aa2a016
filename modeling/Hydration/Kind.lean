import Hydration.Integer
import Hydration.Outline
import Hydration.Text.Naming

/-!
# Kinds of values

The kind of a column or of a field: one of the scalar kinds, an enumeration with
named variants, or `any`, which matches every column and accepts whatever it holds.
Whether a field may be empty is not part of its kind.
-/

namespace Hydration

/-- A named enumeration, its variants in the order of their ordinals. -/
structure Enumeration where
  name : String
  variants : List String
  deriving DecidableEq

/-- A variant of an enumeration: its ordinal and its name. -/
structure Variant where
  ordinal : Nat
  name : String
  deriving DecidableEq

namespace Enumeration

/-- The variant with an ordinal. -/
def variant? (e : Enumeration) (ordinal : Nat) : Option Variant :=
  (e.variants[ordinal]?).map fun name => ⟨ordinal, name⟩

/-- The ordinal of the variant called `name`, exactly or else ignoring ASCII case. -/
def ordinalOf? (e : Enumeration) (name : String) : Option Nat :=
  Text.locate some e.variants name

theorem variant?_eq_some_iff {e : Enumeration} {i : Nat} {v : Variant} :
    e.variant? i = some v ↔ v.ordinal = i ∧ e.variants[i]? = some v.name := by
  obtain ⟨j, n⟩ := v
  simp only [variant?, Option.map_eq_some_iff, Variant.mk.injEq]
  constructor
  · rintro ⟨a, h, rfl, rfl⟩
    exact ⟨rfl, h⟩
  · rintro ⟨rfl, h⟩
    exact ⟨n, h, rfl, rfl⟩

theorem isSome_variant? {e : Enumeration} {i : Nat} :
    (e.variant? i).isSome = true ↔ i < e.variants.length := by
  simp [variant?]

/-- The shape of an enumeration for display. -/
def outline (e : Enumeration) : Outline :=
  .record "TypeEnum" [("name", .quoted e.name), ("variants", .list (e.variants.map .quoted))]

end Enumeration

/-- The shape of a variant for display. -/
def Variant.outline (v : Variant) : Outline :=
  .record "ValueEnum" [("variant", .nat v.ordinal), ("name", .quoted v.name)]

/-- The kind of a column or of a field. -/
inductive Kind where
  | bool
  | text
  | int (width : IntWidth)
  | double
  | bytes
  | uuid
  | enum (e : Enumeration)
  | any
  deriving DecidableEq

namespace Kind

/-- The name of a kind; an enumeration is called by its own name. -/
def name : Kind → String
  | bool => "Bool"
  | text => "String"
  | int w => w.title
  | double => "F64"
  | bytes => "Bytes"
  | uuid => "Uuid"
  | enum e => e.name
  | any => "Any"

/-- The enumeration of a kind. -/
def enumeration? : Kind → Option Enumeration
  | enum e => some e
  | _ => none

/-- The shape of a kind for display. -/
def outline : Kind → Outline
  | enum e => .tuple "Enum" [e.outline]
  | k => .word k.name

end Kind

end Hydration
