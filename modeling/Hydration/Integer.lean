import Hydration.Decimal.Numeral

/-!
# Sized integers

The eight integer widths and the integers stored in them.  A `SizedInt` carries the
proof that its value fits its width, so nothing ever wraps: `ofInt?` is the only way
in, and it gives the integer itself or nothing.

    ofInt? w z = some n  ↔  w.Holds z ∧ n.width = w ∧ n.value = z      (ofInt?_eq_some_iff)
-/

namespace Hydration

/-- The width of a stored integer. -/
inductive IntWidth where
  | i8 | i16 | i32 | i64 | u8 | u16 | u32 | u64
  deriving DecidableEq

namespace IntWidth

/-! ## Algorithm -/

def isSigned : IntWidth → Bool
  | i8 | i16 | i32 | i64 => true
  | u8 | u16 | u32 | u64 => false

def bits : IntWidth → Nat
  | i8 | u8 => 8
  | i16 | u16 => 16
  | i32 | u32 => 32
  | i64 | u64 => 64

/-- The least integer of the width. -/
def least (w : IntWidth) : Int := if w.isSigned then -(Int.pow 2 (w.bits - 1)) else 0

/-- The greatest integer of the width. -/
def greatest (w : IntWidth) : Int :=
  if w.isSigned then Int.pow 2 (w.bits - 1) - 1 else Int.pow 2 w.bits - 1

/-- The integer fits the width. -/
def Holds (w : IntWidth) (z : Int) : Prop := w.least ≤ z ∧ z ≤ w.greatest

instance (w : IntWidth) (z : Int) : Decidable (w.Holds z) :=
  inferInstanceAs (Decidable (_ ∧ _))

/-- The name of the width, a letter and the number of bits. -/
def name (w : IntWidth) : String :=
  (if w.isSigned then "i" else "u") ++ toString w.bits

/-- The name with a capital letter, as kinds and values are called. -/
def title (w : IntWidth) : String :=
  (if w.isSigned then "I" else "U") ++ toString w.bits

/-- Every width. -/
def all : List IntWidth := [i8, i16, i32, i64, u8, u16, u32, u64]

theorem holds_zero (w : IntWidth) : w.Holds 0 := by cases w <;> decide

end IntWidth

/-- An integer together with the width it is stored in. -/
structure SizedInt where
  width : IntWidth
  value : Int
  holds : width.Holds value := by decide
  deriving DecidableEq

namespace SizedInt

/-- The integer stored in a width, if it fits. -/
def ofInt? (w : IntWidth) (z : Int) : Option SizedInt :=
  if h : w.Holds z then some ⟨w, z, h⟩ else none

/-- The integer that a numeral writes, if it fits.  Only signed widths admit a minus sign. -/
def read? (w : IntWidth) (cs : List Char) : Option SizedInt :=
  (Decimal.readInt? w.isSigned cs).bind (ofInt? w)

def zero (w : IntWidth) : SizedInt := ⟨w, 0, w.holds_zero⟩

/-- The numeral of the integer. -/
def text (n : SizedInt) : String := String.ofList (Decimal.intDigits n.value)

/-! ## Lemmas -/

theorem ofInt?_eq_some_iff {w : IntWidth} {z : Int} {n : SizedInt} :
    ofInt? w z = some n ↔ w.Holds z ∧ n.width = w ∧ n.value = z := by
  obtain ⟨w', z', h'⟩ := n
  unfold ofInt?
  split
  · rename_i h
    simp only [Option.some.injEq, mk.injEq, h, true_and]
    exact and_congr eq_comm eq_comm
  · rename_i h
    simp [h]

theorem ofInt?_value (n : SizedInt) : ofInt? n.width n.value = some n :=
  ofInt?_eq_some_iff.2 ⟨n.holds, rfl, rfl⟩

end SizedInt

end Hydration
