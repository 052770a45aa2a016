import Hydration.Binary64
import Hydration.Decimal.Shortest

/-!
# The text of a double

A double is written by its shortest decimal.  `Layout` holds the decisions of one
written form: which decimal exponents are written without an exponent part, and
whether an integral value shows a zero behind the point.

    plain:  1   0.00005   10000000000000000   -0   NaN   inf
    tagged: 1.0 5e-5      1e16                -0.0 NaN   inf
-/

namespace Hydration.Decimal

/-! ## Algorithm -/

/-- The decisions of a written form. -/
structure Layout where
  /-- The exponents of the leading digit, first and last, that need no exponent part;
  without them no exponent does. -/
  positional : Option (Int × Int)
  /-- An integral value ends in `.0`. -/
  pointZero : Bool

/-- Digits and a point where needed, never an exponent. -/
def Layout.plain : Layout := ⟨none, false⟩

/-- A point always, and an exponent below 0.0001 and from 10^16 on. -/
def Layout.tagged : Layout := ⟨some (-4, 15), true⟩

/-- `n` zeros. -/
def zeros (n : Nat) : List Char := List.replicate n '0'

/-- The digits with the point set for the exponent `k` of the last digit. -/
def positionalText (pointZero : Bool) (ds : List Char) (k : Int) : List Char :=
  if 0 ≤ k then ds ++ zeros k.toNat ++ if pointZero then ['.', '0'] else []
  else
    let places := (-k).toNat
    if places < ds.length then ds.take (ds.length - places) ++ '.' :: ds.drop (ds.length - places)
    else '0' :: '.' :: zeros (places - ds.length) ++ ds

/-- One digit, the others behind a point, and the exponent of the first digit. -/
def scientificText (ds : List Char) (lead : Int) : List Char :=
  ds.take 1 ++ (if ds.length ≤ 1 then [] else '.' :: ds.drop 1) ++ 'e' :: intDigits lead

/-- A decimal in a layout. -/
def Layout.decimal (l : Layout) (s : Scientific) : List Char :=
  let ds := digits s.significand
  let lead := s.exponent + ds.length - 1
  match l.positional with
  | none => positionalText l.pointZero ds s.exponent
  | some (least, most) =>
    if least ≤ lead ∧ lead ≤ most then positionalText l.pointZero ds s.exponent
    else scientificText ds lead

/-- The text of a double in a layout. -/
def Layout.text (l : Layout) (x : Float) : String :=
  match Binary64.parts x with
  | .nan => "NaN"
  | .infinite negative => if negative then "-inf" else "inf"
  | .finite negative m q =>
    let sign := if negative then ['-'] else []
    let body := if m = 0 then positionalText l.pointZero ['0'] 0 else l.decimal (shortest m q)
    String.ofList (sign ++ body)

end Hydration.Decimal
