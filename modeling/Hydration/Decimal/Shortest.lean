import Hydration.Decimal.Numeral

/-!
# The shortest decimal of a double

The decimals that round to a double m · 2^q form an interval around it, which
includes its ends when m is even.  On the grid of the multiples of 10^k only the two
neighbours of the value can be the nearest point of the grid in that interval, so
the search tries both on the grids for 1, 2, … 17 digits: the first grid with a hit
wins, and of two hits the nearer, where a tie goes up.
-/

namespace Hydration.Decimal

/-! ## Algorithm -/

/-- The decimal `significand · 10^exponent`. -/
structure Scientific where
  significand : Nat
  exponent : Int
  deriving DecidableEq

/-- The three ends of the interval of m · 2^q, in units of 2^(q - 2): where it begins,
its double and where it ends.  Below a power of two the doubles lie twice as close. -/
def interval (m : Nat) (q : Int) : Nat × Nat × Nat :=
  (if m = Nat.pow 2 52 ∧ -1074 < q then 4 * m - 1 else 4 * m - 2, 4 * m, 4 * m + 2)

/-- Exponent of the leading digit of n / d: the e with 10^e ≤ n / d < 10^(e + 1). -/
def leadingExponent (n d : Nat) : Int :=
  if d ≤ n then (digits (n / d)).length - 1
  else
    let len := (digits (d / n)).length
    if d ≤ n * Nat.pow 10 (len - 1) then 1 - (len : Int) else -(len : Int)

/-- Which neighbour of m · 2^q on the grid of 10^k rounds to it, if one does; of two the
nearer, and of two equally near ones the upper. -/
def neighbour? (m : Nat) (q k : Int) : Option Nat :=
  let (low, mid, high) := interval m q
  let up := Nat.pow 2 (q - 2).toNat * Nat.pow 10 (-k).toNat
  let down := Nat.pow 2 (2 - q).toNat * Nat.pow 10 k.toNat
  let d := mid * up / down
  let inside (c : Nat) : Bool :=
    if m % 2 = 0 then low * up ≤ c * down && c * down ≤ high * up
    else low * up < c * down && c * down < high * up
  match inside d, inside (d + 1) with
  | true, true => if 2 * (mid * up) < (2 * d + 1) * down then some d else some (d + 1)
  | true, false => some d
  | false, true => some (d + 1)
  | false, false => none

/-- The first hit on the grids of `digits`, `digits + 1`, … digits. -/
def searchGrids (m : Nat) (q lead : Int) : (fuel digits : Nat) → Scientific
  | 0, _ => ⟨m * Nat.pow 2 q.toNat, 0⟩
  | fuel + 1, digits =>
    let k := lead + 1 - digits
    match neighbour? m q k with
    | some d => ⟨d, k⟩
    | none => searchGrids m q lead fuel (digits + 1)

/-- Trailing zeros of the significand moved into the exponent, at most `fuel` of them. -/
def dropZeros : (fuel : Nat) → Scientific → Scientific
  | 0, s => s
  | fuel + 1, s =>
    if s.significand % 10 = 0 then dropZeros fuel ⟨s.significand / 10, s.exponent + 1⟩ else s

/-- The shortest decimal that rounds to m · 2^q, for a positive m.  17 digits always
suffice. -/
def shortest (m : Nat) (q : Int) : Scientific :=
  let lead := leadingExponent (m * Nat.pow 2 q.toNat) (Nat.pow 2 (-q).toNat)
  dropZeros 20 (searchGrids m q lead 17 1)

end Hydration.Decimal
