/-!
# The exact value of a double

A finite double is a sign, a natural number m and an exponent q, and its value is
±m · 2^q.  Everything that asks for the exact value (its digits, whether it is an
integer, its nearest integer) is computed from these numbers.
-/

namespace Hydration.Binary64

/-! ## Algorithm -/

/-- What a double stands for. -/
inductive Parts where
  | nan
  | infinite (negative : Bool)
  /-- The value ±m · 2^q. -/
  | finite (negative : Bool) (m : Nat) (q : Int)

/-- The parts of a double, from its sign bit, 11 exponent bits and 52 fraction bits. -/
def parts (x : Float) : Parts :=
  let bits : Nat := x.toBits.toNat
  let fraction : Nat := bits % Nat.pow 2 52
  let exponent : Nat := bits / Nat.pow 2 52 % Nat.pow 2 11
  let negative := Nat.pow 2 63 ≤ bits
  if exponent = 2047 then
    if fraction = 0 then .infinite negative else .nan
  else if exponent = 0 then .finite negative fraction (-1074)
  else .finite negative (Nat.pow 2 52 + fraction) (exponent - 1075)

/-- A natural number with a sign. -/
def signed (negative : Bool) (n : Nat) : Int := if negative then -(n : Int) else n

/-- The integer that a double is, if it is one. -/
def integer? (x : Float) : Option Int :=
  match parts x with
  | .finite negative m q =>
    if 0 ≤ q then some (signed negative (m * Nat.pow 2 q.toNat))
    else
      let d := Nat.pow 2 (-q).toNat
      if m % d = 0 then some (signed negative (m / d)) else none
  | _ => none

/-- The integer nearest to ±m · 2^q; a half goes away from zero. -/
def roundAway (negative : Bool) (m : Nat) (q : Int) : Int :=
  if 0 ≤ q then signed negative (m * Nat.pow 2 q.toNat)
  else
    let d := Nat.pow 2 (-q).toNat
    signed negative ((2 * m + d) / (2 * d))

/-- The integer of the range `least` to `most` that is nearest to a double; a NaN gives 0. -/
def clampedRound (least most : Int) (x : Float) : Int :=
  match parts x with
  | .nan => 0
  | .infinite negative => if negative then least else most
  | .finite negative m q => max least (min most (roundAway negative m q))

end Hydration.Binary64
