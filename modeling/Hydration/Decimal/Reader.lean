import Hydration.Decimal.Numeral

/-!
# Reading a double

The written forms of a double: an optional sign, then `inf`, `infinity` or `nan` in
either case, or digits with an optional point and an optional exponent.  A digit must
stand before or behind the point.  The value is the double nearest to the decimal.
-/

namespace Hydration.Decimal

/-! ## Algorithm -/

def isDigit (c : Char) : Bool := (digitValue? c).isSome

/-- The exponent part: nothing, or an `e` and an integer. -/
def readExponent? : List Char → Option Int
  | [] => some 0
  | c :: rest => if c = 'e' ∨ c = 'E' then readInt? true rest else none

/-- The significand and the decimal exponent of a number without a sign. -/
def readScientific? (cs : List Char) : Option (Nat × Int) :=
  let whole := cs.takeWhile isDigit
  let afterWhole := cs.dropWhile isDigit
  let (places, rest) :=
    match afterWhole with
    | '.' :: r => (r.takeWhile isDigit, r.dropWhile isDigit)
    | r => ([], r)
  match read? (whole ++ places), readExponent? rest with
  | some significand, some exponent => some (significand, exponent - places.length)
  | _, _ => none

/-- The double nearest to `significand · 10^exponent`.  Beyond 10^310 it is infinite and
below 10^-330 it is zero, whatever the digits. -/
def nearest (significand : Nat) (exponent : Int) : Float :=
  let size := (digits significand).length + exponent
  if significand = 0 ∨ size < -330 then 0.0
  else if 310 < size then 1.0 / 0.0
  else Float.ofScientific significand (decide (exponent < 0)) exponent.natAbs

/-- A double without a sign. -/
def readMagnitude? (cs : List Char) : Option Float :=
  let word := cs.map Char.toLower
  if word = "inf".toList ∨ word = "infinity".toList then some (1.0 / 0.0)
  else if word = "nan".toList then some (0.0 / 0.0)
  else (readScientific? cs).map fun (significand, exponent) => nearest significand exponent

/-- The double that a text writes. -/
def readFloat? : List Char → Option Float
  | [] => none
  | c :: rest =>
    if c = '-' then (readMagnitude? rest).map fun x => -x
    else if c = '+' then readMagnitude? rest
    else readMagnitude? (c :: rest)

end Hydration.Decimal
