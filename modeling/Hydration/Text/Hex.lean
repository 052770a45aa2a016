/-!
# Hexadecimal text

Octets as two small hexadecimal digits each.  Reading accepts digits of either
case and nothing but whole octets.

    octets? (digits bs) = some bs      (octets?_digits)
-/

namespace Hydration.Text.Hex

/-! ## Algorithm -/

/-- The hexadecimal digit of a number below 16. -/
def digit (n : Nat) : Char := Char.ofNat (if n < 10 then 48 + n else 87 + n)

/-- The value of a hexadecimal digit of either case. -/
def value? (c : Char) : Option Nat :=
  let n := c.toNat
  if 48 ≤ n ∧ n ≤ 57 then some (n - 48)
  else if 97 ≤ n ∧ n ≤ 102 then some (n - 87)
  else if 65 ≤ n ∧ n ≤ 70 then some (n - 55)
  else none

/-- Two digits for each octet. -/
def digits : List UInt8 → List Char
  | [] => []
  | b :: bs => digit (b.toNat / 16) :: digit (b.toNat % 16) :: digits bs

/-- The octets written by a text of digit pairs. -/
def octets? : List Char → Option (List UInt8)
  | [] => some []
  | [_] => none
  | c :: d :: rest =>
    match value? c, value? d, octets? rest with
    | some h, some l, some bs => some (UInt8.ofNat (16 * h + l) :: bs)
    | _, _, _ => none

/-! ## Lemmas -/

theorem value?_digit : ∀ n, n < 16 → value? (digit n) = some n := by decide

/-- What is written reads back. -/
theorem octets?_digits (bs : List UInt8) : octets? (digits bs) = some bs := by
  induction bs with
  | nil => rfl
  | cons b bs ih =>
    have hb := b.toNat_lt
    have h1 := value?_digit (b.toNat / 16) (by omega)
    have h2 := value?_digit (b.toNat % 16) (by omega)
    have h3 : 16 * (b.toNat / 16) + b.toNat % 16 = b.toNat := Nat.div_add_mod ..
    simp [digits, octets?, h1, h2, ih, h3]

theorem length_digits (bs : List UInt8) : (digits bs).length = 2 * bs.length := by
  induction bs with
  | nil => rfl
  | cons b bs ih => simp only [digits, List.length_cons, ih]; omega

end Hydration.Text.Hex
