/-!
# Decimal numerals

Natural numbers and integers as decimal digits.  Writing uses no leading zero and
no plus sign; reading accepts leading zeros and, before the digits, a plus sign or,
where negative numbers are admitted, a minus sign.

    read? (digits n) = some n                        (read?_digits)
    readInt? minus (intDigits z) = some z            (readInt?_intDigits)
-/

namespace Hydration.Decimal

/-! ## Algorithm -/

/-- The character of a digit below ten. -/
def digit (n : Nat) : Char := Char.ofNat (48 + n)

/-- The value of a digit. -/
def digitValue? (c : Char) : Option Nat :=
  if 48 ≤ c.toNat ∧ c.toNat ≤ 57 then some (c.toNat - 48) else none

/-- The digits of a natural number, most significant first. -/
def digits (n : Nat) : List Char :=
  if n < 10 then [digit n] else digits (n / 10) ++ [digit (n % 10)]

/-- The value of digits that follow digits of value `acc`. -/
def readFrom (acc : Nat) : List Char → Option Nat
  | [] => some acc
  | c :: cs =>
    match digitValue? c with
    | some d => readFrom (10 * acc + d) cs
    | none => none

/-- The value of one or more digits. -/
def read? (cs : List Char) : Option Nat :=
  if cs = [] then none else readFrom 0 cs

/-- An integer: its digits, behind a minus sign when it is negative. -/
def intDigits : Int → List Char
  | .ofNat n => digits n
  | .negSucc n => '-' :: digits (n + 1)

/-- The integer written by an optional sign and digits.  A minus sign is admitted
only when `minus` is set. -/
def readInt? (minus : Bool) (cs : List Char) : Option Int :=
  match cs with
  | [] => none
  | c :: rest =>
    if c = '+' then (read? rest).map Int.ofNat
    else if c = '-' ∧ minus then (read? rest).map fun n => -(n : Int)
    else (read? cs).map Int.ofNat

/-! ## Lemmas -/

theorem digitValue?_digit : ∀ n, n < 10 → digitValue? (digit n) = some n := by decide

theorem readFrom_append (acc : Nat) (cs ds : List Char) :
    readFrom acc (cs ++ ds) = (readFrom acc cs).bind fun a => readFrom a ds := by
  induction cs generalizing acc with
  | nil => rfl
  | cons c cs ih =>
    simp only [List.cons_append, readFrom]
    cases digitValue? c with
    | none => rfl
    | some d => exact ih _

theorem digits_ne_nil (n : Nat) : digits n ≠ [] := by
  rw [digits]
  split <;> simp

theorem readFrom_digits (n : Nat) : readFrom 0 (digits n) = some n := by
  induction n using digits.induct with
  | case1 n h =>
    rw [digits, if_pos h]
    simp [readFrom, digitValue?_digit n h]
  | case2 n h ih =>
    rw [digits, if_neg h, readFrom_append, ih]
    simp only [Option.bind_some, readFrom, digitValue?_digit _ (Nat.mod_lt n (by omega))]
    congr 1
    omega

/-- Written digits read back. -/
theorem read?_digits (n : Nat) : read? (digits n) = some n := by
  rw [read?, if_neg (digits_ne_nil n), readFrom_digits]

/-- The first digit is a digit, hence neither a sign nor a blank. -/
theorem digits_eq_cons (n : Nat) : ∃ d cs, d < 10 ∧ digits n = digit d :: cs := by
  induction n using digits.induct with
  | case1 n h => exact ⟨n, [], h, by rw [digits, if_pos h]⟩
  | case2 n h ih =>
    obtain ⟨d, cs, hd, e⟩ := ih
    exact ⟨d, cs ++ [digit (n % 10)], hd, by rw [digits, if_neg h, e]; rfl⟩

theorem digit_ne_sign : ∀ d, d < 10 → digit d ≠ '+' ∧ digit d ≠ '-' := by decide

/-- A written integer reads back wherever its sign is admitted. -/
theorem readInt?_intDigits {minus : Bool} {z : Int} (h : z < 0 → minus = true) :
    readInt? minus (intDigits z) = some z := by
  cases z with
  | ofNat n =>
    obtain ⟨d, cs, hd, e⟩ := digits_eq_cons n
    have hs := digit_ne_sign d hd
    have hr := read?_digits n
    simp only [intDigits, e] at hr ⊢
    simp [readInt?, hs.1, hs.2, hr]
  | negSucc n =>
    have hm := h (Int.negSucc_lt_zero n)
    have hr := read?_digits (n + 1)
    simp [intDigits, readInt?, hm, hr, Int.negSucc_eq]

end Hydration.Decimal
