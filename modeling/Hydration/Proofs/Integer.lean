import Hydration.Conversion
import Hydration.Proofs.Text.Trimming
import Hydration.Proofs.Traversal
import Mathlib.Data.Nat.Digits.Defs

/-!
# Conversion to an integer is exact

A value denotes an integer when it is one in any width, a text that is a numeral between blanks, or
a double without a fraction.  It is converted to a width exactly when the width holds what it
denotes, and to nothing else; nothing wraps and nothing is clamped.

    Decimal.readInt? signed cs = some z  ↔  Numeral signed cs z            (readInt?_eq_some_iff)
    v.toInt w = .ok m  ↔  v denotes m.value and m is of width w            (toInt_exact)
    n.through ws = .ok m  ↔  every width on the way holds n, and m is n    (through_eq_ok_iff)
-/

namespace Hydration

open Traversal

/-! ## Algorithm -/

namespace Decimal

/-- One or more decimal digits. -/
structure Digits (ds : List Char) : Prop where
  ne_nil : ds ≠ []
  isDigit : ∀ c ∈ ds, c.isDigit = true

/-- The value of digits by their places, of which the last counts ones. -/
def placeValue (ds : List Char) : Nat :=
  Nat.ofDigits 10 (ds.reverse.map fun c => c.toNat - '0'.toNat)

/-- The integer that a numeral writes: digits, behind a plus sign or a minus sign or none.  A minus
sign is for signed numerals only. -/
inductive Numeral (signed : Bool) : List Char → Int → Prop
  | bare {ds : List Char} (digits : Digits ds) : Numeral signed ds (placeValue ds)
  | plus {ds : List Char} (digits : Digits ds) : Numeral signed ('+' :: ds) (placeValue ds)
  | minus {ds : List Char} (digits : Digits ds) (admitted : signed = true) :
    Numeral signed ('-' :: ds) (-(placeValue ds : Int))

end Decimal

/-- The value stands for the integer. -/
inductive Value.Denotes (signed : Bool) : Value → Int → Prop
  | int (n : SizedInt) : Denotes signed (.int n) n.value
  | text {s : String} {core : List Char} {z : Int} (trims : Text.Trims s.toList core)
      (numeral : Decimal.Numeral signed core z) : Denotes signed (.text s) z
  | double {x : Float} {z : Int} (integral : Binary64.integer? x = some z) :
      Denotes signed (.double x) z

/-- The integer converted to one width after the other. -/
def SizedInt.through (ws : List IntWidth) (n : SizedInt) : Except Error SizedInt :=
  ws.foldlM (fun n w => (Value.int n).toInt w) n

/-! ## Lemmas -/

namespace Decimal

variable {c : Char} {cs : List Char} {signed : Bool} {acc n : Nat} {z : Int}

theorem placeValue_cons (c : Char) (cs : List Char) :
    placeValue (c :: cs) = (c.toNat - '0'.toNat) * 10 ^ cs.length + placeValue cs := by
  simp only [placeValue, List.reverse_cons, List.map_append, List.map_cons, List.map_nil,
    Nat.ofDigits_append, Nat.ofDigits_singleton, List.length_map, List.length_reverse]
  rw [Nat.add_comm, Nat.mul_comm]

theorem digitValue?_of_isDigit (h : c.isDigit = true) :
    digitValue? c = some (c.toNat - '0'.toNat) := by
  obtain ⟨hlo, hhi⟩ := Char.isDigit_iff_toNat.1 h
  exact if_pos ⟨hlo, hhi⟩

theorem digitValue?_of_not_isDigit (h : c.isDigit = false) : digitValue? c = none := by
  refine if_neg fun hc => ?_
  rw [Char.isDigit_iff_toNat.2 hc] at h
  cases h

/-- Reading digits moves what was read before to the left and adds their value. -/
theorem readFrom_eq_some_iff :
    readFrom acc cs = some n ↔
      (∀ c ∈ cs, c.isDigit = true) ∧ acc * 10 ^ cs.length + placeValue cs = n := by
  induction cs generalizing acc with
  | nil => simp [readFrom, placeValue]
  | cons c cs ih =>
    rw [readFrom, List.forall_mem_cons]
    cases hc : c.isDigit with
    | false => simp [digitValue?_of_not_isDigit hc]
    | true =>
      have hplaces : (10 * acc + (c.toNat - '0'.toNat)) * 10 ^ cs.length + placeValue cs =
          acc * 10 ^ (c :: cs).length + placeValue (c :: cs) := by
        rw [placeValue_cons, List.length_cons]
        ring
      rw [digitValue?_of_isDigit hc, ← hplaces]
      simpa using ih

theorem read?_eq_some_iff : read? cs = some n ↔ Digits cs ∧ placeValue cs = n := by
  unfold read?
  by_cases hnil : cs = []
  · have hnone : ¬Digits cs := fun h => h.ne_nil hnil
    simp [hnil, hnil ▸ hnone]
  · rw [if_neg hnil, readFrom_eq_some_iff, Nat.zero_mul, Nat.zero_add]
    exact and_congr_left' ⟨fun h => ⟨hnil, h⟩, Digits.isDigit⟩

theorem map_read?_eq_some_iff (f : Nat → Int) :
    (read? cs).map f = some z ↔ Digits cs ∧ f (placeValue cs) = z := by
  simp only [Option.map_eq_some_iff, read?_eq_some_iff]
  constructor
  · rintro ⟨n, ⟨hd, rfl⟩, hz⟩
    exact ⟨hd, hz⟩
  · rintro ⟨hd, hz⟩
    exact ⟨placeValue cs, ⟨hd, rfl⟩, hz⟩

/-- A sign is no digit. -/
theorem not_digits_of_sign (h : c = '+' ∨ c = '-') (ds : List Char) : ¬Digits (c :: ds) := by
  intro hd
  have hc := hd.isDigit c List.mem_cons_self
  rcases h with rfl | rfl <;> cases hc

theorem numeral_plus_iff {ds : List Char} :
    Numeral signed ('+' :: ds) z ↔ Digits ds ∧ (placeValue ds : Int) = z := by
  constructor
  · intro h
    cases h with
    | bare hd => exact absurd hd (not_digits_of_sign (.inl rfl) ds)
    | plus hd => exact ⟨hd, rfl⟩
  · rintro ⟨hd, rfl⟩
    exact .plus hd

theorem numeral_minus_iff {ds : List Char} :
    Numeral true ('-' :: ds) z ↔ Digits ds ∧ -(placeValue ds : Int) = z := by
  constructor
  · intro h
    cases h with
    | bare hd => exact absurd hd (not_digits_of_sign (.inr rfl) ds)
    | minus hd => exact ⟨hd, rfl⟩
  · rintro ⟨hd, rfl⟩
    exact .minus hd rfl

theorem numeral_bare_iff (hplus : c ≠ '+') (hminus : ¬(c = '-' ∧ signed = true))
    {ds : List Char} :
    Numeral signed (c :: ds) z ↔ Digits (c :: ds) ∧ (placeValue (c :: ds) : Int) = z := by
  constructor
  · intro h
    cases h with
    | bare hd => exact ⟨hd, rfl⟩
    | plus hd => exact absurd rfl hplus
    | minus hd hs => exact absurd ⟨rfl, hs⟩ hminus
  · rintro ⟨hd, rfl⟩
    exact .bare hd

theorem readInt?_cons (signed : Bool) (c : Char) (ds : List Char) :
    readInt? signed (c :: ds) =
      if c = '+' then (read? ds).map Int.ofNat
      else if c = '-' ∧ signed = true then (read? ds).map fun n : Nat => -(n : Int)
      else (read? (c :: ds)).map Int.ofNat := by
  simp only [readInt?]
  cases read? ds <;> rfl

/-- Reading accepts the numerals and gives the integers that they write. -/
theorem readInt?_eq_some_iff : readInt? signed cs = some z ↔ Numeral signed cs z := by
  cases cs with
  | nil =>
    constructor
    · nofun
    · intro h
      cases h with
      | bare hd => exact absurd rfl hd.ne_nil
  | cons c ds =>
    rw [readInt?_cons]
    by_cases hplus : c = '+'
    · rw [if_pos hplus, map_read?_eq_some_iff, hplus, numeral_plus_iff]
      rfl
    · rw [if_neg hplus]
      by_cases hminus : c = '-' ∧ signed = true
      · rw [if_pos hminus, map_read?_eq_some_iff, hminus.1, hminus.2, numeral_minus_iff]
      · rw [if_neg hminus, map_read?_eq_some_iff, numeral_bare_iff hplus hminus]
        rfl

end Decimal

/-! ### Conversions -/

namespace Value

variable {v : Value} {w : IntWidth} {m : SizedInt} {e : Error}

/-- What is found of an integer that may be denoted becomes the result. -/
theorem bind_ofInt?_eq_some_iff {o : Option Int} :
    o.bind (SizedInt.ofInt? w) = some m ↔
      ∃ z, o = some z ∧ w.Holds z ∧ m.width = w ∧ m.value = z := by
  simp only [Option.bind_eq_some_iff, SizedInt.ofInt?_eq_some_iff]

/-- A text is converted when a numeral stands in it between blanks and the width holds it. -/
theorem read?_trim_eq_some_iff {s : String} :
    SizedInt.read? w (Text.trim s.toList) = some m ↔
      ∃ z, Denotes w.isSigned (.text s) z ∧ w.Holds z ∧ m.width = w ∧ m.value = z := by
  unfold SizedInt.read?
  simp only [bind_ofInt?_eq_some_iff, Decimal.readInt?_eq_some_iff]
  refine exists_congr fun z => and_congr_left' ?_
  constructor
  · intro hz
    exact .text (Text.trims_trim s.toList) hz
  · intro hz
    cases hz with
    | text trims numeral =>
      rw [Text.trim_eq_iff.2 trims]
      exact numeral

/-- A conversion gives what the value denotes, if the width holds it. -/
theorem toInt_eq_ok_iff :
    v.toInt w = .ok m ↔
      ∃ z, v.Denotes w.isSigned z ∧ w.Holds z ∧ m.width = w ∧ m.value = z := by
  unfold toInt
  rw [orElse_eq_ok_iff]
  cases v with
  | int n =>
    rw [SizedInt.ofInt?_eq_some_iff]
    constructor
    · intro h
      exact ⟨n.value, .int n, h⟩
    · rintro ⟨_, ⟨⟩, h⟩
      exact h
  | text s => exact read?_trim_eq_some_iff
  | double x =>
    rw [bind_ofInt?_eq_some_iff]
    refine exists_congr fun z => and_congr_left' ⟨.double, fun h => ?_⟩
    cases h with
    | double integral => exact integral
  | _ =>
    constructor
    · nofun
    · rintro ⟨_, ⟨⟩, -⟩

/-- A conversion fails when the width does not hold what the value denotes, if it denotes any. -/
theorem toInt_eq_error_iff :
    v.toInt w = .error e ↔
      (∀ z, v.Denotes w.isSigned z → ¬w.Holds z) ∧ e = .conversion v w.name := by
  constructor
  · intro h
    refine ⟨fun z hz hw => ?_, (orElse_eq_error_iff.1 h).2⟩
    have hok : v.toInt w = .ok ⟨w, z, hw⟩ := toInt_eq_ok_iff.2 ⟨z, hz, hw, rfl, rfl⟩
    rw [h] at hok
    cases hok
  · rintro ⟨hnone, rfl⟩
    cases h : v.toInt w with
    | error e' => rw [(orElse_eq_error_iff.1 h).2]
    | ok m =>
      obtain ⟨z, hz, hw, -⟩ := toInt_eq_ok_iff.1 h
      exact absurd hw (hnone z hz)

/-- From width to width an integer stays the same. -/
theorem toInt_int_eq_ok_iff {n : SizedInt} :
    (Value.int n).toInt w = .ok m ↔ w.Holds n.value ∧ m.width = w ∧ m.value = n.value := by
  unfold toInt
  rw [orElse_eq_ok_iff]
  exact SizedInt.ofInt?_eq_some_iff

end Value

/-- Widths that hold an integer may be passed one after the other, and it stays the same. -/
theorem SizedInt.through_eq_ok_iff {ws : List IntWidth} {n m : SizedInt} :
    n.through ws = .ok m ↔
      (∀ w ∈ ws, w.Holds n.value) ∧ m.width = ws.getLastD n.width ∧ m.value = n.value := by
  induction ws generalizing n with
  | nil =>
    obtain ⟨width, value, holds⟩ := n
    obtain ⟨width', value', holds'⟩ := m
    show Except.ok _ = Except.ok _ ↔ _
    simp [eq_comm]
  | cons w ws ih =>
    have hcons : n.through (w :: ws) = ((Value.int n).toInt w).bind (through ws) := rfl
    rw [hcons, bind_eq_ok_iff, List.forall_mem_cons, List.getLastD_cons]
    simp only [ih, Value.toInt_int_eq_ok_iff]
    constructor
    · rintro ⟨k, ⟨hw, hkw, hkv⟩, hws, hwidth, hvalue⟩
      rw [hkv] at hws hvalue
      rw [hkw] at hwidth
      exact ⟨⟨hw, hws⟩, hwidth, hvalue⟩
    · rintro ⟨⟨hw, hws⟩, hwidth, hvalue⟩
      exact ⟨⟨w, n.value, hw⟩, ⟨hw, rfl, rfl⟩, hws, hwidth, hvalue⟩

/-! ## Top theorems -/

/-- A value is converted to a width exactly when it denotes an integer that the width holds, and
then to that integer; otherwise the value could not be converted.  So an integer that goes from
width to width comes out as it went in, or it does not come out. -/
theorem Value.toInt_exact :
    (∀ (w : IntWidth) (v : Value) (m : SizedInt), v.toInt w = .ok m ↔
      ∃ z, v.Denotes w.isSigned z ∧ w.Holds z ∧ m.width = w ∧ m.value = z) ∧
    (∀ (w : IntWidth) (v : Value) (e : Error), v.toInt w = .error e ↔
      (∀ z, v.Denotes w.isSigned z → ¬w.Holds z) ∧ e = .conversion v w.name) ∧
    ∀ (ws : List IntWidth) (n m : SizedInt), n.through ws = .ok m ↔
      (∀ w ∈ ws, w.Holds n.value) ∧ m.width = ws.getLastD n.width ∧ m.value = n.value :=
  ⟨fun _ _ _ => toInt_eq_ok_iff, fun _ _ _ => toInt_eq_error_iff,
    fun _ _ _ => SizedInt.through_eq_ok_iff⟩

/-- Zero with a minus sign is no numeral of an unsigned width. -/
example : (Value.text " -0128\n").toInt .i8 = .ok ⟨.i8, -128, by decide⟩ ∧
    (Value.text "-0").toInt .u8 = .error (.conversion (.text "-0") "u8") := by
  decide

end Hydration
