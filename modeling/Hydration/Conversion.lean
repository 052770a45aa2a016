import Hydration.Decimal.Reader
import Hydration.Error
import Hydration.Text.Blank
import Hydration.Text.Utf8

/-!
# Conversions and casts

A *conversion* gives a field a value of its kind and is strict: numbers go between
widths when they fit and are read from texts, nothing else changes its kind.  A
*cast* is looser: it passes empty cells through, and anything becomes a text.
Conversions to an enumeration find a variant by name or by ordinal.
-/

namespace Hydration

namespace Value

/-! ## Conversions -/

/-- The value itself, or the error that it cannot become what is wanted. -/
def orElse (v : Value) (wanted : String) {α : Type} : Option α → Except Error α
  | some a => .ok a
  | none => .error (.conversion v wanted)

def toBool (v : Value) : Except Error Bool :=
  v.orElse "bool" <| match v with
    | bool b => some b
    | _ => none

/-- An integer that fits, a numeral between blanks, or a double that is an integer. -/
def toInt (w : IntWidth) (v : Value) : Except Error SizedInt :=
  v.orElse w.name <| match v with
    | int n => SizedInt.ofInt? w n.value
    | text s => SizedInt.read? w (Text.trim s.toList)
    | double x => (Binary64.integer? x).bind (SizedInt.ofInt? w)
    | _ => none

def toDouble (v : Value) : Except Error Float :=
  v.orElse "f64" <| match v with
    | int n => some (Float.ofInt n.value)
    | double x => some x
    | text s => Decimal.readFloat? (Text.trim s.toList)
    | _ => none

def toText (v : Value) : Except Error String :=
  v.orElse "String" v.text?

def toBytes (v : Value) : Except Error (List UInt8) :=
  v.orElse "Bytes" <| match v with
    | bytes bs => some bs
    | _ => none

def toUuid (v : Value) : Except Error Uuid :=
  v.orElse "Uuid" <| match v with
    | uuid u => some u
    | text s => Uuid.read? s
    | _ => none

def toVariant (v : Value) : Except Error Variant :=
  v.orElse "Enum" v.variant?

end Value

/-- The value as one of the kind; a variant of any enumeration will do for an enumeration. -/
def Kind.convert (k : Kind) (v : Value) : Except Error Value :=
  match k with
  | .bool => v.toBool.map .bool
  | .text => v.toText.map .text
  | .int w => (v.toInt w).map .int
  | .double => v.toDouble.map .double
  | .bytes => v.toBytes.map .bytes
  | .uuid => v.toUuid.map .uuid
  | .enum _ => v.toVariant.map .enum
  | .any => .ok v

/-! ## Enumerations -/

namespace Enumeration

/-- The ordinal that a value stands for: a text by its trimmed name, a variant by its name or
else by its ordinal, an integer by itself. -/
def ordinalFor? (e : Enumeration) : Value → Option Nat
  | .text s => e.ordinalOf? (String.ofList (Text.trim s.toList))
  | .enum v =>
    match e.ordinalOf? v.name with
    | some i => some i
    | none => if v.ordinal < e.variants.length then some v.ordinal else none
  | .int n => if 0 ≤ n.value then some n.value.toNat else none
  | _ => none

/-- The variant that a value stands for; an empty cell stays empty. -/
def convert (e : Enumeration) (v : Value) : Except Error Value :=
  if v.isNull then .ok .null
  else v.orElse e.name (((e.ordinalFor? v).bind e.variant?).map .enum)

end Enumeration

/-! ## Casts -/

namespace Value

/-- A truth value: a number by being other than zero, a text between blanks by its word. -/
def castBool (v : Value) : Except Error Bool :=
  v.orElse "bool" <| match v with
    | int n => some (n.value ≠ 0)
    | bool b => some b
    | text s =>
      let word := Text.trim s.toList
      if word = ['1'] then some true
      else if word = ['0'] then some false
      else if word.map Char.toLower = "true".toList then some true
      else if word.map Char.toLower = "false".toList then some false
      else none
    | _ => none

/-- A text: octets by their UTF-8 reading, everything else by its display. -/
def castText (v : Value) : Except Error String :=
  match v with
  | bytes bs => v.orElse "String" (Text.Utf8.decode? bs)
  | v => .ok v.display

/-- Octets: those of a text in UTF-8 or of a UUID. -/
def castBytes (v : Value) : Except Error (List UInt8) :=
  match v with
  | text s => .ok (Text.Utf8.encode s)
  | uuid u => .ok u.octets
  | v => v.toBytes

/-- A UUID: sixteen octets, or what a text writes. -/
def castUuid (v : Value) : Except Error Uuid :=
  match v with
  | bytes bs => v.orElse "Uuid" (Uuid.ofOctets? bs)
  | v => v.toUuid

end Value

/-- The value cast to the kind.  An empty cell stays empty. -/
def Kind.cast (k : Kind) (v : Value) : Except Error Value :=
  if v.isNull then .ok v
  else
    match k with
    | .any => .ok v
    | .bool => v.castBool.map .bool
    | .text => v.castText.map .text
    | .int w => (v.toInt w).map .int
    | .double => v.toDouble.map .double
    | .bytes => v.castBytes.map .bytes
    | .uuid => v.castUuid.map .uuid
    | .enum e => e.convert v

/-! ## Lemmas -/

theorem Kind.cast_null (k : Kind) : k.cast .null = .ok .null := rfl

theorem Value.orElse_eq_ok_iff {v : Value} {wanted : String} {α : Type} {o : Option α} {a : α} :
    v.orElse wanted o = .ok a ↔ o = some a := by
  cases o <;> simp [orElse]

theorem Value.orElse_eq_error_iff {v : Value} {wanted : String} {α : Type} {o : Option α}
    {e : Error} : v.orElse wanted o = .error e ↔ o = none ∧ e = .conversion v wanted := by
  cases o <;> simp [orElse, eq_comm]

end Hydration
