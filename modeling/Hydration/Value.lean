import Hydration.Decimal.Layout
import Hydration.Kind
import Hydration.Uuid

/-!
# Values

What a cell of a row holds, and what a field is given.  `Value.same` compares values
as numbers compare: a NaN differs from itself and the two zeros are one.
-/

namespace Hydration

/-- What a cell of a row holds. -/
inductive Value where
  | bool (b : Bool)
  | int (n : SizedInt)
  | double (x : Float)
  | text (s : String)
  | bytes (bs : List UInt8)
  | uuid (u : Uuid)
  | enum (v : Variant)
  /-- The cell holds no value. -/
  | null
  deriving DecidableEq

namespace Value

/-! ## Algorithm -/

def isNull : Value → Bool
  | null => true
  | _ => false

/-- What the value is called in errors. -/
def name : Value → String
  | bool _ => "Bool"
  | int n => n.width.title
  | double _ => "F64"
  | text _ => "String"
  | bytes _ => "Bytes"
  | uuid _ => "Uuid"
  | enum _ => "Enum"
  | null => "Null"

def text? : Value → Option String
  | text s => some s
  | _ => none

def variant? : Value → Option Variant
  | enum v => some v
  | _ => none

/-- The text of a value: numerals in decimal, octets in hexadecimal, a variant by its name. -/
def display : Value → String
  | bool b => if b then "true" else "false"
  | int n => n.text
  | double x => Decimal.Layout.plain.text x
  | text s => s
  | bytes bs => String.ofList (Text.Hex.digits bs)
  | uuid u => u.text
  | enum v => v.name
  | null => "null"

/-- Equality of values; doubles compare as numbers. -/
def same : Value → Value → Bool
  | double x, double y => x == y
  | a, b => decide (a = b)

/-- The shape of a value for display. -/
def outline (v : Value) : Outline :=
  match v with
  | bool b => .tuple v.name [.bool b]
  | int n => .tuple v.name [.word n.text]
  | double x => .tuple v.name [.word (Decimal.Layout.tagged.text x)]
  | text s => .tuple v.name [.quoted s]
  | bytes bs => .tuple v.name [.list (bs.map fun b => .nat b.toNat)]
  | uuid u => .tuple v.name [.word u.text]
  | enum e => .tuple v.name [e.outline]
  | null => .word v.name

/-! ## Lemmas -/

theorem isNull_iff {v : Value} : v.isNull = true ↔ v = null := by
  cases v <;> simp [isNull]

end Value

/-! ## Kinds of values -/

namespace Kind

/-- What a field of this kind holds when its column holds no value and the field may not be
empty.  A kind without a value of its own has none. -/
def defaultValue : Kind → Value
  | bool => .bool false
  | text => .text ""
  | int w => .int (.zero w)
  | double => .double 0.0
  | bytes => .bytes []
  | uuid => .uuid .zero
  | enum e =>
    match e.variant? 0 with
    | some v => .enum v
    | none => .null
  | any => .null

/-- The value belongs to the kind.  Every value belongs to `any`; a variant belongs to an
enumeration that has its name at its ordinal. -/
def Inhabits : Value → Kind → Prop
  | _, any => True
  | .bool _, bool => True
  | .int n, int w => n.width = w
  | .double _, double => True
  | .text _, text => True
  | .bytes _, bytes => True
  | .uuid _, uuid => True
  | .enum v, enum e => e.variant? v.ordinal = some v
  | _, _ => False

end Kind

end Hydration
