import Hydration.Handler.Registry

/-!
# Coercions

How the value of a column becomes the value of a slot.  A coercion is resolved once,
from the kinds of the column and of the slot and from the handlers there are; reading
a row looks nothing up.  The first rule that applies wins:

    a handler named by configuration, the handler of an enumeration, equal kinds,
    a handler for the two kinds, a handler for the slot's kind and `any`, a cast.
-/

namespace Hydration

/-- How the value of a column becomes the value of a slot. -/
inductive Coercion where
  /-- The column has the slot's kind. -/
  | directRead
  /-- The column has the slot's kind and the slot may be empty. -/
  | nullableUnwrap
  /-- The slot is of an enumeration. -/
  | enum (handler : Handler)
  /-- A registered handler reads the column. -/
  | handler (name : String) (handler : Handler)
  /-- The value is cast. -/
  | object

namespace Coercion

/-! ## Algorithm -/

/-- The coercion for the kinds of a slot and of a column, and the registry afterwards. -/
def resolve (r : Registry) (slot : Kind) (nullable : Bool) (column : Kind)
    (named : Option String) : Except Error Coercion × Registry :=
  match named with
  | some name => ((r.findNamed name).map (handler name), r)
  | none =>
    match slot with
    | .enum e =>
      let (h, r) := r.forEnumeration e
      (.ok (enum h), r)
    | slot =>
      if slot = column then (.ok (if nullable then nullableUnwrap else directRead), r)
      else
        match r.find? slot column with
        | some h => (.ok (handler (slot.name ++ "<-" ++ column.name) h), r)
        | none =>
          match r.find? slot .any with
          | some h => (.ok (handler (slot.name ++ "<-" ++ Kind.any.name) h), r)
          | none => (.ok object, r)

/-- What a slot is given for a value: an empty cell becomes the default of the slot's kind
unless the slot may be empty. -/
def fill (slot : Kind) (nullable : Bool) (v : Value) : Value :=
  if v.isNull && !nullable then slot.defaultValue else v

/-- Reads the cell at an index for a slot.  A handler decides for itself what becomes of an
empty cell. -/
def read (c : Coercion) (row : Row) (index : Nat) (slot : Kind) (nullable : Bool) :
    Reading Value :=
  match c with
  | directRead | nullableUnwrap =>
    (row.read index slot).bind fun v => .ofResult (.ok (fill slot nullable v))
  | enum h => (h.read row index slot).bind fun v => .ofResult (.ok (fill slot nullable v))
  | handler _ h => h.read row index slot
  | object =>
    (row.read index .any).bind fun v => .ofResult ((slot.cast v).map (fill slot nullable))

/-- The handler that the coercion reads by. -/
def handler? : Coercion → Option Handler
  | enum h => some h
  | handler _ h => some h
  | _ => none

/-- The shape of a coercion for display. -/
def outline : Coercion → Outline
  | directRead => .word "DirectRead"
  | nullableUnwrap => .word "NullableUnwrap"
  | enum _ => .word "Enum"
  | handler name _ => .tuple "Handler" [.quoted name]
  | object => .word "Object"

end Coercion

end Hydration
