import Hydration.Conversion
import Hydration.Row

/-!
# Handlers and their registry

A handler reads a cell its own way.  A registry holds handlers under names, for
configuration to refer to, and under pairs of a wanted kind and a column's kind, where
the column's kind may be `any`.  A registration replaces an earlier one; the handler of
an enumeration is registered when the enumeration is first seen.
-/

namespace Hydration

/-- Reads the cell at an index of a row for a value of a kind. -/
structure Handler where
  label : String
  read : Row → Nat → Kind → Reading Value

/-- The handler that finds variants of an enumeration by name or ordinal. -/
def Handler.ofEnumeration (e : Enumeration) : Handler where
  label := "EnumHandler"
  read row index _ := (row.read index .any).bind fun v => .ofResult (e.convert v)

/-- The handlers that mappers are built with, the newest first. -/
structure Registry where
  byKinds : List ((Kind × Kind) × Handler) := []
  named : List (String × Handler) := []

namespace Registry

/-! ## Algorithm -/

def empty : Registry := ⟨[], []⟩

/-- Registers a handler for reading columns of one kind into slots of another. -/
def register (r : Registry) (wanted column : Kind) (h : Handler) : Registry :=
  { r with byKinds := ((wanted, column), h) :: r.byKinds }

/-- Registers a handler under a name. -/
def registerNamed (r : Registry) (name : String) (h : Handler) : Registry :=
  { r with named := (name, h) :: r.named }

/-- The handler for exactly this pair of kinds. -/
def find? (r : Registry) (wanted column : Kind) : Option Handler :=
  r.byKinds.lookup (wanted, column)

/-- The handler of a name. -/
def findNamed (r : Registry) (name : String) : Except Error Handler :=
  match r.named.lookup name with
  | some h => .ok h
  | none => .error (.of (.unknownHandler name))

/-- The handler of an enumeration, registered now if it is not yet. -/
def forEnumeration (r : Registry) (e : Enumeration) : Handler × Registry :=
  match r.find? (.enum e) .any with
  | some h => (h, r)
  | none => (.ofEnumeration e, r.register (.enum e) .any (.ofEnumeration e))

/-! ## Lemmas -/

theorem find?_register_self (r : Registry) (k c : Kind) (h : Handler) :
    (r.register k c h).find? k c = some h := by
  simp [register, find?]

theorem find?_register_of_ne {r : Registry} {k c k' c' : Kind} {h : Handler}
    (hne : (k', c') ≠ (k, c)) : (r.register k c h).find? k' c' = r.find? k' c' := by
  simp only [register, find?, List.lookup_cons]
  rw [beq_eq_false_iff_ne.2 hne]

end Registry

end Hydration
