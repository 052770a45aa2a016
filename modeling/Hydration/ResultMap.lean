import Hydration.Kind
import Hydration.Roster

/-!
# Result maps

The configured mapping between the columns of a result set and a target.  Properties
are kept by column; a column that is mapped again keeps its place and takes the new
property.
-/

namespace Hydration

/-- A column and the field it is mapped to, maybe through a named handler. -/
structure Property where
  column : String
  field : String
  handler : Option String := none
  deriving DecidableEq

/-- An argument of the constructor that builds the record. -/
structure Argument where
  column : String
  /-- The kind of the argument; all kinds together select the constructor. -/
  kind : Kind
  /-- The field that the argument initialises, when it is not called like the column. -/
  name : Option String := none
  nullable : Bool := false
  handler : Option String := none
  deriving DecidableEq

/-- The field that the argument initialises. -/
def Argument.field (a : Argument) : String := a.name.getD a.column

/-- The configured mapping of one result set; every part of it is optional. -/
structure ResultMap where
  id : String := ""
  properties : Roster Property Property.column := .empty
  /-- The arguments of the constructor that builds the record. -/
  arguments : Option (List Argument) := none

namespace ResultMap

/-! ## Building -/

/-- Maps a column to a field. -/
def property (m : ResultMap) (column field : String) : ResultMap :=
  { m with properties := m.properties.put ⟨column, field, none⟩ }

/-- Maps a column to a field, read through the named handler. -/
def propertyWithHandler (m : ResultMap) (column field handler : String) : ResultMap :=
  { m with properties := m.properties.put ⟨column, field, some handler⟩ }

/-- Has records built by a constructor of these arguments. -/
def withArguments (m : ResultMap) (arguments : List Argument) : ResultMap :=
  { m with arguments := some arguments }

/-! ## Equality -/

/-- The maps agree: the order of the properties does not matter. -/
def same (m n : ResultMap) : Bool :=
  decide (m.id = n.id) && decide (m.properties.items.length = n.properties.items.length) &&
    m.properties.items.all (fun p => decide (n.properties.find? p.column = some p)) &&
    decide (m.arguments = n.arguments)

end ResultMap

end Hydration
