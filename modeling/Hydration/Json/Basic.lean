/-!
# JSON documents

Documents as trees.  An object keeps every member in its order, repeated keys too,
because what a repeated key means is for the reader of the object to say.  A string
literal may hold an escape that is half of a surrogate pair; such a literal is well
formed and denotes no text.
-/

namespace Hydration

/-- A JSON document. -/
inductive Json where
  | null
  | bool (b : Bool)
  /-- A number, by its numeral. -/
  | number (numeral : String)
  /-- A string; `none` for a literal that denotes no text. -/
  | string (text : Option String)
  | array (items : List Json)
  /-- The members in their order, repeated keys included. -/
  | object (members : List (Option String × Json))
  deriving Inhabited

end Hydration
