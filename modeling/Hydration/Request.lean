import Hydration.ResultMap

/-!
# Requests and cache keys

A request says which statement a result set comes from and how its rows are to be
mapped.  The key of a request tells apart what needs mappers of its own: the
statement, the position of the result set, and the two options.
-/

namespace Hydration

/-- Where a result set comes from. -/
inductive Statement where
  /-- A configured statement, by its id. -/
  | named (id : String)
  /-- A statement by its text. -/
  | sql (text : String)
  deriving DecidableEq

/-- The text that tells statements apart. -/
def Statement.identity : Statement → String
  | named id => id
  | sql text => text

/-- Settings of a whole process. -/
structure Settings where
  /-- An empty cell leaves its field as constructed. -/
  ignoreNull : Bool := false
  deriving DecidableEq

/-- What the caller knows about the rows to be mapped. -/
structure Request where
  statement : Statement
  /-- Configured maps and the positions of their result sets, the newest first. -/
  resultMaps : List (Nat × ResultMap) := []
  /-- Records are to track changes made after mapping. -/
  changeTracking : Bool := false

namespace Request

/-- Sets the map of the result set at a position. -/
def withMap (r : Request) (index : Nat) (m : ResultMap) : Request :=
  { r with resultMaps := (index, m) :: r.resultMaps }

/-- The map of the result set at a position. -/
def mapAt? (r : Request) (index : Nat) : Option ResultMap := r.resultMaps.lookup index

end Request

/-- What tells mappers apart, besides the target. -/
structure CacheKey where
  id : String
  ignoreNull : Bool
  changeTracking : Bool
  deriving DecidableEq

namespace CacheKey

/-- The id of a result set: its position and its statement. -/
def idText (index : Nat) (identity : String) : String :=
  "Index:" ++ toString index ++ "_" ++ identity

/-- The key of a request's result set at a position. -/
def ofRequest (index : Nat) (request : Request) (settings : Settings) : CacheKey :=
  ⟨idText index request.statement.identity, settings.ignoreNull, request.changeTracking⟩

end CacheKey

end Hydration
