import Hydration.Error

/-!
# Rows and readings

A `Row` is what can be seen of a result set while it stands on a row: its columns and
the cells of the current row, if there is one.  A `Reading` is what comes of looking
at a row, together with the trail of what was looked at: a failed reading ends the
trail, so the trail shows that nothing behind the failure was read.

    (x.bind f).trail = x.trail ++ (f a).trail      if x.result = .ok a   (bind_of_ok)
    (x.bind f).trail = x.trail                     if x failed           (bind_of_error)
-/

namespace Hydration

/-- One column of a result set. -/
structure Column where
  /-- The position of the column in the row. -/
  index : Nat
  name : String
  kind : Kind
  deriving DecidableEq

namespace Column

/-- Columns numbered in their order. -/
def number (columns : List (String × Kind)) : List Column :=
  columns.zipIdx.map fun ((name, kind), index) => ⟨index, name, kind⟩

/-- The shape of a column for display. -/
def outline (c : Column) : Outline :=
  .record "Column" [("index", .nat c.index), ("name", .quoted c.name), ("ty", c.kind.outline)]

end Column

/-- A look at a source. -/
inductive Access where
  | hasRows
  | advance
  /-- Asking whether a cell is empty. -/
  | isNull (index : Nat)
  /-- Reading a cell, for a value of a kind. -/
  | read (index : Nat) (kind : Kind)
  deriving DecidableEq

/-- The look in words. -/
def Access.text : Access → String
  | hasRows => "has_rows"
  | advance => "advance"
  | isNull index => "is_null " ++ toString index
  | read index kind => "raw " ++ toString index ++ " " ++ kind.name

/-- What comes of looking at a row, and what was looked at, in order. -/
structure Reading (α : Type) where
  trail : List Access
  result : Except Error α

namespace Reading

/-! ## Algorithm -/

variable {α β : Type}

/-- Nothing is looked at. -/
def ofResult (result : Except Error α) : Reading α := ⟨[], result⟩

def bind (x : Reading α) (f : α → Reading β) : Reading β :=
  match x.result with
  | .ok a => ⟨x.trail ++ (f a).trail, (f a).result⟩
  | .error e => ⟨x.trail, .error e⟩

instance : Monad Reading where
  pure a := ofResult (.ok a)
  bind := bind

/-- The reading with a context around its error. -/
def within (x : Reading α) (context : Fault) : Reading α :=
  ⟨x.trail, x.result.mapError fun e => e.context (.of context)⟩

/-! ## Lemmas -/

@[ext] theorem ext {x y : Reading α} (ht : x.trail = y.trail) (hr : x.result = y.result) :
    x = y := by
  cases x
  cases y
  simp_all

theorem bind_of_ok {x : Reading α} {f : α → Reading β} {a : α} (h : x.result = .ok a) :
    x.bind f = ⟨x.trail ++ (f a).trail, (f a).result⟩ := by
  simp [bind, h]

theorem bind_of_error {x : Reading α} {f : α → Reading β} {e : Error} (h : x.result = .error e) :
    x.bind f = ⟨x.trail, .error e⟩ := by
  simp [bind, h]

theorem result_within_eq_ok_iff {x : Reading α} {c : Fault} {a : α} :
    (x.within c).result = .ok a ↔ x.result = .ok a := by
  unfold within
  cases x.result with
  | ok b => exact Iff.rfl
  | error e => exact ⟨nofun, nofun⟩

end Reading

/-- A result set that stands on a row, or before the first or behind the last. -/
structure Row where
  columns : List Column
  cells : Option (List Value)

namespace Row

/-! ## Algorithm -/

/-- The cell at an index. -/
def cell (r : Row) (index : Nat) : Except Error Value :=
  match r.cells with
  | none => .error (.unreadable .notAdvanced)
  | some cells =>
    match cells[index]? with
    | some v => .ok v
    | none => .error (.unreadable (.columnOutOfRange index cells.length))

/-- The cell is there and empty.  A cell that cannot be read is not empty. -/
def isNull (r : Row) (index : Nat) : Bool :=
  match r.cell index with
  | .ok v => v.isNull
  | .error _ => false

/-- Reads a cell for a value of a kind. -/
def read (r : Row) (index : Nat) (kind : Kind) : Reading Value :=
  ⟨[.read index kind], r.cell index⟩

/-- Asks whether a cell is empty. -/
def askNull (r : Row) (index : Nat) : Reading Bool :=
  ⟨[.isNull index], .ok (r.isNull index)⟩

/-- The name of a column. -/
def columnName (r : Row) (index : Nat) : String :=
  match r.columns[index]? with
  | some c => c.name
  | none => ""

/-- The kind of a column. -/
def columnKind (r : Row) (index : Nat) : Kind :=
  match r.columns[index]? with
  | some c => c.kind
  | none => .any

/-! ## Lemmas -/

theorem isNull_iff {r : Row} {i : Nat} : r.isNull i = true ↔ r.cell i = .ok .null := by
  unfold isNull
  split <;> simp_all [Value.isNull_iff]

end Row

end Hydration
