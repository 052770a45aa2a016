import Hydration.Source.Basic

/-!
# Rows from a stream

A source fed by a stream of rows and errors.  Rows are pulled from the stream by
`tap`, `fill` and by awaiting the next row; a blocking advance serves buffered rows
only and fails where it would have to wait.  After an error the stream goes on with
its next item.

The rows still to come, `upcoming`, are the buffered ones and then those of the stream.
Every row that becomes current leaves fewer to come.

    s.advance p = (.ok true, t) → t.left < s.left                        (left_advance)
-/

namespace Hydration

/-- One item of a stream: a row, or an error in its place. -/
abbrev StreamItem := Except Error (List Value)

/-- Columns, the buffered rows, what the stream still holds, and the current row. -/
structure StreamRows where
  columns : List Column
  buffer : List (List Value)
  /-- The items not yet pulled, until the end of the stream has been seen. -/
  stream : Option (List StreamItem)
  current : Option (List Value) := none
  resultIndex : Nat := 0

namespace StreamRows

/-! ## Algorithm -/

/-- The rows among the items of a stream. -/
def rowsOf : List StreamItem → List (List Value)
  | [] => []
  | .ok row :: rest => row :: rowsOf rest
  | .error _ :: rest => rowsOf rest

/-- The rows that have yet to become current: the buffered ones, then those of the stream. -/
def upcoming (s : StreamRows) : List (List Value) := s.buffer ++ rowsOf (s.stream.getD [])

/-- Takes the next item from the stream; nothing at its end. -/
def pull (s : StreamRows) : Except Error (Option (List Value)) × StreamRows :=
  match s.stream with
  | none => (.ok none, s)
  | some [] => (.ok none, { s with stream := none })
  | some (.ok row :: rest) => (.ok (some row), { s with stream := some rest })
  | some (.error e :: rest) => (.error e, { s with stream := some rest })

/-- Buffers a row if none is buffered and the stream has one. -/
def tap (s : StreamRows) : Except Error Unit × StreamRows :=
  if s.buffer.isEmpty then
    match s.pull with
    | (.ok (some row), t) => (.ok (), { t with buffer := [row] })
    | (.ok none, t) => (.ok (), t)
    | (.error e, t) => (.error e, t)
  else (.ok (), s)

/-- The rows up to the first error or the end, and what the stream holds behind them. -/
def gather : List StreamItem → Except Error Unit × List (List Value) × Option (List StreamItem)
  | [] => (.ok (), [], none)
  | .error e :: rest => (.error e, [], some rest)
  | .ok row :: rest =>
    let (result, rows, behind) := gather rest
    (result, row :: rows, behind)

/-- Buffers every row up to the first error or the end of the stream. -/
def fill (s : StreamRows) : Except Error Unit × StreamRows :=
  match s.stream with
  | none => (.ok (), s)
  | some items =>
    let (result, rows, behind) := gather items
    (result, { s with buffer := s.buffer ++ rows, stream := behind })

/-- A source over a stream, its first row tapped. -/
def openOn (columns : List Column) (items : List StreamItem) : Except Error StreamRows :=
  match tap ⟨columns, [], some items, none, 0⟩ with
  | (.ok (), s) => .ok s
  | (.error e, _) => .error e

def row (s : StreamRows) : Row := ⟨s.columns, s.current⟩

def hasRows (s : StreamRows) : Bool := s.current.isSome || !s.buffer.isEmpty

/-- Rows that can still become current, at most. -/
def left (s : StreamRows) : Nat := s.buffer.length + (s.stream.getD []).length

/-- The first buffered row becomes current; without one and before the end of the stream this
fails. -/
def advanceBlocking (s : StreamRows) : Except Error Bool × StreamRows :=
  match s.buffer with
  | row :: rest => (.ok true, { s with current := some row, buffer := rest })
  | [] =>
    if s.stream.isSome then (.error (.unreadable .wouldWait), s)
    else (.ok false, { s with current := none })

/-- The first buffered row becomes current, or else the next row of the stream.  An error of
the stream leaves the current row as it is. -/
def advanceAwaiting (s : StreamRows) : Except Error Bool × StreamRows :=
  match s.buffer with
  | row :: rest => (.ok true, { s with current := some row, buffer := rest })
  | [] =>
    match s.pull with
    | (.ok o, t) => (.ok o.isSome, { t with current := o })
    | (.error e, t) => (.error e, t)

def advance : Pace → StreamRows → Except Error Bool × StreamRows
  | .blocking => advanceBlocking
  | .awaiting => advanceAwaiting

/-- The shape of the source for display. -/
def outline (s : StreamRows) : Outline :=
  .record "StreamRows" [("columns", .list (s.columns.map Column.outline)),
    ("buffered", .nat s.buffer.length), ("streaming", .bool s.stream.isSome)]

/-! ## Lemmas -/

theorem left_advance {p : Pace} {s s' : StreamRows} (h : advance p s = (.ok true, s')) :
    s'.left < s.left := by
  obtain ⟨columns, buffer, stream, current, resultIndex⟩ := s
  cases buffer with
  | cons row rest =>
    cases p <;>
    · simp only [advance, advanceBlocking, advanceAwaiting, Prod.mk.injEq, true_and] at h
      subst h
      simp only [left, List.length_cons]
      omega
  | nil =>
    cases p with
    | blocking =>
      simp only [advance, advanceBlocking] at h
      split at h <;> simp at h
    | awaiting =>
      rcases stream with _ | _ | ⟨_ | row, rest⟩ <;>
        simp only [advance, advanceAwaiting, pull, Prod.mk.injEq, Except.ok.injEq,
          Option.isSome_none, Option.isSome_some, reduceCtorEq, Bool.false_eq_true, false_and,
          true_and] at h
      subst h
      simp [left]

end StreamRows

instance : RowSource StreamRows where
  row := StreamRows.row
  resultIndex := StreamRows.resultIndex
  hasRows := StreamRows.hasRows
  left := StreamRows.left
  advance := StreamRows.advance
  note _ s := s
  left_advance _ _ _ h := StreamRows.left_advance h
  left_note _ _ := rfl
  row_note _ _ := rfl
  resultIndex_note _ _ := rfl
  hasRows_note _ _ := rfl

end Hydration
