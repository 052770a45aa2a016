import Hydration.Source.Basic

/-!
# Rows in memory

A source over rows that are all at hand.  Both paces of advancing are the same.
-/

namespace Hydration

/-- Columns, the rows to come and the current row. -/
structure MemoryRows where
  columns : List Column
  pending : List (List Value)
  current : Option (List Value) := none
  resultIndex : Nat := 0

namespace MemoryRows

/-! ## Algorithm -/

/-- A source that stands before the first of the rows. -/
def ofRows (columns : List Column) (rows : List (List Value)) : MemoryRows :=
  ⟨columns, rows, none, 0⟩

/-- One more row at the end. -/
def push (m : MemoryRows) (row : List Value) : MemoryRows :=
  { m with pending := m.pending ++ [row] }

/-- Number of rows not yet advanced past. -/
def remaining (m : MemoryRows) : Nat := m.pending.length

def row (m : MemoryRows) : Row := ⟨m.columns, m.current⟩

def hasRows (m : MemoryRows) : Bool := m.current.isSome || !m.pending.isEmpty

/-- The first row to come becomes current. -/
def next (m : MemoryRows) : Bool × MemoryRows :=
  match m.pending with
  | [] => (false, { m with current := none })
  | r :: rest => (true, { m with current := some r, pending := rest })

/-! ## Lemmas -/

theorem remaining_next {m m' : MemoryRows} (h : m.next = (true, m')) :
    m'.remaining < m.remaining := by
  unfold next at h
  unfold remaining
  split at h
  · simp at h
  · rename_i r rest hp
    simp only [Prod.mk.injEq, true_and] at h
    subst h
    simp [hp]

end MemoryRows

instance : RowSource MemoryRows where
  row := MemoryRows.row
  resultIndex := MemoryRows.resultIndex
  hasRows := MemoryRows.hasRows
  left := MemoryRows.remaining
  advance _ m := (.ok m.next.1, m.next.2)
  note _ m := m
  left_advance := by
    intro _ m m' h
    simp only [Prod.mk.injEq, Except.ok.injEq] at h
    exact MemoryRows.remaining_next (Prod.ext h.1 h.2)
  left_note _ _ := rfl
  row_note _ _ := rfl
  resultIndex_note _ _ := rfl
  hasRows_note _ _ := rfl

end Hydration
