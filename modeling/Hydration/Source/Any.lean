import Hydration.Source.Audited
import Hydration.Source.Stream

/-!
# Sources of any kind

One type for the three kinds of sources, so that they can be held side by side.
-/

namespace Hydration

/-- A source of one of the three kinds. -/
inductive AnySource where
  | memory (rows : MemoryRows)
  | stream (rows : StreamRows)
  | audited (rows : AuditedRows)

namespace AnySource

def row : AnySource → Row
  | memory m => RowSource.row m
  | stream s => RowSource.row s
  | audited a => RowSource.row a

def resultIndex : AnySource → Nat
  | memory m => RowSource.resultIndex m
  | stream s => RowSource.resultIndex s
  | audited a => RowSource.resultIndex a

def hasRows : AnySource → Bool
  | memory m => RowSource.hasRows m
  | stream s => RowSource.hasRows s
  | audited a => RowSource.hasRows a

def left : AnySource → Nat
  | memory m => RowSource.left m
  | stream s => RowSource.left s
  | audited a => RowSource.left a

def advance (p : Pace) : AnySource → Except Error Bool × AnySource
  | memory m => ((RowSource.advance p m).1, memory (RowSource.advance p m).2)
  | stream s => ((RowSource.advance p s).1, stream (RowSource.advance p s).2)
  | audited a => ((RowSource.advance p a).1, audited (RowSource.advance p a).2)

def note (l : List Access) : AnySource → AnySource
  | memory m => memory (RowSource.note l m)
  | stream s => stream (RowSource.note l s)
  | audited a => audited (RowSource.note l a)

/-- Rows not yet advanced past, where the source knows. -/
def remaining? : AnySource → Option Nat
  | memory m => some m.remaining
  | stream _ => none
  | audited a => some a.rows.remaining

/-- What was looked at, where the source keeps account of it. -/
def ledger : AnySource → List Access
  | audited a => a.ledger
  | _ => []

end AnySource

instance : RowSource AnySource where
  row := AnySource.row
  resultIndex := AnySource.resultIndex
  hasRows := AnySource.hasRows
  left := AnySource.left
  advance := AnySource.advance
  note := AnySource.note
  left_advance p s s' h := by
    cases s <;> simp only [AnySource.advance, Prod.mk.injEq] at h <;> obtain ⟨h1, rfl⟩ := h <;>
      exact RowSource.left_advance p _ _ (Prod.ext h1 rfl)
  left_note l s := by cases s <;> exact RowSource.left_note l _
  row_note l s := by cases s <;> exact RowSource.row_note l _
  resultIndex_note l s := by cases s <;> exact RowSource.resultIndex_note l _
  hasRows_note l s := by cases s <;> exact RowSource.hasRows_note l _

end Hydration
