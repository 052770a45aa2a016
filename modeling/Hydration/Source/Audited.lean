import Hydration.Source.Memory

/-!
# Audited rows

Rows in memory behind a ledger of every look at them.  An audited source can be told
to fail once a number of advances has succeeded.
-/

namespace Hydration

/-- Rows in memory, the ledger of the looks at them, and when advancing starts to fail. -/
structure AuditedRows where
  rows : MemoryRows
  /-- Advances beyond this number fail. -/
  limit : Option Nat := none
  /-- Advances that have succeeded. -/
  advances : Nat := 0
  ledger : List Access := []

namespace AuditedRows

/-- The limit is reached. -/
def isSpent (a : AuditedRows) : Bool := a.limit.any fun n => decide (n ≤ a.advances)

def advance (a : AuditedRows) : Except Error Bool × AuditedRows :=
  let ledger := a.ledger ++ [.advance]
  if a.isSpent then (.error (.unreadable (.reported "advance failed")), { a with ledger })
  else (.ok a.rows.next.1, { a with rows := a.rows.next.2, advances := a.advances + 1, ledger })

/-- Writes looks into the ledger. -/
def note (l : List Access) (a : AuditedRows) : AuditedRows := { a with ledger := a.ledger ++ l }

theorem left_advance {a a' : AuditedRows} (h : a.advance = (.ok true, a')) :
    a'.rows.remaining < a.rows.remaining := by
  unfold advance at h
  simp only at h
  split at h
  · simp at h
  · simp only [Prod.mk.injEq, Except.ok.injEq] at h
    obtain ⟨h1, rfl⟩ := h
    exact MemoryRows.remaining_next (Prod.ext h1 rfl)

end AuditedRows

instance : RowSource AuditedRows where
  row a := a.rows.row
  resultIndex _ := 0
  hasRows a := a.rows.hasRows
  left a := a.rows.remaining
  advance _ := AuditedRows.advance
  note := AuditedRows.note
  left_advance _ _ _ h := AuditedRows.left_advance h
  left_note _ _ := rfl
  row_note _ _ := rfl
  resultIndex_note _ _ := rfl
  hasRows_note _ _ := rfl

end Hydration
