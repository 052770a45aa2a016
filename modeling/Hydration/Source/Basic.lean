import Hydration.Row

/-!
# Row sources

A row source is a forward cursor over the rows of one result set.  Advancing either
blocks, and fails where it would have to wait, or awaits the row.  A source knows how
many rows can still become current at most; every successful step takes one away, so
a loop over a source ends.  Keeping account of a look changes nothing that can be seen.
-/

namespace Hydration

/-- How a caller waits for the next row. -/
inductive Pace where
  /-- Only rows that are at hand. -/
  | blocking
  /-- Suspended while the row is fetched. -/
  | awaiting
  deriving DecidableEq

/-- A forward cursor over the rows of one result set. -/
class RowSource (σ : Type) where
  /-- The columns and the current row. -/
  row : σ → Row
  /-- The position of the result set in its response. -/
  resultIndex : σ → Nat
  /-- The result set has at least one row. -/
  hasRows : σ → Bool
  /-- Rows that can still become current, at most. -/
  left : σ → Nat
  /-- Moves to the next row; false once there is none. -/
  advance : Pace → σ → Except Error Bool × σ
  /-- Keeps account of a look at the source. -/
  note : List Access → σ → σ
  left_advance : ∀ p s s', advance p s = (.ok true, s') → left s' < left s
  left_note : ∀ l s, left (note l s) = left s
  row_note : ∀ l s, row (note l s) = row s
  resultIndex_note : ∀ l s, resultIndex (note l s) = resultIndex s
  hasRows_note : ∀ l s, hasRows (note l s) = hasRows s

end Hydration
