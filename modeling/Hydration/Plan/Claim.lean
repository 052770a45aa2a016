import Hydration.ResultMap
import Hydration.Row
import Hydration.Target.Basic

/-!
# Claims on fields

A column claims the field that it resolves to: by a configured property, else by the
column that a field declares, else by the field's name.  Of the columns that claim one
field the highest rank wins, and of equal ranks the earliest column; the others lose
and feed nothing.

    rank: configured > declared > name, then exact > ignoring case
-/

namespace Hydration

variable {ρ : Type}

/-- What a column's claim on a field rests on. -/
inductive Basis where
  /-- The field is called like the column. -/
  | name
  /-- The field declares the column. -/
  | declared
  /-- A configured property maps the column. -/
  | configured
  deriving DecidableEq

def Basis.weight : Basis → Nat
  | name => 0
  | declared => 1
  | configured => 2

/-- A column's claim on the field at an index. -/
structure Claim where
  field : Nat
  column : Column
  /-- The handler that the configured property names. -/
  handler : Option String
  basis : Basis
  /-- The names are equal, not only when case is ignored. -/
  exact : Bool
  deriving DecidableEq

namespace Claim

/-! ## Algorithm -/

/-- The rank of a claim: its basis first, then whether it is exact. -/
def rank (c : Claim) : Nat := 2 * c.basis.weight + if c.exact then 1 else 0

/-- The claim that a column has by a configured property. -/
def ofProperty? (t : Target ρ) (m : Option ResultMap) (c : Column) : Option Claim :=
  match m.bind fun m => m.properties.find? c.name with
  | some p => (t.fieldIndex? p.field).map fun i => ⟨i, c, p.handler, .configured, true⟩
  | none => none

/-- The claim that a column has because a field declares it. -/
def ofDeclaration? (t : Target ρ) (c : Column) : Option Claim :=
  (t.fieldIndexByColumn? c.name).map fun i =>
    ⟨i, c, none, .declared, decide ((t.field? i).bind Field.column = some c.name)⟩

/-- The claim that a column has because a field is called like it. -/
def ofName? (t : Target ρ) (c : Column) : Option Claim :=
  (t.fieldIndex? c.name).map fun i =>
    ⟨i, c, none, .name, decide ((t.field? i).map Field.name = some c.name)⟩

/-- The claim of a column, on the strongest basis there is. -/
def resolve (t : Target ρ) (m : Option ResultMap) (c : Column) : Option Claim :=
  match ofProperty? t m c with
  | some claim => some claim
  | none =>
    match ofDeclaration? t c with
    | some claim => some claim
    | none => ofName? t c

/-- The field can be written and is not one of those that the constructor initialises. -/
def isOpen (t : Target ρ) (taken : List String) (c : Claim) : Bool :=
  match t.field? c.field with
  | some f => f.isWritable && !taken.contains f.name
  | none => false

/-- A claim against the claims held so far, the oldest first: what is held now, and the column
that lost.  A held claim gives way to a higher rank only. -/
def enter (c : Claim) : List Claim → List Claim × Option Column
  | [] => ([c], none)
  | held :: rest =>
    if held.field = c.field then
      if held.rank < c.rank then (c :: rest, some held.column) else (held :: rest, some c.column)
    else
      let (rest', lost) := enter c rest
      (held :: rest', lost)

/-- Columns one after the other: the claims that are held in the end, in the order in which
their fields were first claimed, and the columns that feed nothing. -/
def contest (claim : Column → Option Claim) :
    List Column → List Claim × List Column → List Claim × List Column
  | [], state => state
  | column :: rest, (held, unmatched) =>
    match claim column with
    | none => contest claim rest (held, unmatched ++ [column])
    | some c =>
      let (held, lost) := enter c held
      contest claim rest (held, unmatched ++ lost.toList)

/-! ## Lemmas -/

theorem resolve_column {t : Target ρ} {m : Option ResultMap} {c : Column} {claim : Claim}
    (h : resolve t m c = some claim) : claim.column = c := by
  have h1 : ∀ {x}, ofProperty? t m c = some x → x.column = c := by
    intro x hx
    unfold ofProperty? at hx
    split at hx
    · obtain ⟨i, -, rfl⟩ := Option.map_eq_some_iff.1 hx
      rfl
    · cases hx
  have h2 : ∀ {x}, ofDeclaration? t c = some x → x.column = c := by
    intro x hx
    obtain ⟨i, -, rfl⟩ := Option.map_eq_some_iff.1 hx
    rfl
  have h3 : ∀ {x}, ofName? t c = some x → x.column = c := by
    intro x hx
    obtain ⟨i, -, rfl⟩ := Option.map_eq_some_iff.1 hx
    rfl
  unfold resolve at h
  split at h
  · rename_i hx
    exact h1 (hx.trans h)
  · split at h
    · rename_i hx
      exact h2 (hx.trans h)
    · exact h3 h

end Claim

end Hydration
