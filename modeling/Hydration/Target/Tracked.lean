import Hydration.Target.Basic

/-!
# Tracked records

A record together with a log of the fields that were changed.  The log lists each
name once, in the order of the first change since tracking was turned on or the
record was marked clean; while tracking is off nothing is logged.  `Target.tracked`
describes the tracked form of a target: the same fields and constructors, around the
record inside.
-/

namespace Hydration

variable {ρ : Type}

/-- A record and the log of its changes. -/
structure Tracked (ρ : Type) where
  inner : ρ
  tracking : Bool := false
  /-- Names of changed fields, in the order of their first change. -/
  changed : List String := []
  /-- The description by which fields are set, from the first time one is. -/
  described : Option (Target ρ) := none

namespace Tracked

/-! ## Algorithm -/

/-- A record with tracking off. -/
def of (r : ρ) : Tracked ρ := ⟨r, false, [], none⟩

/-- Turns tracking on and forgets every change so far. -/
def enable (t : Tracked ρ) : Tracked ρ := { t with tracking := true, changed := [] }

/-- Forgets every change. -/
def markClean (t : Tracked ρ) : Tracked ρ := { t with changed := [] }

/-- Logs a change, while tracking is on. -/
def record (field : String) (t : Tracked ρ) : Tracked ρ :=
  if t.tracking then
    { t with changed := if field ∈ t.changed then t.changed else t.changed ++ [field] }
  else t

def isChanged (t : Tracked ρ) (field : String) : Bool := decide (field ∈ t.changed)

/-- Changes the record inside and logs the change of a field. -/
def update (field : String) (change : ρ → ρ) (t : Tracked ρ) : Tracked ρ :=
  record field { t with inner := change t.inner }

/-- The record inside, as a part. -/
def part : Part (Tracked ρ) ρ := ⟨inner, fun r t => { t with inner := r }⟩

/-- Writes a value into the field called `field` and logs the change under the field's own
name.  The description given the first time is kept for later. -/
def set (target : Target ρ) (field : String) (v : Value) (t : Tracked ρ) :
    Except Error Unit × Tracked ρ :=
  let target := t.described.getD target
  let t := { t with described := some target }
  match (target.fieldIndex? field).bind target.field? with
  | none => (.error (.of (.unknownField target.name field)), t)
  | some f =>
    match f.set v t.inner with
    | (.ok (), r) => (.ok (), record f.name { t with inner := r })
    | (.error e, r) => (.error e, { t with inner := r })

/-! ## Lemmas -/

theorem inner_record (field : String) (t : Tracked ρ) : (t.record field).inner = t.inner := by
  unfold record
  split <;> rfl

theorem tracking_record (field : String) (t : Tracked ρ) :
    (t.record field).tracking = t.tracking := by
  unfold record
  split <;> rfl

end Tracked

/-- The tracked form of a target. -/
def Target.tracked (t : Target ρ) : Target (Tracked ρ) where
  name := "Tracked<" ++ t.name ++ ">"
  fields := ⟨t.fields.items.map (Field.lift Tracked.part), by
    rw [List.map_map]
    exact t.fields.distinct⟩
  constructors := t.constructors.map (Constructor.map Tracked.of)
  blank := t.blank.map Tracked.of
  trackingHook := some Tracked.enable

end Hydration
