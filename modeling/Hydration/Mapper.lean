import Hydration.Event
import Hydration.Plan.Basic

/-!
# Mappers

A mapper turns the current row of a result set into a record.  All that depends on
the shape of the result set was settled by the plan: mapping a row reads the
constructor's arguments in order, builds the record, then reads and writes one field
after the other, and last turns tracking on.  The first step that fails ends it.
-/

namespace Hydration

variable {ρ : Type}

/-- Turns the current row of a result set into a record. -/
structure Mapper (ρ : Type) where
  key : CacheKey
  map : Row → Reading ρ

/-- The shape of a mapper for display. -/
def Mapper.outline (m : Mapper ρ) : Outline :=
  .record "CompiledMapper" [("key", .record "CacheKey" [("id", .quoted m.key.id),
    ("ignore_db_null", .bool m.key.ignoreNull),
    ("change_tracking", .bool m.key.changeTracking)])]

namespace Binding

/-- Reads the binding's column for what it feeds. -/
def read (b : Binding) (row : Row) : Reading Value :=
  (b.coercion.read row b.column.index b.kind b.nullable).within
    (.readingColumn b.column.name b.name)

end Binding

/-- Reads columns one after the other. -/
def readAll : List Binding → Row → Reading (List Value)
  | [], _ => .ofResult (.ok [])
  | b :: rest, row => (b.read row).bind fun v => (readAll rest row).bind fun vs =>
      .ofResult (.ok (v :: vs))

/-- How a mapper makes a record before it writes fields. -/
inductive Creation (ρ : Type) where
  | blank (record : ρ)
  | construct (arguments : List Binding) (build : List Value → Except Error ρ)

/-- A record made from the current row. -/
def Creation.create : Creation ρ → Row → Reading ρ
  | blank record, _ => .ofResult (.ok record)
  | construct arguments build, row =>
    (readAll arguments row).bind fun values => .ofResult (build values)

/-- A field that a mapper writes. -/
structure Writer (ρ : Type) where
  binding : Binding
  setter : Setter ρ

namespace Writer

/-- Reads the column and writes the field. -/
def write (w : Writer ρ) (row : Row) (record : ρ) : Reading ρ :=
  (w.binding.read row).bind fun v =>
    match w.setter v record with
    | (.ok (), record) => .ofResult (.ok record)
    | (.error e, _) =>
      (Reading.ofResult (.error e)).within (.settingField w.binding.name w.binding.column.name)

/-- `write`, except that an empty cell leaves the record as it is when `ignoreNull` is set. -/
def apply (ignoreNull : Bool) (w : Writer ρ) (row : Row) (record : ρ) : Reading ρ :=
  if ignoreNull then
    (row.askNull w.binding.column.index).bind fun isNull =>
      if isNull then .ofResult (.ok record) else w.write row record
  else w.write row record

/-- Fields one after the other. -/
def applyAll (ignoreNull : Bool) : List (Writer ρ) → Row → ρ → Reading ρ
  | [], _, record => .ofResult (.ok record)
  | w :: rest, row, record => (w.apply ignoreNull row record).bind (applyAll ignoreNull rest row)

end Writer

/-- All that a mapper does with a row. -/
structure Recipe (ρ : Type) where
  creation : Creation ρ
  writers : List (Writer ρ)
  ignoreNull : Bool
  /-- Turns tracking on in the end. -/
  hook : Option (ρ → ρ)

namespace Recipe

/-- The record of the current row. -/
def map (recipe : Recipe ρ) (row : Row) : Reading ρ :=
  (recipe.creation.create row).bind fun record =>
    (Writer.applyAll recipe.ignoreNull recipe.writers row record).bind fun record =>
      .ofResult (.ok (match recipe.hook with
        | some hook => hook record
        | none => record))

end Recipe

namespace Plan

/-! ## Synthesis -/

/-- How the plan's records are made. -/
def creation (p : Plan) (t : Target ρ) : Except Error (Creation ρ) :=
  match p.construction with
  | .blank =>
    match t.blank with
    | some record => .ok (.blank record)
    | none => .error (.of (.noUsableConstructor t.name))
  | .constructor index =>
    match t.constructors[index]? with
    | some c => .ok (.construct p.arguments c.build)
    | none => .error (.of (.missingConstructor index t.name))

/-- The field that a binding writes. -/
def writer (t : Target ρ) (b : Binding) : Except Error (Writer ρ) :=
  match b.destination with
  | .argument _ => .error (.of (.boundArgument b.name))
  | .field index =>
    match t.field? index with
    | none => .error (.of (.unknownField t.name b.name))
    | some f =>
      match f.setter with
      | some setter => .ok ⟨b, setter⟩
      | none => .error (.of (.boundReadOnlyField f.name t.name))

/-- The fields that bindings write. -/
def writers (t : Target ρ) : List Binding → Except Error (List (Writer ρ))
  | [] => .ok []
  | b :: rest =>
    match writer t b with
    | .error e => .error e
    | .ok w => (writers t rest).map (w :: ·)

/-- The hook to be run when tracking is asked for, and what is told when it cannot be. -/
def trackingHook (key : CacheKey) (t : Target ρ) : Option (ρ → ρ) × List Event :=
  match t.trackingHook with
  | none => (none, [.untrackedTarget key t.name])
  | some hook =>
    match t.untrackable? with
    | some f => (none, [.untrackedField key t.name f.name])
    | none => (some hook, [])

/-- What a mapper for the plan does with a row, and what is told about it. -/
def recipe (p : Plan) (key : CacheKey) (t : Target ρ) (settings : Settings) (tracking : Bool) :
    Except Error (Recipe ρ × List Event) :=
  match p.creation t, writers t p.fields with
  | .error e, _ => .error e
  | .ok _, .error e => .error e
  | .ok creation, .ok writers =>
    let (hook, events) := if tracking then trackingHook key t else (none, [])
    .ok (⟨creation, writers, settings.ignoreNull, hook⟩, events)

/-- The mapper for the plan, and what is told about it. -/
def synthesize (p : Plan) (key : CacheKey) (t : Target ρ) (settings : Settings)
    (tracking : Bool) : Except Error (Mapper ρ × List Event) :=
  (p.recipe key t settings tracking).map fun (recipe, events) => (⟨key, recipe.map⟩, events)

end Plan

end Hydration
