import Hydration.Error
import Hydration.Roster

/-!
# Targets

A `Target` describes how records of a type are made from values: how to construct one,
and which fields can be written afterwards.  Nothing else is known about the type.
Fields have distinct names; a field added under a name that is taken replaces the
other and keeps its place.
-/

namespace Hydration

variable {ρ τ : Type}

/-- Writes a value into a record, and says whether that worked. -/
abbrev Setter (ρ : Type) : Type := Value → ρ → Except Error Unit × ρ

/-- A field of a record. -/
structure Field (ρ : Type) where
  name : String
  /-- The kind of the field's values; whether it may be empty is said by `nullable`. -/
  kind : Kind
  /-- The column that the field is declared to be stored in. -/
  column : Option String := none
  nullable : Bool := false
  /-- The name of the handler that the field is declared to be read by. -/
  handler : Option String := none
  /-- Writes to the field can be observed. -/
  trackable : Bool := true
  /-- A field without a setter cannot be written. -/
  setter : Option (Setter ρ) := none

/-- A way to build a record from arguments of the given kinds. -/
structure Constructor (ρ : Type) where
  kinds : List Kind
  build : List Value → Except Error ρ

/-- How records of a type are constructed and populated. -/
structure Target (ρ : Type) where
  name : String
  fields : Roster (Field ρ) Field.name := .empty
  constructors : List (Constructor ρ) := []
  /-- The record that the constructor without arguments gives. -/
  blank : Option ρ := none
  /-- Turns change tracking on for a populated record. -/
  trackingHook : Option (ρ → ρ) := none

/-- A part of a larger record that can be read and replaced. -/
structure Part (τ ρ : Type) where
  get : τ → ρ
  put : ρ → τ → τ

namespace Field

def isWritable (f : Field ρ) : Bool := f.setter.isSome

/-- Writes a value into the field of a record. -/
def set (f : Field ρ) (v : Value) (r : ρ) : Except Error Unit × ρ :=
  match f.setter with
  | some setter => setter v r
  | none => (.error (.of (.readOnlyField f.name)), r)

/-- The field of a part, as a field of the whole. -/
def lift (p : Part τ ρ) (f : Field ρ) : Field τ where
  name := f.name
  kind := f.kind
  column := f.column
  nullable := f.nullable
  handler := f.handler
  trackable := f.trackable
  setter := f.setter.map fun setter v t =>
    let (result, r) := setter v (p.get t)
    (result, p.put r t)

/-- The shape of a field for display. -/
def outline (f : Field ρ) : Outline :=
  .record "Field" [
    ("name", .record "FieldName" [("app_name", .quoted f.name),
      ("storage_name", .option (f.column.map .quoted))]),
    ("ty", f.kind.outline), ("nullable", .bool f.nullable),
    ("type_handler", .option (f.handler.map .quoted)), ("writable", .bool f.isWritable)]

end Field

namespace Constructor

/-- The constructor takes arguments of exactly these kinds. -/
def accepts (c : Constructor ρ) (kinds : List Kind) : Bool := decide (c.kinds = kinds)

/-- The constructor with `wrap` around every record it builds. -/
def map (wrap : ρ → τ) (c : Constructor ρ) : Constructor τ :=
  ⟨c.kinds, fun args => (c.build args).map wrap⟩

/-- The shape of a constructor for display. -/
def outline (c : Constructor ρ) : Outline :=
  .record "Constructor" [("args", .list (c.kinds.map Kind.outline))]

end Constructor

namespace Target

/-! ## Building -/

/-- Sets the record that the constructor without arguments gives. -/
def withBlank (t : Target ρ) (r : ρ) : Target ρ := { t with blank := some r }

/-- Adds a constructor. -/
def withConstructor (t : Target ρ) (kinds : List Kind) (build : List Value → Except Error ρ) :
    Target ρ :=
  { t with constructors := t.constructors ++ [⟨kinds, build⟩] }

/-- Adds a field. -/
def withField (t : Target ρ) (f : Field ρ) : Target ρ := { t with fields := t.fields.put f }

/-- Sets what turns change tracking on. -/
def withTracking (t : Target ρ) (hook : ρ → ρ) : Target ρ := { t with trackingHook := some hook }

/-! ## Looking up -/

/-- Index of the field called `name`, exactly or else ignoring ASCII case. -/
def fieldIndex? (t : Target ρ) (name : String) : Option Nat :=
  Text.locate (fun f => some f.name) t.fields.items name

/-- Index of the field declared to be stored in `column`, exactly or else ignoring ASCII case. -/
def fieldIndexByColumn? (t : Target ρ) (column : String) : Option Nat :=
  Text.locate Field.column t.fields.items column

/-- The field at an index. -/
def field? (t : Target ρ) (index : Nat) : Option (Field ρ) := t.fields.items[index]?

/-- Index of the first constructor that takes arguments of exactly these kinds. -/
def constructorIndex? (t : Target ρ) (kinds : List Kind) : Option Nat :=
  t.constructors.findIdx? fun c => c.accepts kinds

/-- The first constructor that takes arguments of exactly these kinds. -/
def constructor? (t : Target ρ) (kinds : List Kind) : Option (Constructor ρ) :=
  t.constructors.find? fun c => c.accepts kinds

/-- The first field that can be written without being observed. -/
def untrackable? (t : Target ρ) : Option (Field ρ) :=
  t.fields.items.find? fun f => f.isWritable && !f.trackable

/-- The shape of a target for display. -/
def outline (t : Target ρ) : Outline :=
  .record "TargetType" [
    ("name", .quoted t.name),
    ("fields", .map (t.fields.items.map fun f => (f.name, f.outline))),
    ("constructors", .list (t.constructors.map Constructor.outline)),
    ("default_constructor", .bool t.blank.isSome),
    ("change_tracking", .bool t.trackingHook.isSome)]

/-! ## Lemmas -/

theorem field?_of_fieldIndex? {t : Target ρ} {name : String} {i : Nat}
    (h : t.fieldIndex? name = some i) : ∃ f, t.field? i = some f :=
  ⟨_, List.getElem?_eq_getElem (Text.locate_lt h)⟩

theorem field?_of_fieldIndexByColumn? {t : Target ρ} {column : String} {i : Nat}
    (h : t.fieldIndexByColumn? column = some i) : ∃ f, t.field? i = some f :=
  ⟨_, List.getElem?_eq_getElem (Text.locate_lt h)⟩

end Target

end Hydration
