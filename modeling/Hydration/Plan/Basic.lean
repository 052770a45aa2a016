import Hydration.Coercion
import Hydration.Plan.Claim

/-!
# Mapping plans

A plan says how the columns of one result set feed one target: which constructor
builds the record, which column feeds each argument and each field, and which columns
feed nothing.  Planning fails when no constructor can be used, when an argument's
column is missing, or when a named handler does not exist; columns that match no
field never make it fail.
-/

namespace Hydration

variable {ρ : Type}

/-- How records are constructed. -/
inductive Construction where
  /-- Without arguments. -/
  | blank
  /-- By the constructor at an index. -/
  | constructor (index : Nat)
  deriving DecidableEq

/-- What a binding feeds. -/
inductive Destination where
  /-- The argument at a position. -/
  | argument (position : Nat)
  /-- The field at an index. -/
  | field (index : Nat)
  deriving DecidableEq

/-- A column that feeds an argument or a field. -/
structure Binding where
  destination : Destination
  /-- The name of the field that is populated. -/
  name : String
  column : Column
  /-- The kind of what is populated. -/
  kind : Kind
  nullable : Bool
  coercion : Coercion

/-- How the columns of a result set feed a target. -/
structure Plan where
  construction : Construction
  /-- The constructor's arguments, by position. -/
  arguments : List Binding
  /-- The fields written after construction, in the order in which they were first claimed. -/
  fields : List Binding
  /-- The columns that feed nothing, by index. -/
  unmatched : List Column

namespace Plan

/-! ## Algorithm -/

/-- The column called `name`, exactly or else ignoring ASCII case. -/
def column? (columns : List Column) (name : String) : Option Column :=
  (Text.locate (fun c => some c.name) columns name).bind fun i => columns[i]?

/-- How records are constructed: as the configured arguments say, else without arguments. -/
def chooseConstruction (t : Target ρ) (arguments : Option (List Argument)) :
    Except Error Construction :=
  let unusable := .error (.of (.noUsableConstructor t.name))
  match arguments with
  | some args =>
    match t.constructorIndex? (args.map Argument.kind) with
    | some i => .ok (.constructor i)
    | none => unusable
  | none => if t.blank.isSome then .ok .blank else unusable

/-- The bindings of the arguments from `position` on. -/
def bindArguments (target : String) (columns : List Column) :
    (position : Nat) → List Argument → Registry → Except Error (List Binding) × Registry
  | _, [], r => (.ok [], r)
  | position, a :: rest, r =>
    match column? columns a.column with
    | none => (.error (.of (.missingMappedColumn target a.column)), r)
    | some c =>
      match Coercion.resolve r a.kind a.nullable c.kind a.handler with
      | (.error e, r) => (.error e, r)
      | (.ok coercion, r) =>
        match bindArguments target columns (position + 1) rest r with
        | (.error e, r) => (.error e, r)
        | (.ok bindings, r) =>
          (.ok (⟨.argument position, a.field, c, a.kind, a.nullable, coercion⟩ :: bindings), r)

/-- The bindings of the fields that are claimed. -/
def bindFields (t : Target ρ) : List Claim → Registry → Except Error (List Binding) × Registry
  | [], r => (.ok [], r)
  | claim :: rest, r =>
    match t.field? claim.field with
    | none => bindFields t rest r
    | some f =>
      match Coercion.resolve r f.kind f.nullable claim.column.kind (claim.handler <|> f.handler) with
      | (.error e, r) => (.error e, r)
      | (.ok coercion, r) =>
        match bindFields t rest r with
        | (.error e, r) => (.error e, r)
        | (.ok bindings, r) =>
          (.ok (⟨.field claim.field, f.name, claim.column, f.kind, f.nullable, coercion⟩ ::
            bindings), r)

/-- The claim of a column on a field that the arguments leave open. -/
def claim? (t : Target ρ) (m : Option ResultMap) (arguments : List Binding) (c : Column) :
    Option Claim :=
  (Claim.resolve t m c).filter (Claim.isOpen t (arguments.map Binding.name))

/-- The columns that feed no argument. -/
def freeColumns (arguments : List Binding) (columns : List Column) : List Column :=
  columns.filter fun c => !arguments.any fun b => b.column.index == c.index

/-- The plan for feeding columns to a target, and the registry afterwards. -/
def build (t : Target ρ) (columns : List Column) (m : Option ResultMap) (r : Registry) :
    Except Error Plan × Registry :=
  let arguments := m.bind ResultMap.arguments
  match chooseConstruction t arguments with
  | .error e => (.error e, r)
  | .ok construction =>
    match bindArguments t.name columns 0 (arguments.getD []) r with
    | (.error e, r) => (.error e, r)
    | (.ok arguments, r) =>
      let (held, unmatched) :=
        Claim.contest (claim? t m arguments) (freeColumns arguments columns) ([], [])
      match bindFields t held r with
      | (.error e, r) => (.error e, r)
      | (.ok fields, r) =>
        (.ok ⟨construction, arguments, fields,
          unmatched.mergeSort fun a b => decide (a.index ≤ b.index)⟩, r)

end Plan

end Hydration
