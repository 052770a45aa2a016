import Hydration.Conversion
import Hydration.Target.Tracked

/-!
# Dynamic records

Records whose fields are known only when a program runs: a roster of named values,
the constructor that built the record, and whether its tracking hook has run.
`RecordSpec` says how such records are made, and gives their target.
-/

namespace Hydration

/-- A named value of a record. -/
structure Entry where
  name : String
  value : Value

/-- A record with named values. -/
structure Record where
  /-- The constructor that built the record, if one with arguments did. -/
  builtBy : Option Nat := none
  entries : Roster Entry Entry.name := .empty
  hooked : Bool := false

namespace Record

/-- The record with a value under a name. -/
def put (r : Record) (name : String) (v : Value) : Record :=
  { r with entries := r.entries.put ⟨name, v⟩ }

/-- The value under a name. -/
def get? (r : Record) (name : String) : Option Value := (r.entries.find? name).map Entry.value

end Record

/-- How a field keeps the values that it is given. -/
inductive Storage where
  /-- Converted to a kind; for an enumeration any variant will do. -/
  | kind (k : Kind)
  /-- Nothing is kept. -/
  | refuse
  deriving DecidableEq

namespace Storage

/-- The storage of a name: that of an integer's width, `f64` for floating point, and the kind's
own word for the other kinds of values.  A name that is none of these keeps every value. -/
def named : String → Storage
  | "bool" => kind .bool
  | "f64" => kind .double
  | "string" => kind .text
  | "bytes" => kind .bytes
  | "uuid" => kind .uuid
  | "enum" => kind (.enum ⟨"", []⟩)
  | "fail" => refuse
  | name =>
    match IntWidth.all.find? fun w => w.name == name with
    | some w => kind (.int w)
    | none => kind .any

/-- The value to be kept; an empty one is kept as it is where that is allowed. -/
def accept (optional : Bool) : Storage → Value → Except Error Value
  | kind k, v => if optional && v.isNull then .ok .null else k.convert v
  | refuse, _ => .error (.adhoc "setter refused")

end Storage

/-- A field of a dynamic record. -/
structure FieldSpec where
  name : String
  kind : Kind
  column : Option String := none
  nullable : Bool := false
  handler : Option String := none
  trackable : Bool := true
  readOnly : Bool := false
  storage : Storage

/-- A value that a constructor takes: the field that it goes to, and how it is kept there. -/
structure ParameterSpec where
  field : String
  storage : Storage
  optional : Bool := false

/-- A constructor of a dynamic record: the kinds of its arguments, and what it does with them. -/
structure ConstructorSpec where
  kinds : List Kind
  parameters : List ParameterSpec

/-- How dynamic records of one type are made. -/
structure RecordSpec where
  name : String
  /-- The values of a record made without arguments, if one can be. -/
  blank : Option (List Entry) := none
  fields : List FieldSpec := []
  constructors : List ConstructorSpec := []
  /-- Tracking can be turned on. -/
  hook : Bool := false

/-- Puts the accepted value under the field's name; a value that is not accepted changes
nothing. -/
def FieldSpec.setter (f : FieldSpec) : Setter Record := fun v r =>
  match Storage.accept f.nullable f.storage v with
  | .ok v => (.ok (), r.put f.name v)
  | .error e => (.error e, r)

/-- The field as a target knows it. -/
def FieldSpec.field (f : FieldSpec) : Field Record where
  name := f.name
  kind := f.kind
  column := f.column
  nullable := f.nullable
  handler := f.handler
  trackable := f.trackable
  setter := if f.readOnly then none else some f.setter

/-- Gives each parameter the next argument, an empty value when there are no more. -/
def assign : List ParameterSpec → List Value → Record → Except Error Record
  | [], _, r => .ok r
  | p :: ps, args, r =>
    match Storage.accept p.optional p.storage (args.headD .null) with
    | .ok v => assign ps args.tail (r.put p.field v)
    | .error e => .error e

/-- The constructor at an index, as a target knows it. -/
def ConstructorSpec.constructor (index : Nat) (c : ConstructorSpec) : Constructor Record :=
  ⟨c.kinds, fun args => assign c.parameters args { builtBy := some index }⟩

namespace RecordSpec

/-- The record made without arguments. -/
def blankRecord? (s : RecordSpec) : Option Record :=
  s.blank.map fun entries => { entries := .ofList entries }

/-- The target of the records. -/
def target (s : RecordSpec) : Target Record where
  name := s.name
  fields := .ofList (s.fields.map FieldSpec.field)
  constructors := s.constructors.zipIdx.map fun (c, i) => c.constructor i
  blank := s.blankRecord?
  trackingHook := if s.hook then some fun r => { r with hooked := true } else none

end RecordSpec

end Hydration
