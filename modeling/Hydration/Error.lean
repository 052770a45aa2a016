import Hydration.Value

/-!
# Errors

A failure is a chain of faults: what went wrong first, and each context that was
added on the way out.  The newest context is the outermost fault.

    (e.context c).message = c.outer.message ++ ": " ++ e.message      (message_context)
    (e.context c).root = e.root                                       (root_context)
-/

namespace Hydration

/-- Why a row or a cell cannot be had from its source. -/
inductive Unreadable where
  /-- No row is current yet, or none any more. -/
  | notAdvanced
  /-- The current row has no cell at the index. -/
  | columnOutOfRange (index width : Nat)
  /-- The next row would have to be waited for. -/
  | wouldWait
  /-- The source reports a failure of its own. -/
  | reported (message : String)
  deriving DecidableEq

/-- One thing that went wrong. -/
inductive Fault where
  /-- Told in words only. -/
  | adhoc (message : String)
  /-- A failure of something outside this library. -/
  | foreign (message : String)
  /-- No constructor of the target fits. -/
  | noUsableConstructor (target : String)
  /-- A constructor argument names a column that the result set lacks. -/
  | missingMappedColumn (target column : String)
  /-- No handler has the name. -/
  | unknownHandler (name : String)
  /-- The value cannot become what is wanted. -/
  | conversion (value : Value) (wanted : String)
  | unreadable (reason : Unreadable)
  /-- Reading a column for a field failed. -/
  | readingColumn (column field : String)
  /-- Writing a field from a column failed. -/
  | settingField (field column : String)
  /-- The field has no setter. -/
  | readOnlyField (field : String)
  /-- A mapper is to write a field that has no setter. -/
  | boundReadOnlyField (field target : String)
  /-- A mapper is to write a constructor argument as if it were a field. -/
  | boundArgument (name : String)
  /-- A mapper is to call a constructor that does not exist. -/
  | missingConstructor (index : Nat) (target : String)
  | unknownField (target field : String)
  /-- The mapper that is cached under the key and the target has records of another type. -/
  | cachedForOther (key : String)
  deriving DecidableEq

namespace Unreadable

/-- The reason in words. -/
def message : Unreadable → String
  | notAdvanced => "row read before advancing"
  | columnOutOfRange index width =>
    "column index " ++ toString index ++ " out of range (" ++ toString width ++ " columns)"
  | wouldWait => "synchronous advance past the buffered rows of a streaming source"
  | reported message => message

end Unreadable

namespace Fault

/-- The fault in words. -/
def message : Fault → String
  | adhoc message => message
  | foreign message => message
  | noUsableConstructor target =>
    "no usable constructor defined for the target type: " ++ target
  | missingMappedColumn target column =>
    "constructor of " ++ target ++ " maps column `" ++ column ++
      "`, which is not in the result set"
  | unknownHandler name => "no type handler registered under the name `" ++ name ++ "`"
  | conversion value wanted => "cannot convert " ++ value.name ++ " to " ++ wanted
  | unreadable reason => "invalid result: " ++ reason.message
  | readingColumn column field =>
    "failed to read column `" ++ column ++ "` into `" ++ field ++ "`"
  | settingField field column =>
    "failed to set `" ++ field ++ "` from column `" ++ column ++ "`"
  | readOnlyField field => "field `" ++ field ++ "` is read-only"
  | boundReadOnlyField field target =>
    "field `" ++ field ++ "` of " ++ target ++ " is read-only"
  | boundArgument name => "constructor argument `" ++ name ++ "` bound as a field"
  | missingConstructor index target =>
    "constructor " ++ toString index ++ " of " ++ target ++ " does not exist"
  | unknownField target field => target ++ " has no field `" ++ field ++ "`"
  | cachedForOther key => "mapper cached for `" ++ key ++ "` has another type"

/-- What callers can tell faults apart by. -/
inductive Category where
  | adhoc
  | foreign
  | noUsableConstructor
  | missingMappedColumn
  | unknownHandler
  | conversion
  | unreadable
  deriving DecidableEq

/-- The category of a fault; faults that are told in words only are adhoc. -/
def category : Fault → Category
  | foreign _ => .foreign
  | noUsableConstructor _ => .noUsableConstructor
  | missingMappedColumn _ _ => .missingMappedColumn
  | unknownHandler _ => .unknownHandler
  | conversion _ _ => .conversion
  | unreadable _ => .unreadable
  | _ => .adhoc

/-- The shape of a fault for display: its class around a record of what it is about. -/
def outline (f : Fault) : Outline :=
  match f with
  | foreign message => .tuple "Anyhow" [.quoted message]
  | noUsableConstructor target =>
    .tuple "NoUsableConstructor" [.record "NoUsableConstructorError" [("target", .quoted target)]]
  | missingMappedColumn target column =>
    .tuple "MissingMappedColumn" [.record "MissingMappedColumnError"
      [("target", .quoted target), ("column", .quoted column)]]
  | unknownHandler name =>
    .tuple "UnknownTypeHandler" [.record "UnknownTypeHandlerError" [("name", .quoted name)]]
  | conversion value wanted =>
    .tuple "TypeConversion" [.record "TypeConversionError"
      [("value", value.outline), ("to_type", .quoted wanted)]]
  | unreadable reason =>
    .tuple "InvalidResult" [.record "InvalidResultError" [("message", .quoted reason.message)]]
  | _ => .tuple "Adhoc" [.record "AdhocError" [("message", .quoted f.message)]]

end Fault

/-- A fault and the faults that led to it, the nearest first. -/
structure Error where
  outer : Fault
  causes : List Fault := []
  deriving DecidableEq

namespace Error

/-! ## Algorithm -/

/-- An error with no context. -/
def of (f : Fault) : Error := ⟨f, []⟩

def adhoc (message : String) : Error := .of (.adhoc message)

def conversion (value : Value) (wanted : String) : Error := .of (.conversion value wanted)

def unreadable (reason : Unreadable) : Error := .of (.unreadable reason)

/-- All faults, the outermost first. -/
def chain (e : Error) : List Fault := e.outer :: e.causes

/-- `e` with the outermost fault of `c` around it; what caused `c` is dropped. -/
def context (e c : Error) : Error := ⟨c.outer, e.chain⟩

/-- `context` for a `c` that is in use elsewhere: only its words can be taken. -/
def contextShared (e c : Error) : Error := ⟨.adhoc c.outer.message, e.chain⟩

/-- The first fault, with no context. -/
def root (e : Error) : Error := .of (e.causes.getLastD e.outer)

/-- The outermost fault is of the category. -/
def is (k : Fault.Category) (e : Error) : Bool := decide (e.outer.category = k)

/-- All faults in words, the outermost first. -/
def message (e : Error) : String := ": ".intercalate (e.chain.map Fault.message)

/-- The error outside this library that the outermost fault stands for. -/
def source? (e : Error) : Option String :=
  match e.outer with
  | .foreign message => some message
  | _ => none

/-- The shape of an error for display, each cause inside its effect. -/
def outlineOf : Fault → List Fault → Outline
  | f, [] => .record "Error" [("kind", f.outline), ("cause", .option none)]
  | f, g :: gs => .record "Error" [("kind", f.outline), ("cause", .option (outlineOf g gs))]

def outline (e : Error) : Outline := outlineOf e.outer e.causes

/-! ## Lemmas -/

/-- The newest context comes first in the message. -/
theorem message_context (e c : Error) :
    (e.context c).message = c.outer.message ++ ": " ++ e.message := by
  simp only [message, context, chain, List.map_cons, String.intercalate_cons_cons]

theorem root_context (e c : Error) : (e.context c).root = e.root := by
  obtain ⟨o, cs⟩ := e
  cases cs <;> simp [root, context, chain, List.getLastD]

end Error

end Hydration
