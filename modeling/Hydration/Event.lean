import Hydration.Error
import Hydration.Request

/-!
# Events

What is told about the building and finding of mappers.
-/

namespace Hydration

inductive Level where
  | trace | debug | warn
  deriving DecidableEq

/-- Something that happened while a mapper was built or looked for. -/
inductive Event where
  | cacheHit (key : CacheKey)
  | planFailed (key : CacheKey) (target : String) (error : Error)
  | built (key : CacheKey) (target : String) (arguments fields unmatched : Nat)
  /-- A mapper for the same key was stored while this one was built. -/
  | discarded (key : CacheKey)
  /-- Tracking was asked for but the target has no hook for it. -/
  | untrackedTarget (key : CacheKey) (target : String)
  /-- Tracking was asked for but writes to a field cannot be observed. -/
  | untrackedField (key : CacheKey) (target field : String)
  deriving DecidableEq

namespace Event

def level : Event → Level
  | cacheHit _ => .trace
  | planFailed .. | built .. => .debug
  | discarded _ | untrackedTarget .. | untrackedField .. => .warn

def message : Event → String
  | cacheHit _ => "mapper cache hit"
  | planFailed .. => "failed to plan mapper"
  | built .. => "built mapper"
  | discarded _ => "mapper built concurrently for the same key; discarding this one"
  | untrackedTarget .. =>
    "change tracking requested but the target type does not support it; " ++
      "mapping untracked instances"
  | untrackedField .. =>
    "change tracking requested but a writable field cannot be tracked; " ++
      "mapping untracked instances"

/-- What the event is about, each part under its name. -/
def details : Event → List (String × String)
  | cacheHit key | discarded key => [("key", key.id)]
  | planFailed key target error => [("key", key.id), ("target", target), ("error", error.message)]
  | built key target arguments fields unmatched =>
    [("key", key.id), ("target", target), ("constructor_args", toString arguments),
      ("fields", toString fields), ("unmatched", toString unmatched)]
  | untrackedTarget key target => [("key", key.id), ("target", target)]
  | untrackedField key target field => [("key", key.id), ("target", target), ("field", field)]

end Event

/-- The name of a level, in capitals. -/
def Level.name : Level → String
  | trace => "TRACE"
  | debug => "DEBUG"
  | warn => "WARN"

end Hydration
