import Hydration.Cache

/-!
# Workspaces

What mapping calls share and change: the mappers that are cached, the handlers that
are registered, and the log of what happened.  A `Task` is a call on a workspace; when
it fails, what it changed stays changed.
-/

namespace Hydration

variable {ι : Type} {E : ι → Type}

/-- The cache, the registry and the log, oldest event first. -/
structure Workspace (E : ι → Type) where
  cache : MapperCache E := .empty
  registry : Registry := .empty
  log : List Event := []

/-- A call that may fail and may change the workspace. -/
abbrev Task (E : ι → Type) (α : Type) : Type := Workspace E → Except Error α × Workspace E

namespace Workspace

/-- Tells of events. -/
def tell (w : Workspace E) (events : List Event) : Workspace E :=
  { w with log := w.log ++ events }

/-! ## Finding and building mappers -/

section
variable [DecidableEq ι]

/-- Stores a built mapper, unless one for its key and target was stored while it was built:
then that one is given and the built one is dropped. -/
def keep (key : CacheKey) (target : ι) (built : Mapper (E target)) :
    Task E (Stored (E target)) := fun w =>
  match w.cache.entry? key target with
  | some e =>
    let w := w.tell [.discarded built.key]
    match e.erased.downcast? target with
    | some stored => (.ok stored, w)
    | none => (.error (.of (.cachedForOther built.key.id)), w)
  | none =>
    let (stored, cache) := w.cache.store key target built
    (.ok stored, { w with cache })

/-- The mapper stored for a key and a target; on a miss the one that `build` gives, stored.
The task `build` may use the workspace as it likes, and when it fails nothing is stored. -/
def getOrBuild (key : CacheKey) (target : ι) (build : Task E (Mapper (E target))) :
    Task E (Stored (E target)) := fun w =>
  match w.cache.find? key target with
  | some stored => (.ok stored, w.tell [.cacheHit key])
  | none =>
    match build w with
    | (.error e, w) => (.error e, w)
    | (.ok built, w) => keep key target built w

end

/-- Plans and builds the mapper for the columns of a request's result set. -/
def compile {ρ : Type} (key : CacheKey) (t : Target ρ) (columns : List Column)
    (request : Request) (resultIndex : Nat) (settings : Settings) : Task E (Mapper ρ) := fun w =>
  match Plan.build t columns (request.mapAt? resultIndex) w.registry with
  | (.error e, registry) => (.error e, { w with registry }.tell [.planFailed key t.name e])
  | (.ok plan, registry) =>
    let w := { w with registry }.tell
      [.built key t.name plan.arguments.length plan.fields.length plan.unmatched.length]
    match plan.synthesize key t settings request.changeTracking with
    | .error e => (.error e, w)
    | .ok (mapper, events) => (.ok mapper, w.tell events)

end Workspace

end Hydration
