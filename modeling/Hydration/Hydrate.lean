import Hydration.Source.Basic
import Hydration.Workspace

/-!
# Mapping the rows of a source

`single` maps the next row of a source and `list` every row that is left, at either
pace.  The mapper is found or built first; an empty source needs none.  The first
failure ends the call: the source then stands where the failure came.
-/

namespace Hydration

variable {ι : Type} {E : ι → Type} {σ ρ : Type}

namespace RowSource

variable [RowSource σ]

/-- Maps the current row and notes what was looked at. -/
def mapRow (f : Row → Reading ρ) (s : σ) : Except Error ρ × σ :=
  let reading := f (row s)
  (reading.result, note reading.trail s)

/-- Advances once and maps the row, if there is one. -/
def mapNext (p : Pace) (f : Row → Reading ρ) (s : σ) : Except Error (Option ρ) × σ :=
  match advance p s with
  | (.error e, s) => (.error e, s)
  | (.ok false, s) => (.ok none, s)
  | (.ok true, s) =>
    let (result, s) := mapRow f s
    (result.map some, s)

/-- Advances to the end and maps every row. -/
def mapAll (p : Pace) (f : Row → Reading ρ) (s : σ) : Except Error (List ρ) × σ :=
  match h : advance p s with
  | (.error e, s') => (.error e, s')
  | (.ok false, s') => (.ok [], s')
  | (.ok true, s') =>
    match (f (row s')).result with
    | .error e => (.error e, note (f (row s')).trail s')
    | .ok r =>
      have : left (note (f (row s')).trail s') < left s := by
        rw [left_note]
        exact left_advance p s s' h
      let (rest, s'') := mapAll p f (note (f (row s')).trail s')
      (rest.map (r :: ·), s'')
termination_by left s

/-- Advances until there is no further row or advancing fails, and gives what mapping each row
gave; a row that fails to map does not end it. -/
def mapEach (p : Pace) (f : Row → Reading ρ) (s : σ) : List (Except Error ρ) × σ :=
  match h : advance p s with
  | (.ok true, s') =>
    have : left (note (f (row s')).trail s') < left s := by
      rw [left_note]
      exact left_advance p s s' h
    let (rest, s'') := mapEach p f (note (f (row s')).trail s')
    ((f (row s')).result :: rest, s'')
  | (_, s') => ([], s')
termination_by left s

end RowSource

namespace Workspace

variable [DecidableEq ι] [RowSource σ]

/-- The mapper for a target and the result set of a source, built when it is first needed. -/
def mapper (settings : Settings) (target : ι) (t : Target (E target)) (request : Request)
    (s : σ) : Task E (Stored (E target)) :=
  let index := RowSource.resultIndex s
  let key := CacheKey.ofRequest index request settings
  getOrBuild key target (compile key t (RowSource.row s).columns request index settings)

/-- What a mapping call leaves behind: its result, the source and the workspace. -/
structure Outcome (E : ι → Type) (σ α : Type) where
  result : Except Error α
  source : σ
  workspace : Workspace E

/-- Runs `f` with the mapper for a source that has rows, and gives `default` for one that has
none. -/
def withMapper {α : Type} (settings : Settings) (target : ι) (t : Target (E target))
    (request : Request) (default : α)
    (f : (Row → Reading (E target)) → σ → Except Error α × σ) (s : σ) (w : Workspace E) :
    Outcome E σ α :=
  let hasRows := RowSource.hasRows s
  let s := RowSource.note [.hasRows] s
  if hasRows then
    match mapper settings target t request s w with
    | (.error e, w) => ⟨.error e, s, w⟩
    | (.ok stored, w) =>
      let (result, s) := f stored.mapper.map s
      ⟨result, s, w⟩
  else ⟨.ok default, s, w⟩

/-- Maps the next row, if there is one. -/
def single (settings : Settings) (target : ι) (t : Target (E target)) (request : Request)
    (p : Pace) (s : σ) (w : Workspace E) : Outcome E σ (Option (E target)) :=
  withMapper settings target t request none (RowSource.mapNext p) s w

/-- Maps every row that is left. -/
def list (settings : Settings) (target : ι) (t : Target (E target)) (request : Request)
    (p : Pace) (s : σ) (w : Workspace E) : Outcome E σ (List (E target)) :=
  withMapper settings target t request [] (RowSource.mapAll p) s w

end Workspace

end Hydration
