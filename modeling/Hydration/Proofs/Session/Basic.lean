import Hydration.Hydrate
import Hydration.Proofs.Plan.Draft

/-!
# Sessions

Mapping calls of deserializers that share a workspace.  A call brings the settings of
the deserializer that makes it and the source it is given, in the state in which it is
given: new, or as an earlier call or the caller left it.  A run is the list of its calls
and of the times that the cache is cleared.

The mapper of a call is found in the cache or built, and that is all that a call takes
from the workspace:

    w.cache.find? key target = some stored → (getOrBuild .. w).1 = .ok stored  (getOrBuild_of_hit)
    a call finds its mapper, or builds and stores it, or fails to build it     (getOrBuild_cases)
    what a call gives depends on the workspace by its mapper only              (perform_congr)
-/

namespace Hydration

open Traversal

/-! ## Algorithm -/

/-- What a call maps: the next row, or every row that is left. -/
inductive Extent where
  | one
  | all

/-- What a call gives. -/
abbrev Extent.Result (ρ : Type) : Extent → Type
  | one => Option ρ
  | all => List ρ

/-- A mapping call. -/
structure Call (ι : Type) where
  /-- The settings of the deserializer that makes the call. -/
  settings : Settings
  target : ι
  request : Request
  extent : Extent
  pace : Pace
  Source : Type
  [rows : RowSource Source]
  source : Source

variable {ι : Type} {E : ι → Type} {ρ : Type}

namespace Call

instance (c : Call ι) : RowSource c.Source := c.rows

def key (c : Call ι) : CacheKey :=
  .ofRequest (RowSource.resultIndex c.source) c.request c.settings

/-- The columns that the call presents. -/
def columns (c : Call ι) : List Column := (RowSource.row c.source).columns

/-- The result map that the call presents for its result set. -/
def resultMap (c : Call ι) : Option ResultMap :=
  c.request.mapAt? (RowSource.resultIndex c.source)

/-- Builds the mapper of the call. -/
def build (targets : (i : ι) → Target (E i)) (c : Call ι) : Task E (Mapper (E c.target)) :=
  Workspace.compile c.key (targets c.target) c.columns c.request (RowSource.resultIndex c.source)
    c.settings

/-- What the call does on a workspace. -/
def perform [DecidableEq ι] (targets : (i : ι) → Target (E i)) (c : Call ι) (w : Workspace E) :
    Workspace.Outcome E c.Source (c.extent.Result (E c.target)) :=
  match c.extent with
  | .one => Workspace.single c.settings c.target (targets c.target) c.request c.pace c.source w
  | .all => Workspace.list c.settings c.target (targets c.target) c.request c.pace c.source w

end Call

/-- What happens in a run. -/
inductive Operation (ι : Type) where
  | call (c : Call ι)
  /-- The cache is cleared. -/
  | clear

def Operation.apply [DecidableEq ι] (targets : (i : ι) → Target (E i)) (w : Workspace E) :
    Operation ι → Workspace E
  | call c => (c.perform targets w).workspace
  | clear => { w with cache := w.cache.clear }

/-- The workspace after a run. -/
def run [DecidableEq ι] (targets : (i : ι) → Target (E i)) (ops : List (Operation ι))
    (w : Workspace E) : Workspace E :=
  ops.foldl (Operation.apply targets) w

/-- The mapper for a key and a target, built by the handlers of a registry. -/
def mapperFor (targets : (i : ι) → Target (E i)) (r : Registry) (k : CacheKey) (i : ι)
    (columns : List Column) (m : Option ResultMap) : Except Error (Mapper (E i)) :=
  (Plan.build (targets i) columns m r).1.bind fun plan =>
    (plan.synthesize k (targets i) ⟨k.ignoreNull⟩ k.changeTracking).map Prod.fst

/-! ## Lemmas -/

theorem mapperFor_of_extends {r s : Registry} (h : r.Extends s) (targets : (i : ι) → Target (E i))
    (k : CacheKey) (i : ι) (columns : List Column) (m : Option ResultMap) :
    mapperFor targets s k i columns m = mapperFor targets r k i columns m := by
  unfold mapperFor
  rw [Plan.build_fst_of_extends h]

namespace Workspace

section
variable (key : CacheKey) (t : Target ρ) (columns : List Column) (request : Request)
  (index : Nat) (settings : Settings) (w : Workspace E)

/-- A mapper is built from the registry alone. -/
theorem compile_fst : (compile key t columns request index settings w).1 =
    (Plan.build t columns (request.mapAt? index) w.registry).1.bind fun plan =>
      (plan.synthesize key t settings request.changeTracking).map Prod.fst := by
  unfold compile
  rcases Plan.build t columns (request.mapAt? index) w.registry with ⟨_ | plan, r⟩
  · rfl
  · simp only [Except.bind]
    rcases plan.synthesize key t settings request.changeTracking with _ | ⟨m, events⟩ <;> rfl

theorem compile_cache : (compile key t columns request index settings w).2.cache = w.cache := by
  unfold compile
  rcases Plan.build t columns (request.mapAt? index) w.registry with ⟨_ | plan, r⟩
  · rfl
  · simp only
    rcases plan.synthesize key t settings request.changeTracking with _ | ⟨m, events⟩ <;> rfl

theorem compile_registry : (compile key t columns request index settings w).2.registry =
    (Plan.build t columns (request.mapAt? index) w.registry).2 := by
  unfold compile
  rcases Plan.build t columns (request.mapAt? index) w.registry with ⟨_ | plan, r⟩
  · rfl
  · simp only
    rcases plan.synthesize key t settings request.changeTracking with _ | ⟨m, events⟩ <;> rfl

end

section
variable [DecidableEq ι] {key : CacheKey} {target : ι} {build : Task E (Mapper (E target))}
  {w : Workspace E}

theorem getOrBuild_of_hit {stored : Stored (E target)}
    (h : w.cache.find? key target = some stored) :
    getOrBuild key target build w = (.ok stored, w.tell [.cacheHit key]) := by
  simp only [getOrBuild, h]

theorem getOrBuild_of_error {e : Error} {w' : Workspace E} (h : w.cache.find? key target = none)
    (hb : build w = (.error e, w')) : getOrBuild key target build w = (.error e, w') := by
  simp only [getOrBuild, h, hb]

theorem getOrBuild_of_ok {m : Mapper (E target)} {w' : Workspace E}
    (h : w.cache.find? key target = none) (hb : build w = (.ok m, w')) :
    getOrBuild key target build w = keep key target m w' := by
  simp only [getOrBuild, h, hb]

theorem keep_of_some {m : Mapper (E target)} {stored : Stored (E target)}
    (h : w.cache.find? key target = some stored) :
    keep key target m w = (.ok stored, w.tell [.discarded m.key]) := by
  obtain ⟨e, he, hs⟩ := Option.bind_eq_some_iff.1 h
  simp only [keep, he, hs]

theorem keep_of_none {m : Mapper (E target)} (h : w.cache.find? key target = none) :
    keep key target m w = (.ok (w.cache.store key target m).1,
      { w with cache := (w.cache.store key target m).2 }) := by
  simp only [keep, MapperCache.find?_eq_none_iff.1 h]

end

section
variable [DecidableEq ι] {σ α : Type} [RowSource σ] {settings : Settings} {target : ι}
  {t : Target (E target)} {request : Request} {s : σ}

theorem mapper_note (l : List Access) :
    mapper (E := E) settings target t request (RowSource.note l s) =
      mapper settings target t request s := by
  unfold mapper
  rw [RowSource.resultIndex_note, RowSource.row_note]

theorem withMapper_workspace (default : α)
    (f : (Row → Reading (E target)) → σ → Except Error α × σ) (w : Workspace E) :
    (withMapper settings target t request default f s w).workspace =
      if RowSource.hasRows s then (mapper settings target t request s w).2 else w := by
  simp only [withMapper, mapper_note]
  split
  · rcases mapper settings target t request s w with ⟨_ | stored, w'⟩ <;> rfl
  · rfl

/-- A call takes nothing but a mapper from the workspace. -/
theorem withMapper_congr {w w' : Workspace E}
    (h : (mapper settings target t request s w).1.map Stored.mapper =
      (mapper settings target t request s w').1.map Stored.mapper) (default : α)
    (f : (Row → Reading (E target)) → σ → Except Error α × σ) :
    (withMapper settings target t request default f s w).result =
        (withMapper settings target t request default f s w').result ∧
      (withMapper settings target t request default f s w).source =
        (withMapper settings target t request default f s w').source := by
  simp only [withMapper, mapper_note]
  split
  · revert h
    rcases mapper settings target t request s w with ⟨e | a, v⟩ <;>
      rcases mapper settings target t request s w' with ⟨e' | b, v'⟩ <;> intro h
    · cases h
      exact ⟨rfl, rfl⟩
    · cases h
    · cases h
    · have hm : a.mapper = b.mapper := Except.ok.inj h
      simp only [hm, and_self]
  · exact ⟨rfl, rfl⟩

end

end Workspace

namespace Call

variable (targets : (i : ι) → Target (E i)) (c : Call ι) (w : Workspace E)

/-- All that the mapper of a call depends on. -/
theorem build_fst : (c.build targets w).1 =
    mapperFor targets w.registry c.key c.target c.columns c.resultMap :=
  Workspace.compile_fst ..

theorem build_cache : (c.build targets w).2.cache = w.cache := Workspace.compile_cache ..

theorem extends_build : w.registry.Extends (c.build targets w).2.registry := by
  unfold build
  rw [Workspace.compile_registry]
  exact Plan.extends_build _ _ _ _ (fun _ _ _ _ _ => trivial) fun _ _ _ _ _ _ _ _ _ => trivial

section
variable [DecidableEq ι]

/-- A call finds its mapper, or fails to build it, or builds it and stores it.  Only enumerations
are registered meanwhile. -/
theorem getOrBuild_cases :
    (∃ stored, w.cache.find? c.key c.target = some stored ∧
      Workspace.getOrBuild c.key c.target (c.build targets) w =
        (.ok stored, w.tell [.cacheHit c.key])) ∨
    w.cache.find? c.key c.target = none ∧ ∃ r, w.registry.Extends r ∧
      ((∃ e log, mapperFor targets w.registry c.key c.target c.columns c.resultMap = .error e ∧
          Workspace.getOrBuild c.key c.target (c.build targets) w =
            (.error e, ⟨w.cache, r, log⟩)) ∨
        ∃ m log, mapperFor targets w.registry c.key c.target c.columns c.resultMap = .ok m ∧
          Workspace.getOrBuild c.key c.target (c.build targets) w =
            (.ok (w.cache.store c.key c.target m).1,
              ⟨(w.cache.store c.key c.target m).2, r, log⟩)) := by
  cases hf : w.cache.find? c.key c.target with
  | some stored => exact .inl ⟨stored, rfl, Workspace.getOrBuild_of_hit hf⟩
  | none =>
    have hfst := c.build_fst targets w
    have hcache := c.build_cache targets w
    have hreg := c.extends_build targets w
    rcases hb : c.build targets w with ⟨e | m, cache, r, log⟩
    all_goals
      rw [hb] at hfst hcache hreg
      cases hcache
    · exact .inr ⟨rfl, r, hreg, .inl ⟨e, log, hfst.symm, Workspace.getOrBuild_of_error hf hb⟩⟩
    · refine .inr ⟨rfl, r, hreg, .inr ⟨m, log, hfst.symm, ?_⟩⟩
      exact (Workspace.getOrBuild_of_ok hf hb).trans (Workspace.keep_of_none hf)

theorem perform_workspace : (c.perform targets w).workspace =
    if RowSource.hasRows c.source then
      (Workspace.getOrBuild c.key c.target (c.build targets) w).2 else w := by
  obtain ⟨settings, target, request, extent, pace, Source, source⟩ := c
  cases extent with
  | one => exact Workspace.withMapper_workspace none (RowSource.mapNext pace) w
  | all => exact Workspace.withMapper_workspace [] (RowSource.mapAll pace) w

/-- Calls that get the same mapper do the same. -/
theorem perform_congr {w w' : Workspace E}
    (h : (Workspace.getOrBuild c.key c.target (c.build targets) w).1.map Stored.mapper =
      (Workspace.getOrBuild c.key c.target (c.build targets) w').1.map Stored.mapper) :
    (c.perform targets w).result = (c.perform targets w').result ∧
      (c.perform targets w).source = (c.perform targets w').source := by
  obtain ⟨settings, target, request, extent, pace, Source, source⟩ := c
  cases extent with
  | one => exact Workspace.withMapper_congr h none (RowSource.mapNext pace)
  | all => exact Workspace.withMapper_congr h [] (RowSource.mapAll pace)

end

end Call

end Hydration
