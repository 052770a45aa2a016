import Hydration.Proofs.Session.Basic
import Hydration.Proofs.Source.Service

/-!
# Sources and paces agree

A call maps what its source presents, at the pace at which it is made; how the source keeps its
rows cannot be told from what the call gives.  So the four ways to map a list of rows agree:
from memory at either pace, awaiting a stream of them, and from such a stream once it is
buffered.

    Presents p columns index rows last s → Presents q columns index rows last s' →
      (c.over p s).perform targets w and (c.over q s').perform targets w are alike
                                                                     (Presents.perform_alike)

Where an error of the stream ends the rows, the building of the mapper comes first, then the
rows, and then the error.
-/

namespace Hydration

open Traversal

variable {ι : Type} {E : ι → Type} {σ τ α : Type}

/-! ## Algorithm -/

/-- The call made over another source, at another pace. -/
def Call.over [RowSource σ] (c : Call ι) (p : Pace) (s : σ) : Call ι where
  settings := c.settings
  target := c.target
  request := c.request
  extent := c.extent
  pace := p
  Source := σ
  rows := inferInstance
  source := s

/-- Calls gave the same and left the same cache, registry and log behind. -/
structure Workspace.Outcome.Alike (x : Outcome E σ α) (y : Outcome E τ α) : Prop where
  result : x.result = y.result
  workspace : x.workspace = y.workspace

/-! ## Lemmas -/

namespace Workspace

variable [DecidableEq ι] [RowSource σ] {settings : Settings} {target : ι}
  {t : Target (E target)} {request : Request} {s : σ}

theorem withMapper_result (default : α) (f : (Row → Reading (E target)) → σ → Except Error α × σ)
    (w : Workspace E) :
    (withMapper settings target t request default f s w).result =
      if RowSource.hasRows s then
        (mapper settings target t request s w).1.bind fun stored =>
          (f stored.mapper.map (RowSource.note [.hasRows] s)).1
      else .ok default := by
  simp only [withMapper, mapper_note]
  split
  · rcases mapper settings target t request s w with ⟨_ | stored, w'⟩ <;> rfl
  · rfl

/-- The mapper depends on the source by the index and the columns of its result set. -/
theorem mapper_congr [RowSource τ] {s' : τ}
    (hindex : RowSource.resultIndex s = RowSource.resultIndex s')
    (hcolumns : (RowSource.row s).columns = (RowSource.row s').columns) :
    mapper (E := E) settings target t request s = mapper settings target t request s' := by
  unfold mapper
  rw [hindex, hcolumns]

theorem withMapper_alike [RowSource τ] {s' : τ} {default : α}
    {f : (Row → Reading (E target)) → σ → Except Error α × σ}
    {f' : (Row → Reading (E target)) → τ → Except Error α × τ}
    (hindex : RowSource.resultIndex s = RowSource.resultIndex s')
    (hcolumns : (RowSource.row s).columns = (RowSource.row s').columns)
    (hhas : RowSource.hasRows s = RowSource.hasRows s')
    (hf : ∀ map, (f map (RowSource.note [.hasRows] s)).1 =
      (f' map (RowSource.note [.hasRows] s')).1) (w : Workspace E) :
    (withMapper settings target t request default f s w).Alike
      (withMapper settings target t request default f' s' w) where
  result := by simp only [withMapper_result, mapper_congr hindex hcolumns, hhas, hf]
  workspace := by simp only [withMapper_workspace, mapper_congr hindex hcolumns, hhas]

end Workspace

namespace Presents

variable [DecidableEq ι] [RowSource σ] {p : Pace} {columns : List Column} {index : Nat}
  {rows : List (List Value)} {last : Except Error Unit} {s : σ} {settings : Settings} {target : ι}
  {t : Target (E target)} {request : Request}

section
variable [RowSource τ] {q : Pace} {s' : τ} (h : Presents p columns index rows last s)
  (h' : Presents q columns index rows last s')
include h h'

theorem single_alike (w : Workspace E) :
    (Workspace.single settings target t request p s w).Alike
      (Workspace.single settings target t request q s' w) := by
  refine Workspace.withMapper_alike (h.index_eq.trans h'.index_eq.symm)
    (h.columns_eq.trans h'.columns_eq.symm) (h.hasRows.trans h'.hasRows.symm) (fun map => ?_) w
  rw [(h.serves _).mapNext_fst, (h'.serves _).mapNext_fst]

theorem list_alike (w : Workspace E) :
    (Workspace.list settings target t request p s w).Alike
      (Workspace.list settings target t request q s' w) := by
  refine Workspace.withMapper_alike (h.index_eq.trans h'.index_eq.symm)
    (h.columns_eq.trans h'.columns_eq.symm) (h.hasRows.trans h'.hasRows.symm) (fun map => ?_) w
  rw [(h.serves _).mapAll_fst, (h'.serves _).mapAll_fst]

/-- Calls over sources that present the same rows are alike. -/
theorem perform_alike (targets : (i : ι) → Target (E i)) (c : Call ι) (w : Workspace E) :
    ((c.over p s).perform targets w).Alike ((c.over q s').perform targets w) := by
  obtain ⟨settings, target, request, extent, pace, Source, source⟩ := c
  cases extent with
  | one => exact h.single_alike h' w
  | all => exact h.list_alike h' w

end

/-- An error behind the rows comes after the building of the mapper and after the rows. -/
theorem list_result_of_error {first : List Value} {more : List (List Value)} {e : Error}
    (h : Presents p columns index (first :: more) (.error e) s) (w : Workspace E) :
    (Workspace.list settings target t request p s w).result =
      (Workspace.mapper settings target t request s w).1.bind fun stored =>
        .error (((first :: more).findSome? fun cells =>
          error? (mapped stored.mapper.map columns cells)).getD e) := by
  unfold Workspace.list
  rw [Workspace.withMapper_result, if_pos (by rw [h.hasRows]; rfl)]
  congr 1
  funext stored
  rw [(h.serves _).mapAll_fst, ← mapM_bind_error]
  rfl

end Presents

/-! ## Top theorems -/

/-- The ways to map rows agree.  A call gives the same and leaves the same cache behind over rows
in memory, awaiting or not, awaiting a stream of the rows, and over that stream once it is
buffered.  In any state of a source over a stream, where a blocking advance succeeds an awaiting
one does the same.  When an error of the stream comes behind one row or more, awaiting a list
gives the error of building the mapper, else the first error of mapping those rows, else the error
of the stream. -/
theorem sources_and_paces_agree [DecidableEq ι] (targets : (i : ι) → Target (E i)) (c : Call ι)
    (columns : List Column) (index : Nat) (w : Workspace E) :
    (∀ rows, ∃ stream, StreamRows.openOn columns (rows.map .ok) = .ok stream ∧
      (StreamRows.fill { stream with resultIndex := index }).1 = .ok () ∧
      let memory := { MemoryRows.ofRows columns rows with resultIndex := index }
      let streaming := { stream with resultIndex := index }
      ((c.over .awaiting memory).perform targets w).Alike
          ((c.over .blocking memory).perform targets w) ∧
        ((c.over .awaiting streaming).perform targets w).Alike
          ((c.over .blocking memory).perform targets w) ∧
        ((c.over .blocking streaming.fill.2).perform targets w).Alike
          ((c.over .blocking memory).perform targets w)) ∧
    (∀ (s t : StreamRows) (b : Bool), s.advance .blocking = (.ok b, t) →
      s.advance .awaiting = (.ok b, t)) ∧
    ∀ first more e rest, ∃ stream,
      StreamRows.openOn columns (.ok first :: (more.map .ok ++ .error e :: rest)) = .ok stream ∧
      let streaming := { stream with resultIndex := index }
      (Workspace.list c.settings c.target (targets c.target) c.request .awaiting streaming
          w).result =
        match (Workspace.mapper c.settings c.target (targets c.target) c.request streaming w).1 with
        | .error unbuilt => .error unbuilt
        | .ok stored => .error (((first :: more).findSome? fun cells =>
            error? (stored.mapper.map ⟨columns, some cells⟩).result).getD e) := by
  refine ⟨fun rows => ?_, fun s t b => StreamRows.awaiting_of_blocking,
    fun first more e rest => ?_⟩
  · obtain ⟨stream, hopen, hawaiting, hfill, hblocking⟩ :=
      StreamRows.exists_presents_openOn columns rows index
    have hmemory := fun p => MemoryRows.presents p columns rows index
    exact ⟨stream, hopen, hfill, (hmemory .awaiting).perform_alike (hmemory .blocking) targets c w,
      hawaiting.perform_alike (hmemory .blocking) targets c w,
      hblocking.perform_alike (hmemory .blocking) targets c w⟩
  · obtain ⟨stream, hopen, hpresents⟩ :=
      StreamRows.presents_openOn_error columns first more e rest index
    refine ⟨stream, hopen, ?_⟩
    simp only
    rw [hpresents.list_result_of_error]
    cases (Workspace.mapper c.settings c.target (targets c.target) c.request
      { stream with resultIndex := index } w).1 <;> rfl

end Hydration
