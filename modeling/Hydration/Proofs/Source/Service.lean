import Hydration.Hydrate
import Hydration.Proofs.Traversal
import Hydration.Source.Memory
import Hydration.Source.Stream

/-!
# What a source serves

A source serves rows at a pace when advancing makes them current one after the other and then
ends or fails.  That is all that mapping takes from a source, so sources that serve the same
rows map alike, whatever they keep them in:

    (mapAll p f s).1 = (rows.mapM (mapped f columns)).bind ..          (Serves.mapAll_fst)

Rows in memory are served at either pace; so are the buffered rows of a stream once its end has
been seen.  An awaiting caller is served every row up to the first error of the stream.
-/

namespace Hydration

open Traversal

variable {σ ρ : Type}

/-! ## Algorithm -/

/-- What `f` makes of a row with these cells. -/
def mapped (f : Row → Reading ρ) (columns : List Column) (cells : List Value) : Except Error ρ :=
  (f ⟨columns, some cells⟩).result

/-- From `s` on, advancing makes `rows` current in their order, and then there is no further row
or advancing fails with the error of `last`. -/
inductive Serves [RowSource σ] (p : Pace) (columns : List Column) :
    List (List Value) → Except Error Unit → σ → Prop where
  | ended {s s' : σ} (advanced : RowSource.advance p s = (.ok false, s')) :
      Serves p columns [] (.ok ()) s
  | failed {s s' : σ} {e : Error} (advanced : RowSource.advance p s = (.error e, s')) :
      Serves p columns [] (.error e) s
  | next {s s' : σ} {cells : List Value} {rest : List (List Value)} {last : Except Error Unit}
      (advanced : RowSource.advance p s = (.ok true, s'))
      (current : RowSource.row s' = ⟨columns, some cells⟩)
      (served : ∀ l, Serves p columns rest last (RowSource.note l s')) :
      Serves p columns (cells :: rest) last s

/-- The source is at the start of a result set: what it tells of the set, and the rows that it
then serves. -/
structure Presents [RowSource σ] (p : Pace) (columns : List Column) (index : Nat)
    (rows : List (List Value)) (last : Except Error Unit) (s : σ) : Prop where
  columns_eq : (RowSource.row s).columns = columns
  index_eq : RowSource.resultIndex s = index
  hasRows : RowSource.hasRows s = !rows.isEmpty
  serves : ∀ l, Serves p columns rows last (RowSource.note l s)

/-! ## Lemmas -/

namespace RowSource

variable [RowSource σ] {p : Pace} {f : Row → Reading ρ} {s s' : σ}

theorem mapAll_of_error {e : Error} (h : advance p s = (.error e, s')) :
    mapAll p f s = (.error e, s') := by
  rw [mapAll]
  split <;> rename_i heq <;> rw [h] at heq <;> cases heq
  rfl

theorem mapAll_of_false (h : advance p s = (.ok false, s')) : mapAll p f s = (.ok [], s') := by
  rw [mapAll]
  split <;> rename_i heq <;> rw [h] at heq <;> cases heq
  rfl

/-- A row that fails to map is the last. -/
theorem mapAll_of_refused {e : Error} (h : advance p s = (.ok true, s'))
    (he : (f (row s')).result = .error e) :
    mapAll p f s = (.error e, note (f (row s')).trail s') := by
  rw [mapAll]
  split <;> rename_i heq <;> rw [h] at heq <;> cases heq
  simp only [he]

/-- A row that maps is the first of the list. -/
theorem mapAll_of_mapped {r : ρ} (h : advance p s = (.ok true, s'))
    (hr : (f (row s')).result = .ok r) :
    mapAll p f s = ((mapAll p f (note (f (row s')).trail s')).1.map (r :: ·),
      (mapAll p f (note (f (row s')).trail s')).2) := by
  rw [mapAll]
  split <;> rename_i heq <;> rw [h] at heq <;> cases heq
  simp only [hr]

theorem mapAll_fst_of_true (h : advance p s = (.ok true, s')) :
    (mapAll p f s).1 = (f (row s')).result.bind fun r =>
      (mapAll p f (note (f (row s')).trail s')).1.map (r :: ·) := by
  cases hr : (f (row s')).result with
  | error e => rw [mapAll_of_refused h hr]; rfl
  | ok r => rw [mapAll_of_mapped h hr]; rfl

end RowSource

namespace Serves

variable [RowSource σ] {p : Pace} {columns : List Column} {rows : List (List Value)}
  {last : Except Error Unit} {s : σ}

/-- Every row is mapped up to the first that fails, and then the source has the last word. -/
theorem mapAll_fst (h : Serves p columns rows last s) (f : Row → Reading ρ) :
    (RowSource.mapAll p f s).1 =
      (rows.mapM (mapped f columns)).bind fun rs => last.map fun _ => rs := by
  induction h with
  | ended advanced => rw [RowSource.mapAll_of_false advanced]; rfl
  | failed advanced => rw [RowSource.mapAll_of_error advanced]; rfl
  | @next s s' cells rest last advanced current served ih =>
    rw [RowSource.mapAll_fst_of_true advanced, ih, current]
    cases hr : mapped f columns cells with
    | error e => rw [mapM_cons_of_error hr, show (f ⟨columns, some cells⟩).result = _ from hr]; rfl
    | ok r =>
      rw [mapM_cons_of_ok hr, show (f ⟨columns, some cells⟩).result = _ from hr]
      cases rest.mapM (mapped f columns) with
      | error e => rfl
      | ok rs => cases last <;> rfl

/-- The first row is mapped, if there is one. -/
theorem mapNext_fst (h : Serves p columns rows last s) (f : Row → Reading ρ) :
    (RowSource.mapNext p f s).1 =
      rows.head?.elim (last.map fun _ => none) fun cells => (mapped f columns cells).map some := by
  unfold RowSource.mapNext
  cases h with
  | ended advanced => rw [advanced]; rfl
  | failed advanced => rw [advanced]; rfl
  | next advanced current served =>
    rw [advanced]
    simp only [RowSource.mapRow, current, mapped, List.head?_cons, Option.elim_some]

end Serves

/-! ## Rows in memory -/

theorem MemoryRows.serves (p : Pace) (columns : List Column) (rows : List (List Value))
    (current : Option (List Value)) (index : Nat) :
    Serves p columns rows (.ok ()) (MemoryRows.mk columns rows current index) := by
  induction rows generalizing current with
  | nil => exact .ended rfl
  | cons cells rest ih => exact .next rfl rfl fun _ => ih (some cells)

/-- Rows in memory are presented as they are. -/
theorem MemoryRows.presents (p : Pace) (columns : List Column) (rows : List (List Value))
    (index : Nat) :
    Presents p columns index rows (.ok ())
      { MemoryRows.ofRows columns rows with resultIndex := index } where
  columns_eq := rfl
  index_eq := rfl
  hasRows := rfl
  serves _ := serves p columns rows none index

/-! ## Rows from a stream -/

namespace StreamRows

variable {columns : List Column} {rows : List (List Value)} {index : Nat}

/-- Buffered rows come first, at either pace. -/
theorem serves_buffer {p : Pace} {last : Except Error Unit} {stream : Option (List StreamItem)}
    (h : ∀ current, Serves p columns rows last (StreamRows.mk columns [] stream current index))
    (buffer : List (List Value)) (current : Option (List Value)) :
    Serves p columns (buffer ++ rows) last
      (StreamRows.mk columns buffer stream current index) := by
  induction buffer generalizing current with
  | nil => exact h current
  | cons cells rest ih => cases p <;> exact .next rfl rfl fun _ => ih (some cells)

/-- Behind the end of the stream there is nothing, at either pace. -/
theorem serves_end (p : Pace) (current : Option (List Value)) :
    Serves p columns [] (.ok ()) (StreamRows.mk columns [] none current index) := by
  cases p <;> exact .ended rfl

/-- An awaiting caller is served the rows of the stream. -/
theorem serves_rows {last : Except Error Unit} {items : List StreamItem}
    (h : ∀ current,
      Serves .awaiting columns [] last (StreamRows.mk columns [] (some items) current index))
    (rows : List (List Value)) (current : Option (List Value)) :
    Serves .awaiting columns rows last
      (StreamRows.mk columns [] (some (rows.map .ok ++ items)) current index) := by
  induction rows generalizing current with
  | nil => exact h current
  | cons cells rest ih => exact .next rfl rfl fun _ => ih (some cells)

/-- An awaiting caller is served the tapped row and then those of the stream. -/
theorem presents_tapped {last : Except Error Unit} {items : List StreamItem} (first : List Value)
    (h : ∀ current,
      Serves .awaiting columns [] last (StreamRows.mk columns [] (some items) current index))
    (rows : List (List Value)) :
    Presents .awaiting columns index (first :: rows) last
      (StreamRows.mk columns [first] (some (rows.map .ok ++ items)) none index) where
  columns_eq := rfl
  index_eq := rfl
  hasRows := rfl
  serves _ := serves_buffer (serves_rows h rows) [first] none

/-- Once the end of the stream has been seen, the buffered rows are presented at either pace. -/
theorem presents_drained (p : Pace) (columns : List Column) (rows : List (List Value))
    (index : Nat) :
    Presents p columns index rows (.ok ()) (StreamRows.mk columns rows none none index) where
  columns_eq := rfl
  index_eq := rfl
  hasRows := rfl
  serves _ := by
    have h : Serves p columns (rows ++ []) (.ok ())
        (StreamRows.mk columns rows none none index) := serves_buffer (serves_end p) rows none
    rwa [List.append_nil] at h

theorem gather_rows_only (rows : List (List Value)) :
    gather (rows.map .ok) = (.ok (), rows, none) := by
  induction rows with
  | nil => rfl
  | cons row rest ih => simp only [List.map_cons, gather, ih]

/-- A stream of rows opens, and an awaiting caller is served all of them. -/
theorem exists_presents_openOn (columns : List Column) (rows : List (List Value)) (index : Nat) :
    ∃ s, openOn columns (rows.map .ok) = .ok s ∧
      Presents .awaiting columns index rows (.ok ()) { s with resultIndex := index } ∧
      (fill { s with resultIndex := index }).1 = .ok () ∧
      Presents .blocking columns index rows (.ok ())
        (fill { s with resultIndex := index }).2 := by
  cases rows with
  | nil =>
    exact ⟨⟨columns, [], none, none, 0⟩, rfl, presents_drained .awaiting columns [] index, rfl,
      presents_drained .blocking columns [] index⟩
  | cons first rest =>
    have hfill : fill ⟨columns, [first], some (rest.map .ok), none, index⟩ =
        (.ok (), ⟨columns, first :: rest, none, none, index⟩) := by
      simp only [fill, gather_rows_only, List.cons_append, List.nil_append]
    refine ⟨⟨columns, [first], some (rest.map .ok), none, 0⟩, rfl, ?_, ?_, ?_⟩
    · have h : Presents .awaiting columns index (first :: rest) (.ok ())
          (StreamRows.mk columns [first] (some (rest.map .ok ++ [])) none index) :=
        presents_tapped first (fun _ => .ended rfl) rest
      rwa [List.append_nil] at h
    · exact congrArg Prod.fst hfill
    · simp only [hfill]
      exact presents_drained .blocking columns (first :: rest) index

/-- A stream with an error behind its first rows opens, and an awaiting caller is served the rows
before the error. -/
theorem presents_openOn_error (columns : List Column) (first : List Value)
    (more : List (List Value)) (e : Error) (rest : List StreamItem) (index : Nat) :
    ∃ s, openOn columns (.ok first :: (more.map .ok ++ .error e :: rest)) = .ok s ∧
      Presents .awaiting columns index (first :: more) (.error e)
        { s with resultIndex := index } :=
  ⟨_, rfl, presents_tapped first (fun _ => .failed rfl) more⟩

/-- Where a blocking advance succeeds, an awaiting one does the same. -/
theorem awaiting_of_blocking {s t : StreamRows} {b : Bool}
    (h : s.advance .blocking = (.ok b, t)) : s.advance .awaiting = (.ok b, t) := by
  obtain ⟨columns, buffer, stream, current, resultIndex⟩ := s
  cases buffer with
  | cons row rest => exact h
  | nil =>
    cases stream with
    | none => exact h
    | some items => cases h

end StreamRows

end Hydration
