import Hydration.Proofs.Source.Consumption

/-!
# A source that shows no rows has none

A source tells that it has rows by its current row and the rows at hand; it does not look into its
stream.  It is right nevertheless, because every call leaves a row current or at hand until the
stream has ended, so a source that shows no rows is exhausted, and an exhausted source stays as it
is:

    s.Candid  →  (s.hasRows = false  ↔  s.Exhausted)                            (exhausted_iff)
    s.Exhausted  →  after calls s = s  ∧  servedBy calls s = []              (Exhausted.after)

Until it is advanced, a source shows rows exactly when its stream holds a row.
-/

namespace Hydration

open StreamRows StreamCall

variable {σ : Type}

/-! ## Algorithm -/

/-- No row is current, none is at hand, and the stream has ended. -/
structure StreamRows.Exhausted (s : StreamRows) : Prop where
  current : s.current = none
  buffer : s.buffer = []
  stream : s.stream = none

/-- The source after advances, each at its pace. -/
def RowSource.advanced [RowSource σ] (paces : List Pace) (s : σ) : σ :=
  paces.foldl (fun s pace => (RowSource.advance pace s).2) s

/-! ## Lemmas -/

/-! ### Rows from a stream -/

namespace StreamRows

variable {s : StreamRows} {columns : List Column} {items : List StreamItem}
  {calls : List StreamCall}

theorem exhausted_iff (hs : s.Candid) : s.hasRows = false ↔ s.Exhausted := by
  constructor
  · intro h
    have hstream : s.stream = none := hs h
    simp only [hasRows, Bool.or_eq_false_iff, Option.isSome_eq_false_iff, Option.isNone_iff_eq_none,
      Bool.not_eq_false', List.isEmpty_iff] at h
    exact ⟨h.1, h.2, hstream⟩
  · rintro ⟨hcurrent, hbuffer, -⟩
    simp [hasRows, hcurrent, hbuffer]

/-- A call on an exhausted source finds nothing and changes nothing. -/
theorem Exhausted.perform (h : s.Exhausted) (c : StreamCall) :
    (c.perform s).2 = s ∧ c.served s = [] := by
  obtain ⟨columns, buffer, stream, current, resultIndex⟩ := s
  obtain ⟨rfl, rfl, rfl⟩ := h
  cases c with
  | tap => exact ⟨rfl, rfl⟩
  | fill => exact ⟨rfl, rfl⟩
  | advance pace => cases pace <;> exact ⟨rfl, rfl⟩

theorem Exhausted.after (h : s.Exhausted) (calls : List StreamCall) :
    StreamCall.after calls s = s ∧ servedBy calls s = [] := by
  induction calls with
  | nil => exact ⟨rfl, rfl⟩
  | cons c rest ih =>
    obtain ⟨hsame, hnone⟩ := h.perform c
    obtain ⟨hrest, hserved⟩ := ih
    constructor
    · show StreamCall.after rest (c.perform s).2 = s
      rw [hsame, hrest]
    · rw [servedBy, hnone, hsame, hserved, List.append_nil]

theorem current_tap (s : StreamRows) : s.tap.2.current = s.current := by
  obtain ⟨columns, buffer, stream, current, resultIndex⟩ := s
  cases buffer with
  | cons row rest => rfl
  | nil => rcases stream with _ | _ | ⟨_ | row, rest⟩ <;> rfl

theorem current_fill (s : StreamRows) : s.fill.2.current = s.current := by
  obtain ⟨columns, buffer, stream, current, resultIndex⟩ := s
  cases stream <;> rfl

/-- Calls that do not advance leave the current row as it is and serve none. -/
theorem current_after_of_no_advance (h : ∀ pace, StreamCall.advance pace ∉ calls) :
    (StreamCall.after calls s).current = s.current ∧ servedBy calls s = [] := by
  induction calls generalizing s with
  | nil => exact ⟨rfl, rfl⟩
  | cons c rest ih =>
    have hc : (c.perform s).2.current = s.current ∧ c.served s = [] := by
      cases c with
      | tap => exact ⟨current_tap s, rfl⟩
      | fill => exact ⟨current_fill s, rfl⟩
      | advance pace => exact absurd List.mem_cons_self (h pace)
    have hrest : ∀ pace, StreamCall.advance pace ∉ rest :=
      fun pace hmem => h pace (List.mem_cons_of_mem c hmem)
    obtain ⟨hcurrent, hserved⟩ := ih (s := (c.perform s).2) hrest
    constructor
    · exact hcurrent.trans hc.1
    · rw [servedBy, hc.2, hserved, List.append_nil]

/-- What was served and what is to come are what was to come. -/
theorem upcoming_after (calls : List StreamCall) (s : StreamRows) :
    servedBy calls s ++ (StreamCall.after calls s).upcoming = s.upcoming := by
  obtain ⟨pulled, haccounts⟩ := exists_accounts_after calls s
  have hrows : s.upcoming = servedBy calls s ++ _ ++ _ := haccounts.rowsOf_unpulled
  rw [hrows, List.append_assoc]
  rfl

/-- A source that was opened stands before the rows of its stream. -/
theorem upcoming_of_openOn (h : openOn columns items = .ok s) :
    s.current = none ∧ s.upcoming = rowsOf items := by
  rcases items with _ | ⟨e | row, rest⟩
  · cases h
    exact ⟨rfl, rfl⟩
  · cases h
  · cases h
    exact ⟨rfl, rfl⟩

/-- Until it is advanced, an opened source shows rows when its stream holds one. -/
theorem hasRows_after_of_no_advance (h : openOn columns items = .ok s)
    (hcalls : ∀ pace, StreamCall.advance pace ∉ calls) :
    (StreamCall.after calls s).hasRows = true ↔ rowsOf items ≠ [] := by
  obtain ⟨hnone, hitems⟩ := upcoming_of_openOn h
  obtain ⟨hcurrent, hserved⟩ := current_after_of_no_advance (s := s) hcalls
  have hupcoming := upcoming_after calls s
  rw [hserved, List.nil_append, hitems] at hupcoming
  rw [(candid_after (candid_of_openOn h) calls).hasRows_eq, hcurrent, hnone, hupcoming]
  simp

end StreamRows

/-! ### Rows in memory -/

namespace MemoryRows

variable {m : MemoryRows}

theorem next_of_hasRows_eq_false (h : m.hasRows = false) : m.next = (false, m) := by
  obtain ⟨columns, pending, current, resultIndex⟩ := m
  obtain ⟨rfl, rfl⟩ := hasRows_eq_false_iff.1 h
  rfl

/-- Rows in memory that show none stay as they are. -/
theorem advanced_of_hasRows_eq_false (h : m.hasRows = false) (paces : List Pace) :
    RowSource.advanced paces m = m := by
  induction paces with
  | nil => rfl
  | cons pace rest ih =>
    show RowSource.advanced rest m.next.2 = m
    rw [next_of_hasRows_eq_false h]
    exact ih

end MemoryRows

/-! ## Top theorems -/

/-- Whichever calls a source was used by, failing ones included, when it shows no rows it is
exhausted and no later call makes a row current; and before it is advanced it shows rows exactly
when there are some.  This holds of a source over any stream that could be opened and of rows in
memory. -/
theorem hasRows_hides_no_rows :
    (∀ (columns : List Column) (items : List StreamItem) (s : StreamRows),
      openOn columns items = .ok s → ∀ calls : List StreamCall,
        ((after calls s).hasRows = false → (after calls s).Exhausted ∧
          ∀ more, after more (after calls s) = after calls s ∧
            servedBy more (after calls s) = []) ∧
        ((∀ pace, .advance pace ∉ calls) → ((after calls s).hasRows = true ↔ rowsOf items ≠ []))) ∧
    ∀ (columns : List Column) (rows : List (List Value)) (paces : List Pace),
      let start := MemoryRows.ofRows columns rows
      let m := RowSource.advanced paces start
      (m.hasRows = false → (m.current = none ∧ m.pending = []) ∧ ∀ (more : List Pace) (pace : Pace),
        RowSource.advance pace (RowSource.advanced more m) = (.ok false, m)) ∧
      (start.hasRows = true ↔ rows ≠ []) := by
  refine ⟨fun columns items s h calls => ⟨fun hnone => ?_, hasRows_after_of_no_advance h⟩,
    fun columns rows paces => ⟨fun hnone => ⟨?_, fun more pace => ?_⟩, ?_⟩⟩
  · have hcandid : (after calls s).Candid := candid_after (candid_of_openOn h) calls
    have hexhausted := (exhausted_iff hcandid).1 hnone
    exact ⟨hexhausted, hexhausted.after⟩
  · exact MemoryRows.hasRows_eq_false_iff.1 hnone
  · rw [MemoryRows.advanced_of_hasRows_eq_false hnone]
    show (Except.ok (MemoryRows.next _).1, (MemoryRows.next _).2) = _
    rw [MemoryRows.next_of_hasRows_eq_false hnone]
  · cases rows <;> simp [MemoryRows.ofRows, MemoryRows.hasRows]

/-- A row and an error behind it. -/
def lossyStream : List StreamItem := [.ok [.null], .error (.adhoc "lost")]

/-- The row is passed, the error is returned, and the end is seen. -/
def lossyCalls : List StreamCall := [.advance .blocking, .advance .awaiting, .advance .awaiting]

theorem hasRows_lossyStream :
    let s : StreamRows := ⟨[⟨0, "x", .bool⟩], [[.null]], some (lossyStream.drop 1), none, 0⟩
    let m := RowSource.advanced [.blocking, .awaiting]
      (MemoryRows.ofRows [⟨0, "x", .bool⟩] [[.null]])
    openOn [⟨0, "x", .bool⟩] lossyStream = .ok s ∧
      ((after [.tap, .fill] s).hasRows = true ↔ rowsOf lossyStream ≠ []) ∧
      ((after (lossyCalls.take 2) s).hasRows = true ∧ (after lossyCalls s).hasRows = false) ∧
      (after lossyCalls s).Exhausted ∧
      m.hasRows = false ∧ m.pending = [] := by
  intro s m
  have hopen : openOn [⟨0, "x", .bool⟩] lossyStream = .ok s := rfl
  have hnone : (after lossyCalls s).hasRows = false := rfl
  have hmemory : m.hasRows = false := rfl
  obtain ⟨hstream, hrows⟩ := hasRows_hides_no_rows
  have hshown := (hstream _ _ s hopen [.tap, .fill]).2 (by simp)
  have hexhausted := ((hstream _ _ s hopen lossyCalls).1 hnone).1
  have hpending := ((hrows [⟨0, "x", .bool⟩] [[.null]] [.blocking, .awaiting]).1 hmemory).1.2
  exact ⟨hopen, hshown, ⟨rfl, hnone⟩, hexhausted, hmemory, hpending⟩

end Hydration
