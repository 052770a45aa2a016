import Hydration.Proofs.Source.Conservation
import Hydration.Proofs.Source.Service

/-!
# What mapping takes from a source

Rows in memory and an awaited stream without errors are advanced alike: the first row to come
becomes current, and behind the last there is none.  `Simulates p R` says that a source at pace `p`
goes along with the rows in memory that `R` relates it to, and that is enough to say where a source
stands when its rows have been mapped:

    mapAll p f s = (result, s') with s' at current and left
    Stops f columns rows result current left                            (Simulates.stops_mapAll)

A stream is related to the rows that it has yet to serve, in every state that calls lead to
(`StreamRows.settles_after`).
-/

namespace Hydration

open Traversal

variable {σ ρ : Type}

/-! ## Algorithm -/

/-- How the mapping of rows one after the other stops: with the records of all of them behind the
last row, or at the first row that fails to map. -/
inductive Stops (f : Row → Reading ρ) (columns : List Column) :
    (rows : List (List Value)) → (result : Except Error (List ρ)) →
    (current : Option (List Value)) → (left : List (List Value)) → Prop
  | ended {rows : List (List Value)} {records : List ρ}
      (mapped_all : rows.map (mapped f columns) = records.map .ok) :
      Stops f columns rows (.ok records) none []
  | failed {before after : List (List Value)} {cells : List Value} {records : List ρ} {e : Error}
      (mapped_before : before.map (mapped f columns) = records.map .ok)
      (refused : mapped f columns cells = .error e) :
      Stops f columns (before ++ cells :: after) (.error e) (some cells) after

/-- A source at pace `p` cannot be told from the rows in memory that `R` relates it to. -/
structure Simulates [RowSource σ] (p : Pace) (R : σ → MemoryRows → Prop) : Prop where
  row : ∀ s m, R s m → RowSource.row s = m.row
  resultIndex : ∀ s m, R s m → RowSource.resultIndex s = m.resultIndex
  hasRows : ∀ s m, R s m → RowSource.hasRows s = m.hasRows
  advance : ∀ s m, R s m → ∃ s', RowSource.advance p s = (.ok m.next.1, s') ∧ R s' m.next.2
  note : ∀ s m l, R s m → R (RowSource.note l s) m

namespace StreamRows

/-- Where the source stands, as rows in memory. -/
def settled (s : StreamRows) : MemoryRows := ⟨s.columns, s.upcoming, s.current, s.resultIndex⟩

/-- A source that shows no rows has seen the end of its stream. -/
def Candid (s : StreamRows) : Prop := s.hasRows = false → s.stream = none

/-- The stream has no error to come, and its rows to come are those in memory. -/
structure Settles (s : StreamRows) (m : MemoryRows) : Prop where
  settled : s.settled = m
  errors : errorsOf s.unpulled = []
  candid : s.Candid

end StreamRows

/-! ## Lemmas -/

namespace Stops

variable {f : Row → Reading ρ} {columns : List Column} {rows left : List (List Value)}
  {cells : List Value} {result : Except Error (List ρ)} {current : Option (List Value)} {r : ρ}

theorem nil : Stops f columns [] (.ok []) none [] := .ended rfl

/-- A row that maps is the first of those that are given. -/
theorem cons (hr : mapped f columns cells = .ok r) (h : Stops f columns rows result current left) :
    Stops f columns (cells :: rows) (result.map (r :: ·)) current left := by
  cases h with
  | ended hall => exact .ended (by rw [List.map_cons, List.map_cons, hr, hall])
  | @failed before _ bad records e hbefore hrefused =>
    have hmore : (cells :: before).map (mapped f columns) = (r :: records).map .ok := by
      rw [List.map_cons, List.map_cons, hr, hbefore]
    exact .failed hmore hrefused

/-- A row that fails to map is the last that is taken. -/
theorem cons_error {e : Error} (he : mapped f columns cells = .error e) :
    Stops f columns (cells :: rows) (.error e) (some cells) rows := by
  have hnone : ([] : List (List Value)).map (mapped f columns) = ([] : List ρ).map .ok := rfl
  have hstops : Stops f columns ([] ++ cells :: rows) (.error e) (some cells) rows :=
    .failed hnone he
  exact hstops

theorem of_nil (h : Stops f columns [] result current left) :
    result = .ok [] ∧ current = none ∧ left = [] := by
  generalize hrows : ([] : List (List Value)) = rows at h
  cases h with
  | ended hall =>
    subst hrows
    rw [List.map_nil, eq_comm, List.map_eq_nil_iff] at hall
    rw [hall]
    exact ⟨rfl, rfl, rfl⟩
  | failed => simp at hrows

/-- What stops at the first row, and what goes on behind it. -/
theorem of_cons (h : Stops f columns (cells :: rows) result current left) :
    (∃ e, mapped f columns cells = .error e ∧ result = .error e ∧ current = some cells ∧
      left = rows) ∨
    ∃ r rest, mapped f columns cells = .ok r ∧ result = rest.map (r :: ·) ∧
      Stops f columns rows rest current left := by
  generalize hrows : cells :: rows = all at h
  cases h with
  | @ended _ records hall =>
    subst hrows
    rw [List.map_cons] at hall
    obtain ⟨r, more, rfl, hr, hmore⟩ := List.map_eq_cons_iff.1 hall.symm
    exact .inr ⟨r, .ok more, hr.symm, rfl, .ended hmore.symm⟩
  | @failed before _ bad records e hbefore hrefused =>
    cases before with
    | nil =>
      obtain ⟨rfl, rfl⟩ := List.cons.inj hrows
      exact .inl ⟨e, hrefused, rfl, rfl, rfl⟩
    | cons first before =>
      obtain ⟨rfl, rfl⟩ := List.cons.inj hrows
      rw [List.map_cons] at hbefore
      obtain ⟨r, more, rfl, hr, hmore⟩ := List.map_eq_cons_iff.1 hbefore.symm
      exact .inr ⟨r, .error e, hr.symm, rfl, .failed hmore.symm hrefused⟩

/-- There is one way to stop. -/
theorem unique {result' : Except Error (List ρ)} {current' : Option (List Value)}
    {left' : List (List Value)} (h : Stops f columns rows result current left)
    (h' : Stops f columns rows result' current' left') :
    result = result' ∧ current = current' ∧ left = left' := by
  induction rows generalizing result result' with
  | nil =>
    obtain ⟨rfl, rfl, rfl⟩ := h.of_nil
    obtain ⟨rfl, rfl, rfl⟩ := h'.of_nil
    exact ⟨rfl, rfl, rfl⟩
  | cons cells rows ih =>
    rcases h.of_cons with ⟨e, he, rfl, rfl, rfl⟩ | ⟨r, rest, hr, rfl, hrest⟩ <;>
      rcases h'.of_cons with ⟨e', he', rfl, rfl, rfl⟩ | ⟨r', rest', hr', rfl, hrest'⟩
    · rw [he, Except.error.injEq] at he'
      subst he'
      exact ⟨rfl, rfl, rfl⟩
    · rw [he] at hr'
      cases hr'
    · rw [hr] at he'
      cases he'
    · rw [hr, Except.ok.injEq] at hr'
      subst hr'
      obtain ⟨rfl, hcurrent, hleft⟩ := ih hrest hrest'
      exact ⟨rfl, hcurrent, hleft⟩

end Stops

theorem MemoryRows.hasRows_eq_false_iff {m : MemoryRows} :
    m.hasRows = false ↔ m.current = none ∧ m.pending = [] := by
  obtain ⟨columns, pending, current, resultIndex⟩ := m
  cases current <;> cases pending <;> simp [hasRows]

namespace Simulates

variable [RowSource σ] {p : Pace} {R : σ → MemoryRows → Prop} {s : σ} {m : MemoryRows}

theorem empty_of_hasRows (hR : Simulates p R) (h : R s m) (hrows : RowSource.hasRows s = false) :
    m.current = none ∧ m.pending = [] :=
  MemoryRows.hasRows_eq_false_iff.1 ((hR.hasRows s m h).symm.trans hrows)

/-- Mapping every row takes the rows up to the first that fails to map. -/
theorem stops_mapAll (hR : Simulates p R) (h : R s m) (f : Row → Reading ρ) :
    ∃ current left, R (RowSource.mapAll p f s).2 { m with current, pending := left } ∧
      Stops f m.columns m.pending (RowSource.mapAll p f s).1 current left := by
  obtain ⟨columns, pending, current, resultIndex⟩ := m
  induction pending generalizing s current with
  | nil =>
    obtain ⟨s', hadvance, hs'⟩ := hR.advance _ _ h
    rw [RowSource.mapAll_of_false hadvance]
    exact ⟨none, [], hs', .nil⟩
  | cons cells rest ih =>
    obtain ⟨s', hadvance, hs'⟩ := hR.advance _ _ h
    have hrow : RowSource.row s' = ⟨columns, some cells⟩ := hR.row _ _ hs'
    have hnoted := hR.note _ _ (f (RowSource.row s')).trail hs'
    cases hr : mapped f columns cells with
    | error e =>
      have hresult : (f (RowSource.row s')).result = .error e := by
        rw [hrow]
        exact hr
      rw [RowSource.mapAll_of_refused hadvance hresult]
      exact ⟨some cells, rest, hnoted, .cons_error hr⟩
    | ok r =>
      have hresult : (f (RowSource.row s')).result = .ok r := by
        rw [hrow]
        exact hr
      obtain ⟨current', left, hsource, hstops⟩ := ih _ hnoted
      rw [RowSource.mapAll_of_mapped hadvance hresult]
      exact ⟨current', left, hsource, hstops.cons hr⟩

/-- Mapping the next row takes one row, if there is one. -/
theorem mapNext (hR : Simulates p R) (h : R s m) (f : Row → Reading ρ) :
    R (RowSource.mapNext p f s).2
        { m with current := m.pending.head?, pending := m.pending.tail } ∧
      (RowSource.mapNext p f s).1 =
        m.pending.head?.elim (.ok none) fun cells => (mapped f m.columns cells).map some := by
  obtain ⟨columns, pending, current, resultIndex⟩ := m
  obtain ⟨s', hadvance, hs'⟩ := hR.advance _ _ h
  unfold RowSource.mapNext
  rw [hadvance]
  cases pending with
  | nil => exact ⟨hs', rfl⟩
  | cons cells rest =>
    have hrow : RowSource.row s' = ⟨columns, some cells⟩ := hR.row _ _ hs'
    refine ⟨hR.note _ _ _ hs', ?_⟩
    simp only [MemoryRows.next, RowSource.mapRow, hrow, mapped, List.head?_cons, Option.elim_some]

end Simulates

/-! ## Rows in memory -/

/-- Rows in memory are what they are at either pace. -/
theorem MemoryRows.simulates (p : Pace) : Simulates p fun s m : MemoryRows => s = m where
  row := by rintro s _ rfl; rfl
  resultIndex := by rintro s _ rfl; rfl
  hasRows := by rintro s _ rfl; rfl
  advance := by rintro s _ rfl; exact ⟨_, rfl, rfl⟩
  note := by rintro s _ _ rfl; rfl

/-! ## Rows from a stream -/

namespace StreamRows

variable {s : StreamRows}

/-- A stream without errors that has a row to come shows it. -/
theorem Candid.hasRows_eq (hs : s.Candid) :
    s.hasRows = (s.current.isSome || !s.upcoming.isEmpty) := by
  obtain ⟨columns, buffer, stream, current, resultIndex⟩ := s
  unfold Candid at hs
  cases current with
  | some cells => rfl
  | none =>
    cases buffer with
    | cons row rest => rfl
    | nil =>
      have hstream : stream = none := hs rfl
      rw [hstream]
      rfl

theorem Settles.advance {m : MemoryRows} (h : s.Settles m) :
    ∃ s', s.advance .awaiting = (.ok m.next.1, s') ∧ s'.Settles m.next.2 := by
  obtain ⟨rfl, herrors, hcandid⟩ := h
  obtain ⟨columns, buffer, stream, current, resultIndex⟩ := s
  cases buffer with
  | cons row rest => exact ⟨_, rfl, rfl, herrors, nofun⟩
  | nil =>
    rcases stream with _ | _ | ⟨e | row, rest⟩
    · exact ⟨_, rfl, rfl, rfl, fun _ => rfl⟩
    · exact ⟨_, rfl, rfl, rfl, fun _ => rfl⟩
    · cases herrors
    · exact ⟨_, rfl, rfl, herrors, nofun⟩

/-- An awaited stream without errors cannot be told from its rows in memory. -/
theorem simulates : Simulates .awaiting Settles where
  row := by rintro s _ ⟨rfl, -, -⟩; rfl
  resultIndex := by rintro s _ ⟨rfl, -, -⟩; rfl
  hasRows := by rintro s _ ⟨rfl, -, hs⟩; exact hs.hasRows_eq
  advance := fun _ _ => Settles.advance
  note := fun _ _ _ => id

/-! ### States that calls lead to -/

/-- A source shows no rows only when it has none, whichever call it is used by. -/
theorem Candid.perform (hs : s.Candid) (c : StreamCall) : (c.perform s).2.Candid := by
  obtain ⟨columns, buffer, stream, current, resultIndex⟩ := s
  unfold Candid at hs ⊢
  cases stream with
  | none =>
    -- a stream that has ended stays so
    cases c with
    | tap => cases buffer <;> exact fun _ => rfl
    | fill => exact fun _ => rfl
    | advance pace => cases buffer <;> cases pace <;> exact fun _ => rfl
  | some items =>
    cases buffer with
    | cons row rest =>
      cases c with
      | tap => exact hs
      | fill => cases current <;> exact nofun
      | advance pace => cases pace <;> exact nofun
    | nil =>
      cases current with
      | none => exact absurd (hs rfl) nofun
      | some cells =>
        cases c with
        | tap => rcases items with _ | ⟨_ | _, _⟩ <;> exact nofun
        | fill => exact nofun
        | advance pace =>
          cases pace with
          | blocking => exact nofun
          | awaiting =>
            rcases items with _ | ⟨e | row, rest⟩
            · exact fun _ => rfl
            · exact nofun
            · exact nofun

theorem candid_of_openOn {columns : List Column} {items : List StreamItem}
    (h : openOn columns items = .ok s) : s.Candid := by
  rcases items with _ | ⟨e | row, rest⟩
  · cases h
    exact fun _ => rfl
  · cases h
  · cases h
    exact nofun

theorem candid_after (hs : s.Candid) (calls : List StreamCall) :
    (StreamCall.after calls s).Candid := by
  induction calls generalizing s with
  | nil => exact hs
  | cons c rest ih => exact ih (hs.perform c)

/-- Calls on a stream without errors find none. -/
theorem errorsOf_after (hs : errorsOf s.unpulled = []) (calls : List StreamCall) :
    errorsOf (StreamCall.after calls s).unpulled = [] := by
  obtain ⟨pulled, haccounts⟩ := StreamCall.exists_accounts_after calls s
  have herrors := haccounts.errorsOf_unpulled
  rw [hs] at herrors
  exact (List.append_eq_nil_iff.1 herrors.symm).2

theorem errorsOf_map_ok (rows : List (List Value)) : errorsOf (rows.map .ok) = [] := by
  induction rows with
  | nil => rfl
  | cons row rest ih => exact ih

/-- A source over a stream of rows settles, whichever calls it was used by. -/
theorem settles_after {columns : List Column} {rows : List (List Value)}
    (h : openOn columns (rows.map .ok) = .ok s) (index : Nat) (calls : List StreamCall) :
    let t := StreamCall.after calls { s with resultIndex := index }
    t.Settles t.settled := by
  intro t
  have hcandid : s.Candid := candid_of_openOn h
  have herrors : errorsOf s.unpulled = [] := by
    obtain ⟨pulled, hopen⟩ := exists_accounts_of_openOn h
    have hall : errorsOf (rows.map .ok) = [] ++ errorsOf s.unpulled := hopen.errorsOf_unpulled
    rw [errorsOf_map_ok] at hall
    exact hall.symm
  -- the index of the result set plays no part in either
  have hcandid' : Candid { s with resultIndex := index } := hcandid
  have herrors' : errorsOf (unpulled { s with resultIndex := index }) = [] := herrors
  exact ⟨rfl, errorsOf_after herrors' calls, candid_after hcandid' calls⟩

end StreamRows

end Hydration
