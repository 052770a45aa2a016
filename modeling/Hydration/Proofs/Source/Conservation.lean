import Hydration.Proofs.Traversal
import Hydration.Source.Stream

/-!
# A stream loses and duplicates nothing

A call on a source over a stream pulls items from the stream, makes rows current and returns
errors.  `s.Accounts pulled served reported t` says that on the way from `s` to `t` nothing else
became of the items:

    s.unpulled = pulled ++ t.unpulled
    s.buffer ++ rowsOf pulled = served ++ t.buffer
    errorsOf pulled = reported

Every call keeps such an account (`exists_accounts`) and accounts add up (`Accounts.trans`), so
after any calls the rows that were served, the buffered rows and the rows still in the stream
are the rows of the stream, in their order.

    servedBy calls s ++ (after calls s).buffer ++ rowsOf (after calls s).unpulled = rowsOf items
                                                                      (conserved_of_openOn)
-/

namespace Hydration

open Traversal

/-! ## Algorithm -/

namespace StreamRows

/-- The errors among the items of a stream. -/
def errorsOf : List StreamItem → List Error
  | [] => []
  | .ok _ :: rest => errorsOf rest
  | .error e :: rest => e :: errorsOf rest

/-- The items that have yet to be pulled from the stream. -/
def unpulled (s : StreamRows) : List StreamItem := s.stream.getD []

/-- What became of the items of the stream on the way from one state of a source to another. -/
structure Accounts (s : StreamRows) (pulled : List StreamItem) (served : List (List Value))
    (reported : List Error) (t : StreamRows) : Prop where
  items : s.unpulled = pulled ++ t.unpulled
  rows : s.buffer ++ rowsOf pulled = served ++ t.buffer
  errors : errorsOf pulled = reported

end StreamRows

/-- A call that moves rows. -/
inductive StreamCall where
  | tap
  | fill
  | advance (pace : Pace)
  deriving DecidableEq

namespace StreamCall

/-- What a call returns when it succeeds: an advance tells whether a row is current. -/
abbrev Answer : StreamCall → Type
  | tap => Unit
  | fill => Unit
  | advance _ => Bool

def perform : (c : StreamCall) → StreamRows → Except Error c.Answer × StreamRows
  | tap => StreamRows.tap
  | fill => StreamRows.fill
  | advance pace => StreamRows.advance pace

/-- The rows that the call makes current: one, if it is an advance that finds one. -/
def served : StreamCall → StreamRows → List (List Value)
  | tap, _ => []
  | fill, _ => []
  | advance pace, s =>
    match s.advance pace with
    | (.ok true, t) => t.current.toList
    | _ => []

/-- The errors of the stream that the call returns, at most one.  A blocking advance never waits
for the stream, so an error of it is its own. -/
def reported (c : StreamCall) (s : StreamRows) : List Error :=
  if c = .advance .blocking then [] else (error? (c.perform s).1).toList

/-- The source after calls. -/
def after (calls : List StreamCall) (s : StreamRows) : StreamRows :=
  calls.foldl (fun s c => (c.perform s).2) s

/-- The rows that calls make current. -/
def servedBy : List StreamCall → StreamRows → List (List Value)
  | [], _ => []
  | c :: rest, s => c.served s ++ servedBy rest (c.perform s).2

/-- The errors of the stream that calls return. -/
def reportedBy : List StreamCall → StreamRows → List Error
  | [], _ => []
  | c :: rest, s => c.reported s ++ reportedBy rest (c.perform s).2

end StreamCall

/-! ## Lemmas -/

namespace StreamRows

theorem rowsOf_append (xs ys : List StreamItem) : rowsOf (xs ++ ys) = rowsOf xs ++ rowsOf ys := by
  induction xs with
  | nil => rfl
  | cons x xs ih => cases x <;> simp [rowsOf, ih]

theorem errorsOf_append (xs ys : List StreamItem) :
    errorsOf (xs ++ ys) = errorsOf xs ++ errorsOf ys := by
  induction xs with
  | nil => rfl
  | cons x xs ih => cases x <;> simp [errorsOf, ih]

namespace Accounts

variable {s t u : StreamRows} {pulled pulled' : List StreamItem}
  {served served' : List (List Value)} {reported reported' : List Error}

theorem refl (s : StreamRows) : s.Accounts [] [] [] s :=
  ⟨rfl, List.append_nil _, rfl⟩

/-- Accounts add up. -/
theorem trans (h : s.Accounts pulled served reported t)
    (h' : t.Accounts pulled' served' reported' u) :
    s.Accounts (pulled ++ pulled') (served ++ served') (reported ++ reported') u where
  items := by rw [h.items, h'.items, List.append_assoc]
  rows := by
    rw [rowsOf_append, ← List.append_assoc, h.rows, List.append_assoc, h'.rows, List.append_assoc]
  errors := by rw [errorsOf_append, h.errors, h'.errors]

/-- The rows of the stream are those served, those buffered and those not pulled. -/
theorem rowsOf_unpulled (h : s.Accounts pulled served reported t) :
    s.buffer ++ rowsOf s.unpulled = served ++ t.buffer ++ rowsOf t.unpulled := by
  rw [h.items, rowsOf_append, ← List.append_assoc, h.rows]

/-- The errors of the stream are those reported and those not pulled. -/
theorem errorsOf_unpulled (h : s.Accounts pulled served reported t) :
    errorsOf s.unpulled = reported ++ errorsOf t.unpulled := by
  rw [h.items, errorsOf_append, h.errors]

end Accounts

/-- What gathering takes from the stream: the gathered rows, and the error that it stops at. -/
theorem exists_gathered (items : List StreamItem) :
    ∃ pulled, items = pulled ++ (gather items).2.2.getD [] ∧
      rowsOf pulled = (gather items).2.1 ∧ errorsOf pulled = (error? (gather items).1).toList := by
  induction items with
  | nil => exact ⟨[], rfl, rfl, rfl⟩
  | cons item rest ih =>
    cases item with
    | error e => exact ⟨[.error e], rfl, rfl, rfl⟩
    | ok row =>
      obtain ⟨pulled, hitems, hrows, herrors⟩ := ih
      refine ⟨.ok row :: pulled, ?_, ?_, herrors⟩
      · simp only [gather, List.cons_append, ← hitems]
      · simp only [gather, rowsOf, hrows]

theorem exists_accounts_tap (s : StreamRows) :
    ∃ pulled, s.Accounts pulled [] (error? s.tap.1).toList s.tap.2 := by
  obtain ⟨columns, buffer, stream, current, resultIndex⟩ := s
  cases buffer with
  | cons row rest => exact ⟨[], .refl _⟩
  | nil =>
    rcases stream with _ | _ | ⟨e | row, rest⟩
    · exact ⟨[], rfl, rfl, rfl⟩
    · exact ⟨[], rfl, rfl, rfl⟩
    · exact ⟨[.error e], rfl, rfl, rfl⟩
    · exact ⟨[.ok row], rfl, rfl, rfl⟩

theorem exists_accounts_fill (s : StreamRows) :
    ∃ pulled, s.Accounts pulled [] (error? s.fill.1).toList s.fill.2 := by
  obtain ⟨columns, buffer, stream, current, resultIndex⟩ := s
  cases stream with
  | none => exact ⟨[], .refl _⟩
  | some items =>
    obtain ⟨pulled, hitems, hrows, herrors⟩ := exists_gathered items
    exact ⟨pulled, hitems, by rw [hrows]; rfl, herrors⟩

theorem exists_accounts_advance (pace : Pace) (s : StreamRows) :
    ∃ pulled, s.Accounts pulled (StreamCall.served (.advance pace) s)
      (StreamCall.reported (.advance pace) s) (s.advance pace).2 := by
  obtain ⟨columns, buffer, stream, current, resultIndex⟩ := s
  cases buffer with
  | cons row rest => cases pace <;> exact ⟨[], rfl, List.append_nil _, rfl⟩
  | nil =>
    cases pace with
    | blocking => cases stream <;> exact ⟨[], rfl, rfl, rfl⟩
    | awaiting =>
      rcases stream with _ | _ | ⟨e | row, rest⟩
      · exact ⟨[], rfl, rfl, rfl⟩
      · exact ⟨[], rfl, rfl, rfl⟩
      · exact ⟨[.error e], rfl, rfl, rfl⟩
      · exact ⟨[.ok row], rfl, rfl, rfl⟩

end StreamRows

namespace StreamCall

open StreamRows

/-- Every call keeps account of the items. -/
theorem exists_accounts (c : StreamCall) (s : StreamRows) :
    ∃ pulled, s.Accounts pulled (c.served s) (c.reported s) (c.perform s).2 := by
  cases c with
  | tap => exact exists_accounts_tap s
  | fill => exact exists_accounts_fill s
  | advance pace => exact exists_accounts_advance pace s

/-- Calls one after the other keep account of the items. -/
theorem exists_accounts_after (calls : List StreamCall) (s : StreamRows) :
    ∃ pulled, s.Accounts pulled (servedBy calls s) (reportedBy calls s) (after calls s) := by
  induction calls generalizing s with
  | nil => exact ⟨[], .refl s⟩
  | cons c rest ih =>
    obtain ⟨pulled, hc⟩ := c.exists_accounts s
    obtain ⟨pulled', hrest⟩ := ih (c.perform s).2
    exact ⟨pulled ++ pulled', hc.trans hrest⟩

/-- A call that fails makes no row current. -/
theorem served_of_error {c : StreamCall} {s : StreamRows} {e : Error}
    (h : (c.perform s).1 = .error e) : c.served s = [] := by
  cases c with
  | tap => rfl
  | fill => rfl
  | advance pace =>
    simp only [perform] at h
    simp only [served]
    split
    · rename_i ht
      rw [ht] at h
      cases h
    · rfl

/-- A call that fails leaves the row that can be read as it is. -/
theorem row_of_error {c : StreamCall} {s : StreamRows} {e : Error}
    (h : (c.perform s).1 = .error e) : (c.perform s).2.row = s.row := by
  obtain ⟨columns, buffer, stream, current, resultIndex⟩ := s
  cases c with
  | tap =>
    cases buffer with
    | cons row rest => rfl
    | nil => rcases stream with _ | _ | ⟨e | row, rest⟩ <;> rfl
  | fill => cases stream <;> rfl
  | advance pace =>
    cases buffer with
    | cons row rest => cases pace <;> cases h
    | nil =>
      cases pace with
      | blocking =>
        cases stream with
        | none => cases h
        | some items => rfl
      | awaiting => rcases stream with _ | _ | ⟨e | row, rest⟩ <;> first | rfl | cases h

/-- A blocking advance that fails changes nothing. -/
theorem blocking_of_error {s : StreamRows} {e : Error} (h : (s.advance .blocking).1 = .error e) :
    (s.advance .blocking).2 = s := by
  obtain ⟨columns, buffer, stream, current, resultIndex⟩ := s
  cases buffer with
  | cons row rest => cases h
  | nil =>
    cases stream with
    | none => cases h
    | some items => rfl

end StreamCall

/-- What opening a source takes from the stream is buffered. -/
theorem StreamRows.exists_accounts_of_openOn {columns : List Column} {items : List StreamItem}
    {s : StreamRows} (h : openOn columns items = .ok s) :
    ∃ pulled, Accounts ⟨columns, [], some items, none, 0⟩ pulled [] [] s := by
  obtain ⟨pulled, htap⟩ := exists_accounts_tap ⟨columns, [], some items, none, 0⟩
  revert h htap
  unfold openOn
  rcases tap ⟨columns, [], some items, none, 0⟩ with ⟨_ | _, t⟩
  · exact nofun
  · intro h htap
    cases h
    exact ⟨pulled, htap⟩

/-! ## Top theorems -/

open StreamRows StreamCall

/-- A source that was opened over a stream keeps, through any calls, every row and every error of
the stream: the rows served, then those buffered, then those not yet pulled are the rows of the
stream, and the errors returned, then those not yet pulled, are its errors.  A further call returns
the errors among the items that it pulls; when it fails, the row that can be read stays, and the
rows that it pulled are buffered behind those that already were. -/
theorem conserved_of_openOn (columns : List Column) (items : List StreamItem) (s : StreamRows)
    (h : openOn columns items = .ok s) (calls : List StreamCall) :
    servedBy calls s ++ (after calls s).buffer ++ rowsOf (after calls s).unpulled = rowsOf items ∧
      reportedBy calls s ++ errorsOf (after calls s).unpulled = errorsOf items ∧
      ∀ c : StreamCall, ∃ pulled,
        (after calls s).unpulled = pulled ++ (c.perform (after calls s)).2.unpulled ∧
        c.reported (after calls s) = errorsOf pulled ∧
        ∀ e, (c.perform (after calls s)).1 = .error e →
          (c.perform (after calls s)).2.row = (after calls s).row ∧
          (c.perform (after calls s)).2.buffer = (after calls s).buffer ++ rowsOf pulled ∧
          (c = .advance .blocking → (c.perform (after calls s)).2 = after calls s) := by
  obtain ⟨opened, hopen⟩ := exists_accounts_of_openOn h
  obtain ⟨pulled, hcalls⟩ := exists_accounts_after calls s
  have hall := hopen.trans hcalls
  refine ⟨hall.rowsOf_unpulled.symm, hall.errorsOf_unpulled.symm, fun c => ?_⟩
  obtain ⟨next, hc⟩ := c.exists_accounts (after calls s)
  refine ⟨next, hc.items, hc.errors.symm, fun e he => ⟨row_of_error he, ?_, ?_⟩⟩
  · have hrows := hc.rows
    rw [served_of_error he] at hrows
    exact hrows.symm
  · rintro rfl
    exact blocking_of_error he

/-- Three rows, with an error before the last. -/
def brokenStream : List StreamItem :=
  [.ok [.bool true], .ok [.bool false], .error (.adhoc "lost"), .ok [.null]]

/-- Filling the buffer stops at the error and keeps the row before it. -/
def brokenCalls : List StreamCall := [.advance .blocking, .fill, .advance .awaiting]

theorem conserved_brokenStream :
    let s : StreamRows := ⟨[⟨0, "x", .bool⟩], [[.bool true]], some (brokenStream.drop 1), none, 0⟩
    openOn [⟨0, "x", .bool⟩] brokenStream = .ok s ∧
      servedBy brokenCalls s = [[.bool true], [.bool false]] ∧
      reportedBy brokenCalls s = [.adhoc "lost"] ∧
      (after brokenCalls s).buffer = [] ∧ (after brokenCalls s).unpulled = [.ok [.null]] ∧
      servedBy brokenCalls s ++ (after brokenCalls s).buffer ++
        rowsOf (after brokenCalls s).unpulled = rowsOf brokenStream :=
  ⟨rfl, rfl, rfl, rfl, rfl, (conserved_of_openOn _ brokenStream _ rfl brokenCalls).1⟩

end Hydration
