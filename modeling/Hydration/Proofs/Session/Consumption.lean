import Hydration.Proofs.Session.Agreement
import Hydration.Proofs.Source.Consumption

/-!
# What calls take from their source

A call that maps one row takes it; a call that maps every row takes them all, or those up to the
first that fails to map.  Before either, the mapper has to be there: a call that is given none
takes nothing, and a source without rows does not even ask for it.

    single:  one row is taken, and the record is of that row
    list:    Stops map columns rows result current left
    k times single and then list:  what list alone would give               (Consumes.after)

It is shown once for a source that goes along with rows in memory (`consumes`); rows in memory do,
and so does an awaited stream of rows, whatever it was used for before.
-/

namespace Hydration

open Traversal

variable {ι : Type} {E : ι → Type} {σ α : Type}

/-! ## Algorithm -/

namespace Workspace

/-- The call gave `result` and left its source where `m` stands. -/
structure Outcome.Gives (view : σ → MemoryRows) (x : Outcome E σ α) (result : Except Error α)
    (m : MemoryRows) : Prop where
  result : x.result = result
  source : view x.source = m

section
variable [DecidableEq ι] [RowSource σ]

/-- `k` calls that map one row each and then one that maps every row that is left: the records of
all of them in one list.  The first call that fails is the last. -/
def listAfter (settings : Settings) (target : ι) (t : Target (E target)) (request : Request)
    (p : Pace) : (k : Nat) → σ → Workspace E → Outcome E σ (List (E target))
  | 0, s, w => list settings target t request p s w
  | k + 1, s, w =>
    match single settings target t request p s w with
    | ⟨.error e, s, w⟩ => ⟨.error e, s, w⟩
    | ⟨.ok record, s, w⟩ =>
      let rest := listAfter settings target t request p k s w
      { rest with result := rest.result.map (record.toList ++ ·) }

/-- What calls over a source give and take.  `view` tells where the source stands. -/
structure Consumes (settings : Settings) (target : ι) (t : Target (E target)) (request : Request)
    (p : Pace) (view : σ → MemoryRows) (s : σ) (w : Workspace E) : Prop where
  /-- Without rows no mapper is asked for. -/
  idle : RowSource.hasRows s = false →
    ((single settings target t request p s w).Gives view (.ok none) (view s) ∧
      (single settings target t request p s w).workspace = w) ∧
    (list settings target t request p s w).Gives view (.ok []) (view s) ∧
      (list settings target t request p s w).workspace = w
  /-- A mapper that cannot be built is asked for before a row is taken. -/
  unbuilt : ∀ e, RowSource.hasRows s = true →
    (mapper settings target t request s w).1 = .error e →
      ((single settings target t request p s w).Gives view (.error e) (view s) ∧
        (single settings target t request p s w).workspace.cache = w.cache) ∧
      (list settings target t request p s w).Gives view (.error e) (view s) ∧
        (list settings target t request p s w).workspace.cache = w.cache
  /-- One row is taken, if there is one. -/
  one : ∀ stored, (mapper settings target t request s w).1 = .ok stored →
    (single settings target t request p s w).Gives view
      ((view s).pending.head?.elim (.ok none) fun cells =>
        (mapped stored.mapper.map (view s).columns cells).map some)
      { view s with current := (view s).pending.head?, pending := (view s).pending.tail }
  /-- All rows are taken, or those up to the first that fails to map. -/
  all : ∀ stored, (mapper settings target t request s w).1 = .ok stored →
    ∃ result current left,
      Stops stored.mapper.map (view s).columns (view s).pending result current left ∧
      (list settings target t request p s w).Gives view result
        { view s with current, pending := left }
  /-- It makes no difference how many rows are mapped one by one before the others. -/
  after : ∀ k, (listAfter settings target t request p k s w).Gives view
    (list settings target t request p s w).result
    (view (list settings target t request p s w).source)

end

/-! ## Lemmas -/

section
variable [DecidableEq ι] [RowSource σ] {settings : Settings} {target : ι}
  {t : Target (E target)} {request : Request} {s : σ} {w : Workspace E}

theorem withMapper_of_idle (h : RowSource.hasRows s = false) (default : α)
    (f : (Row → Reading (E target)) → σ → Except Error α × σ) :
    withMapper settings target t request default f s w =
      ⟨.ok default, RowSource.note [.hasRows] s, w⟩ := by
  simp only [withMapper, h, Bool.false_eq_true, if_false]

theorem withMapper_of_error {e : Error} (h : RowSource.hasRows s = true)
    (hm : (mapper settings target t request s w).1 = .error e) (default : α)
    (f : (Row → Reading (E target)) → σ → Except Error α × σ) :
    withMapper settings target t request default f s w =
      ⟨.error e, RowSource.note [.hasRows] s, (mapper settings target t request s w).2⟩ := by
  simp only [withMapper, h, if_true, mapper_note]
  revert hm
  rcases mapper settings target t request s w with ⟨result, w'⟩
  rintro rfl
  rfl

theorem withMapper_of_ok {stored : Stored (E target)} (h : RowSource.hasRows s = true)
    (hm : (mapper settings target t request s w).1 = .ok stored) (default : α)
    (f : (Row → Reading (E target)) → σ → Except Error α × σ) :
    withMapper settings target t request default f s w =
      ⟨(f stored.mapper.map (RowSource.note [.hasRows] s)).1,
        (f stored.mapper.map (RowSource.note [.hasRows] s)).2,
        (mapper settings target t request s w).2⟩ := by
  simp only [withMapper, h, if_true, mapper_note]
  revert hm
  rcases mapper settings target t request s w with ⟨result, w'⟩
  rintro rfl
  rfl

theorem listAfter_of_error {p : Pace} {k : Nat} {e : Error}
    (h : (single settings target t request p s w).result = .error e) :
    listAfter settings target t request p (k + 1) s w =
      ⟨.error e, (single settings target t request p s w).source,
        (single settings target t request p s w).workspace⟩ := by
  rw [listAfter]
  revert h
  rcases single settings target t request p s w with ⟨result, s', w'⟩
  rintro rfl
  rfl

theorem listAfter_of_ok {p : Pace} {k : Nat} {record : Option (E target)}
    (h : (single settings target t request p s w).result = .ok record) :
    let rest := listAfter settings target t request p k
      (single settings target t request p s w).source
      (single settings target t request p s w).workspace
    listAfter settings target t request p (k + 1) s w =
      { rest with result := rest.result.map (record.toList ++ ·) } := by
  rw [listAfter]
  revert h
  rcases single settings target t request p s w with ⟨result, s', w'⟩
  rintro rfl
  rfl

variable {targets : (i : ι) → Target (E i)}

/-- A mapper that is asked for is in the cache afterwards; one that cannot be built leaves no entry
behind. -/
theorem mapper_leaves (targets : (i : ι) → Target (E i)) (settings : Settings) (target : ι)
    (request : Request) (s : σ) (w : Workspace E) :
    (∃ e, (mapper settings target (targets target) request s w).1 = .error e ∧
      (mapper settings target (targets target) request s w).2.cache = w.cache) ∨
    ∃ stored, (mapper settings target (targets target) request s w).1 = .ok stored ∧
      (mapper settings target (targets target) request s w).2.cache.find?
        (.ofRequest (RowSource.resultIndex s) request settings) target = some stored := by
  let c : Call ι := ⟨settings, target, request, .all, .blocking, σ, s⟩
  have hmapper : mapper settings target (targets target) request s w =
      getOrBuild c.key c.target (c.build targets) w := rfl
  rw [hmapper]
  rcases c.getOrBuild_cases targets w with ⟨stored, hhit, heq⟩ | ⟨-, r, -, ⟨e, log, -, heq⟩ |
    ⟨m, log, -, heq⟩⟩
  · rw [heq]
    exact .inr ⟨stored, rfl, hhit⟩
  · rw [heq]
    exact .inl ⟨e, rfl, rfl⟩
  · rw [heq]
    exact .inr ⟨_, rfl, MapperCache.find?_store_self _ _ _ _⟩

/-- The mapper that a call was given is given again, wherever in the result set its source stands
by then. -/
theorem mapper_again {s' : σ} {stored : Stored (E target)}
    (hindex : RowSource.resultIndex s' = RowSource.resultIndex s)
    (h : (mapper settings target (targets target) request s w).1 = .ok stored) :
    (mapper settings target (targets target) request s'
      (mapper settings target (targets target) request s w).2).1 = .ok stored := by
  rcases mapper_leaves targets settings target request s w with ⟨e, he, -⟩ | ⟨found, hfound, hcache⟩
  · rw [h] at he
    cases he
  · rw [h, Except.ok.injEq] at hfound
    subst hfound
    rw [← hindex] at hcache
    exact congrArg Prod.fst (getOrBuild_of_hit hcache)

variable {p : Pace} {R : σ → MemoryRows → Prop} {m : MemoryRows} {stored : Stored (E target)}

/-- A call that maps one row takes it, and its mapper is there for the next call. -/
theorem single_of_mapper (hR : Simulates p R) (h : R s m)
    (hm : (mapper settings target (targets target) request s w).1 = .ok stored) :
    let x := single settings target (targets target) request p s w
    R x.source { m with current := m.pending.head?, pending := m.pending.tail } ∧
      x.result = m.pending.head?.elim (.ok none) (fun cells =>
        (mapped stored.mapper.map m.columns cells).map some) ∧
      (mapper settings target (targets target) request x.source x.workspace).1 = .ok stored := by
  intro x
  have hnoted := hR.note s m [.hasRows] h
  cases hrows : RowSource.hasRows s with
  | false =>
    have hx : x = ⟨.ok none, RowSource.note [.hasRows] s, w⟩ := withMapper_of_idle hrows _ _
    have hempty := hR.empty_of_hasRows h hrows
    obtain ⟨columns, pending, current, index⟩ := m
    obtain ⟨rfl, rfl⟩ := hempty
    -- the call did not ask for the mapper, so it is still to be had from the same workspace
    rw [hx]
    refine ⟨hnoted, rfl, ?_⟩
    rw [mapper_note]
    exact hm
  | true =>
    have hx : x = ⟨_, _, _⟩ := withMapper_of_ok hrows hm none (RowSource.mapNext p)
    obtain ⟨hsource, hresult⟩ := hR.mapNext hnoted stored.mapper.map
    rw [hx]
    refine ⟨hsource, hresult, mapper_again ?_ hm⟩
    exact (hR.resultIndex _ _ hsource).trans (hR.resultIndex _ _ h).symm

/-- Calls that map one row each and a call that maps the others take the rows up to the first that
fails to map. -/
theorem stops_listAfter (hR : Simulates p R) (h : R s m)
    (hm : (mapper settings target (targets target) request s w).1 = .ok stored) (k : Nat) :
    let x := listAfter settings target (targets target) request p k s w
    ∃ current left, R x.source { m with current, pending := left } ∧
      Stops stored.mapper.map m.columns m.pending x.result current left := by
  induction k generalizing s m w with
  | zero =>
    intro x
    have hnoted := hR.note s m [.hasRows] h
    cases hrows : RowSource.hasRows s with
    | false =>
      have hx : x = ⟨.ok [], RowSource.note [.hasRows] s, w⟩ := withMapper_of_idle hrows _ _
      have hempty := hR.empty_of_hasRows h hrows
      obtain ⟨columns, pending, current, index⟩ := m
      obtain ⟨rfl, rfl⟩ := hempty
      rw [hx]
      exact ⟨none, [], hnoted, .nil⟩
    | true =>
      have hx : x = ⟨_, _, _⟩ := withMapper_of_ok hrows hm [] (RowSource.mapAll p)
      rw [hx]
      exact hR.stops_mapAll hnoted stored.mapper.map
  | succ k ih =>
    intro x
    obtain ⟨hsource, hresult, hagain⟩ := single_of_mapper hR h hm
    obtain ⟨current', left, hrest, hstops⟩ := ih hsource hagain
    obtain ⟨columns, pending, current, index⟩ := m
    cases pending with
    | nil =>
      have hx : x = _ := listAfter_of_ok hresult
      rw [hx]
      refine ⟨current', left, hrest, ?_⟩
      -- there is no record to put in front
      rw [show ((none : Option (E target)).toList ++ ·) = id from rfl, Except.map_id]
      exact hstops
    | cons cells rest =>
      simp only [List.head?_cons, Option.elim_some] at hresult
      cases hr : mapped stored.mapper.map columns cells with
      | error e =>
        rw [hr] at hresult
        have hx : x = _ := listAfter_of_error hresult
        rw [hx]
        exact ⟨some cells, rest, hsource, .cons_error hr⟩
      | ok r =>
        rw [hr] at hresult
        have hx : x = _ := listAfter_of_ok hresult
        rw [hx]
        exact ⟨current', left, hrest, hstops.cons hr⟩

/-- Without rows calls give nothing, however many are made. -/
theorem listAfter_of_idle (hR : Simulates p R) (h : R s m) (hrows : RowSource.hasRows s = false)
    (k : Nat) :
    let x := listAfter settings target t request p k s w
    x.result = .ok [] ∧ R x.source m := by
  have hnoted := hR.note s m [.hasRows] h
  induction k generalizing s with
  | zero =>
    intro x
    have hx : x = ⟨.ok [], RowSource.note [.hasRows] s, w⟩ := withMapper_of_idle hrows _ _
    rw [hx]
    exact ⟨rfl, hnoted⟩
  | succ k ih =>
    intro x
    have hsingle : single settings target t request p s w =
        ⟨.ok none, RowSource.note [.hasRows] s, w⟩ := withMapper_of_idle hrows _ _
    have hrows' : RowSource.hasRows (RowSource.note [.hasRows] s) = false := by
      rw [hR.hasRows _ _ hnoted, ← hR.hasRows _ _ h]
      exact hrows
    have hx : x = _ := listAfter_of_ok (congrArg Outcome.result hsingle)
    obtain ⟨hresult, hsource⟩ := ih hnoted hrows' (hR.note _ _ _ hnoted)
    rw [hx, hsingle]
    refine ⟨?_, hsource⟩
    show Except.map _ (listAfter settings target t request p k _ w).result = _
    rw [hresult]
    rfl

/-- A mapper that cannot be built is not built for the calls that come later either. -/
theorem listAfter_of_unbuilt {e : Error} (hrows : RowSource.hasRows s = true)
    (hm : (mapper settings target t request s w).1 = .error e) (k : Nat) :
    listAfter settings target t request p k s w =
      ⟨.error e, RowSource.note [.hasRows] s, (mapper settings target t request s w).2⟩ := by
  have hsingle : single settings target t request p s w = ⟨.error e, _, _⟩ :=
    withMapper_of_error hrows hm _ _
  cases k with
  | zero => exact withMapper_of_error hrows hm _ _
  | succ k => rw [listAfter_of_error (congrArg Outcome.result hsingle), hsingle]

/-- What calls over a source that goes along with rows in memory give and take. -/
theorem consumes (hR : Simulates p R) {view : σ → MemoryRows} (hview : ∀ s m, R s m → view s = m)
    (h : R s m) (w : Workspace E) :
    Consumes settings target (targets target) request p view s w := by
  have hs : view s = m := hview s m h
  have hnoted : view (RowSource.note [.hasRows] s) = view s :=
    (hview _ _ (hR.note s m [.hasRows] h)).trans hs.symm
  constructor
  case idle =>
    intro hrows
    have hsingle : single settings target (targets target) request p s w =
        ⟨.ok none, RowSource.note [.hasRows] s, w⟩ := withMapper_of_idle hrows _ _
    have hlist : list settings target (targets target) request p s w =
        ⟨.ok [], RowSource.note [.hasRows] s, w⟩ := withMapper_of_idle hrows _ _
    rw [hsingle, hlist]
    exact ⟨⟨⟨rfl, hnoted⟩, rfl⟩, ⟨rfl, hnoted⟩, rfl⟩
  case unbuilt =>
    intro e hrows hm
    have hcache : (mapper settings target (targets target) request s w).2.cache = w.cache := by
      rcases mapper_leaves targets settings target request s w with ⟨-, -, hcache⟩ | ⟨_, hok, -⟩
      · exact hcache
      · rw [hm] at hok
        cases hok
    have hsingle : single settings target (targets target) request p s w = ⟨.error e, _, _⟩ :=
      withMapper_of_error hrows hm _ _
    have hlist : list settings target (targets target) request p s w = ⟨.error e, _, _⟩ :=
      withMapper_of_error hrows hm _ _
    rw [hsingle, hlist]
    exact ⟨⟨⟨rfl, hnoted⟩, hcache⟩, ⟨rfl, hnoted⟩, hcache⟩
  case one =>
    intro stored hm
    obtain ⟨hsource, hresult, -⟩ := single_of_mapper hR h hm
    rw [hs]
    exact ⟨hresult, hview _ _ hsource⟩
  case all =>
    intro stored hm
    obtain ⟨current, left, hsource, hstops⟩ := stops_listAfter hR h hm 0
    rw [hs]
    exact ⟨_, current, left, hstops, rfl, hview _ _ hsource⟩
  case after =>
    intro k
    cases hrows : RowSource.hasRows s with
    | false =>
      obtain ⟨hresult, hsource⟩ := listAfter_of_idle (w := w) hR h hrows k
      obtain ⟨hresult₀, hsource₀⟩ := listAfter_of_idle (w := w) hR h hrows 0
      exact ⟨hresult.trans hresult₀.symm, (hview _ _ hsource).trans (hview _ _ hsource₀).symm⟩
    | true =>
      cases hm : (mapper settings target (targets target) request s w).1 with
      | error e =>
        have hlist : list settings target (targets target) request p s w = ⟨.error e, _, _⟩ :=
          withMapper_of_error hrows hm _ _
        rw [listAfter_of_unbuilt hrows hm k, hlist]
        exact ⟨rfl, rfl⟩
      | ok stored =>
        obtain ⟨current, left, hsource, hstops⟩ := stops_listAfter hR h hm k
        obtain ⟨current₀, left₀, hsource₀, hstops₀⟩ := stops_listAfter hR h hm 0
        obtain ⟨hresult, rfl, rfl⟩ := hstops.unique hstops₀
        exact ⟨hresult, (hview _ _ hsource).trans (hview _ _ hsource₀).symm⟩

end

end Workspace

/-! ## Top theorems -/

/-- What calls over rows in memory, at either pace, and over an awaited stream of rows give and
take, wherever the source stands. -/
theorem calls_take_rows [DecidableEq ι] (targets : (i : ι) → Target (E i)) (settings : Settings)
    (target : ι) (request : Request) (w : Workspace E) :
    (∀ p (m : MemoryRows),
      Workspace.Consumes settings target (targets target) request p id m w) ∧
    ∀ (columns : List Column) (rows : List (List Value)), ∃ stream,
      StreamRows.openOn columns (rows.map .ok) = .ok stream ∧
      ∀ index calls, Workspace.Consumes settings target (targets target) request .awaiting
        StreamRows.settled (StreamCall.after calls { stream with resultIndex := index }) w := by
  constructor
  · intro p m
    exact Workspace.consumes (MemoryRows.simulates p) (fun _ _ => id) rfl w
  · intro columns rows
    obtain ⟨stream, hopen, -⟩ := StreamRows.exists_presents_openOn columns rows 0
    refine ⟨stream, hopen, fun index calls => ?_⟩
    exact Workspace.consumes StreamRows.simulates (fun _ _ h => h.settled)
      (StreamRows.settles_after hopen index calls) w

/-- Lamps, which are on or off; the other kind of lamp cannot be made. -/
def lampTarget (makes : Bool) : Target Value where
  name := "Lamp"
  fields := .ofList [{ name := "on", kind := .bool, setter := some fun v _ => (.ok (), v) }]
  blank := if makes then some .null else none

def lampColumns : List Column := Column.number [("on", .text)]

/-- The second row does not tell whether the lamp is on. -/
def lampRows : List (List Value) := [[.text "true"], [.text "maybe"], [.text "false"]]

def lampRequest : Request := { statement := .sql "select on" }

/-- Rows in memory and a stream are left behind the row that fails to map, with one row to come;
rows for lamps that cannot be made are not touched. -/
theorem calls_take_lampRows :
    let m := MemoryRows.ofRows lampColumns lampRows
    let w : Workspace fun _ : Bool => Value := {}
    let unread : MemoryRows := ⟨lampColumns, [[.text "false"]], some [.text "maybe"], 0⟩
    let refused : Error :=
      (Error.conversion (.text "maybe") "bool").context (.of (.readingColumn "on" "on"))
    (Workspace.single {} true (lampTarget true) lampRequest .blocking m w).Gives id
        (.ok (some (.bool true))) ⟨lampColumns, lampRows.tail, lampRows.head?, 0⟩ ∧
      (Workspace.list {} true (lampTarget true) lampRequest .blocking m w).Gives id
        (.error refused) unread ∧
      (∃ stream, StreamRows.openOn lampColumns (lampRows.map .ok) = .ok stream ∧
        (Workspace.list {} true (lampTarget true) lampRequest .awaiting stream w).Gives
          StreamRows.settled (.error refused) unread) ∧
      (Workspace.list {} false (lampTarget false) lampRequest .blocking m w).Gives id
        (.error (.of (.noUsableConstructor "Lamp"))) m ∧
      (Workspace.list {} false (lampTarget false) lampRequest .blocking m w).workspace.cache =
        w.cache := by
  intro m w unread refused
  obtain ⟨hmemory, hstream⟩ :=
    calls_take_rows (E := fun _ : Bool => Value) lampTarget {} true lampRequest w
  have hunbuilt :=
    (calls_take_rows (E := fun _ : Bool => Value) lampTarget {} false lampRequest w).1 .blocking m
  refine ⟨(hmemory .blocking m).one _ rfl, ?_, ?_, (hunbuilt.unbuilt _ rfl rfl).2⟩
  · obtain ⟨result, current, left, hstops, hgives⟩ := (hmemory .blocking m).all _ rfl
    obtain ⟨rfl, rfl, rfl⟩ := hstops.unique (.cons rfl (.cons_error rfl))
    exact hgives
  · obtain ⟨stream, hopen, hcalls⟩ := hstream lampColumns lampRows
    cases hopen
    obtain ⟨result, current, left, hstops, hgives⟩ := (hcalls 0 []).all _ rfl
    obtain ⟨rfl, rfl, rfl⟩ := hstops.unique (.cons rfl (.cons_error rfl))
    exact ⟨_, rfl, hgives⟩

end Hydration
