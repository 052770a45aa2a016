import Hydration.Proofs.Handlers
import Hydration.Proofs.Mapper.Construction
import Hydration.Source.Memory

/-!
# Ignoring nulls

A mapper that ignores nulls asks of every field's cell whether it is empty before it reads it.
What comes of it is what the plan gives without the bindings of those fields:

    ignoring.map row and the map of p.withoutNulls row give the same    (IgnoresNulls.deletes)
    (applyAll true ws row record).result
      = (applyAll false (ws.filter fun w => ¬w.binding.ReadsNull row) row record).result
                                                                 (Writer.result_applyAll_filter)

Only a cell that reads as null is empty.  A cell that is not there is read, and reading it fails;
arguments are read in any case.
-/

namespace Hydration

open Traversal

variable {ρ : Type}

/-! ## Algorithm -/

/-- Why the cell at an index of a row is not there. -/
inductive Row.Lacks (row : Row) (index : Nat) : Unreadable → Prop
  | notAdvanced (h : row.cells = none) : Lacks row index .notAdvanced
  | outOfRange {cells : List Value} (h : row.cells = some cells) (hi : cells.length ≤ index) :
    Lacks row index (.columnOutOfRange index cells.length)

/-- The coercion reads the cell itself, by no handler but that of an enumeration. -/
inductive Coercion.Bare : Coercion → Prop
  | directRead : Bare .directRead
  | nullableUnwrap : Bare .nullableUnwrap
  | enum {e : Enumeration} : Bare (.enum (.ofEnumeration e))
  | object : Bare .object

/-- The binding's cell is read as null. -/
def Binding.ReadsNull (row : Row) (b : Binding) : Prop :=
  (row.read b.column.index b.kind).result = .ok .null

instance (row : Row) : DecidablePred (Binding.ReadsNull row) := fun b =>
  decidable_of_iff (row.isNull b.column.index = true) Row.isNull_iff

/-- The error of a cell that is not there, when it is read for the binding. -/
def Binding.missing (b : Binding) (reason : Unreadable) : Error :=
  (Error.unreadable reason).context (.of (.readingColumn b.column.name b.name))

namespace Plan

/-- The plan without the field bindings that read null. -/
def withoutNulls (row : Row) (p : Plan) : Plan :=
  { p with fields := p.fields.filter fun b => ¬b.ReadsNull row }

/-- `ignoring` and `keeping` are mappers of the plan, and `ignoring` ignores the nulls of a row. -/
structure IgnoresNulls (p : Plan) (t : Target ρ) (key : CacheKey) (tracking : Bool)
    (ignoring keeping : Mapper ρ) (row : Row) : Prop where
  /-- To ignore nulls is to have no bindings for them. -/
  deletes : ∃ mapper events,
    (p.withoutNulls row).synthesize key t ⟨false⟩ tracking = .ok (mapper, events) ∧
      (ignoring.map row).result = (mapper.map row).result
  /-- Without nulls there is nothing to ignore. -/
  agrees : (∀ b ∈ p.fields, ¬b.ReadsNull row) →
    (ignoring.map row).result = (keeping.map row).result
  /-- A constructor is called with the values of all arguments. -/
  constructs : ∀ i c, p.construction = .constructor i → t.constructors[i]? = some c →
    ∃ ws, p.fields.map (writer t) = ws.map .ok ∧
      (ignoring.map row).result = ((p.argumentValues row).bind c.build).bind fun record =>
        (Writer.applyAll true ws row record).result.map ((hookFor key t tracking).getD id)
  /-- An argument that reads null is given null, or the default of its kind. -/
  arguments : ∀ values, p.argumentValues row = .ok values → ∀ (j : Nat) (b : Binding),
    p.arguments[j]? = some b → b.ReadsNull row → b.coercion.Bare →
      values[j]? = some (Coercion.fill b.kind b.nullable .null)
  /-- The binding of a cell that is not there is kept. -/
  kept : ∀ b ∈ p.fields, ∀ reason, row.Lacks b.column.index reason →
    b ∈ (p.withoutNulls row).fields
  /-- When nothing before it fails, the binding of a cell that is not there does. -/
  fails : ∀ before b after reason, p.fields = before ++ b :: after →
    row.Lacks b.column.index reason → b.coercion.Bare → ∃ mapper events,
      Plan.synthesize { p with fields := before } key t ⟨true⟩ tracking = .ok (mapper, events) ∧
        (ignoring.map row).result = (mapper.map row).result.bind fun _ => .error (b.missing reason)

end Plan

/-! ## Lemmas -/

section
variable {row : Row} {i : Nat} {reason : Unreadable}

theorem Row.lacks_iff : row.Lacks i reason ↔ row.cell i = .error (.unreadable reason) := by
  constructor
  · rintro (h | ⟨h, hi⟩)
    · simp only [cell, h]
    · simp only [cell, h, List.getElem?_eq_none hi]
  · intro h
    unfold cell at h
    split at h
    · rename_i hcells
      cases h
      exact .notAdvanced hcells
    · rename_i cells hcells
      split at h
      · cases h
      · rename_i hget
        cases h
        exact .outOfRange hcells (List.getElem?_eq_none_iff.1 hget)

/-- A bare coercion makes its value from the cell, and null from null. -/
theorem Coercion.Bare.exists_read {c : Coercion} (hc : c.Bare) (slot : Kind) (nullable : Bool) :
    ∃ use : Value → Except Error Value, use .null = .ok (fill slot nullable .null) ∧
      ∀ row i, (c.read row i slot nullable).result = (row.cell i).bind use := by
  cases hc with
  | directRead => exact ⟨_, rfl, fun row i => Reading.result_bind _ _⟩
  | nullableUnwrap => exact ⟨_, rfl, fun row i => Reading.result_bind _ _⟩
  | @enum e =>
    refine ⟨fun v => (e.convert v).bind fun v => .ok (fill slot nullable v), rfl, fun row i => ?_⟩
    rw [Coercion.read, Reading.result_bind, Handler.result_ofEnumeration]
    cases row.cell i <;> rfl
  | object => exact ⟨_, by rfl, fun row i => Reading.result_bind _ _⟩

variable {b : Binding} {w : Writer ρ} {record : ρ}

theorem Binding.result_read_of_lacks (h : row.Lacks b.column.index reason)
    (hb : b.coercion.Bare) : (b.read row).result = .error (b.missing reason) := by
  obtain ⟨use, -, hread⟩ := hb.exists_read b.kind b.nullable
  rw [Binding.result_read, hread, Row.lacks_iff.1 h]
  rfl

theorem Binding.result_read_of_null (h : b.ReadsNull row) (hb : b.coercion.Bare) :
    (b.read row).result = .ok (Coercion.fill b.kind b.nullable .null) := by
  obtain ⟨use, hnull, hread⟩ := hb.exists_read b.kind b.nullable
  have hcell : row.cell b.column.index = .ok .null := h
  rw [Binding.result_read, hread, hcell]
  show Except.mapError _ (use .null) = _
  rw [hnull]
  rfl

/-- A cell that is not there is not empty. -/
theorem Binding.not_readsNull_of_lacks (h : row.Lacks b.column.index reason) :
    ¬b.ReadsNull row := by
  intro hnull
  have hcell : row.cell b.column.index = .ok .null := hnull
  rw [Row.lacks_iff.1 h] at hcell
  cases hcell

namespace Writer

/-- The probe for an empty cell tells what reading the cell gives. -/
theorem result_apply_of_null (h : w.binding.ReadsNull row) :
    (w.apply true row record).result = .ok record := by
  have hnull : row.isNull w.binding.column.index = true := Row.isNull_iff.2 h
  rw [apply, if_pos rfl, Reading.result_bind, Row.askNull, hnull]
  rfl

theorem result_apply_of_not_null (h : ¬w.binding.ReadsNull row) :
    (w.apply true row record).result = (w.write row record).result := by
  have hnull : row.isNull w.binding.column.index = false :=
    Bool.eq_false_iff.2 fun hn => h (Row.isNull_iff.1 hn)
  rw [apply, if_pos rfl, Reading.result_bind, Row.askNull, hnull]
  rfl

/-- Writers that ignore nulls do what those of other cells do. -/
theorem result_applyAll_filter (ws : List (Writer ρ)) (row : Row) (record : ρ) :
    (applyAll true ws row record).result =
      (applyAll false (ws.filter fun w => ¬w.binding.ReadsNull row) row record).result := by
  induction ws generalizing record with
  | nil => rfl
  | cons w rest ih =>
    rw [applyAll, Reading.result_bind]
    by_cases h : w.binding.ReadsNull row
    · rw [List.filter_cons_of_neg (by simpa using h), result_apply_of_null h]
      exact ih record
    · rw [List.filter_cons_of_pos (by simpa using h), result_apply_of_not_null h, applyAll,
        Reading.result_bind]
      exact congrArg _ (funext ih)

theorem result_applyAll_append (ignoreNull : Bool) (ws ws' : List (Writer ρ)) (row : Row)
    (record : ρ) :
    (applyAll ignoreNull (ws ++ ws') row record).result =
      (applyAll ignoreNull ws row record).result.bind fun record =>
        (applyAll ignoreNull ws' row record).result := by
  induction ws generalizing record with
  | nil => rfl
  | cons w rest ih =>
    rw [List.cons_append, applyAll, applyAll, Reading.result_bind, Reading.result_bind]
    cases (w.apply ignoreNull row record).result with
    | error e => rfl
    | ok x => exact ih x

end Writer

end

namespace Plan

variable {t : Target ρ} {p : Plan} {key : CacheKey} {tracking : Bool} {creation : Creation ρ}
  {ws : List (Writer ρ)}

/-- The writers that are left are those of the bindings that are left. -/
theorem writers_withoutNulls (hw : p.fields.map (writer t) = ws.map .ok) (row : Row) :
    writers t (p.withoutNulls row).fields =
      .ok (ws.filter fun w => ¬w.binding.ReadsNull row) := by
  rw [writers_eq_mapM, mapM_eq_ok_iff]
  refine filter_map_ok hw fun b w hbw => ?_
  rw [binding_of_writer hbw]

/-- A binding of an argument that reads null gives its slot's null. -/
theorem argumentValues_of_null {row : Row} {values : List Value}
    (h : p.argumentValues row = .ok values) {j : Nat} {b : Binding} (hb : p.arguments[j]? = some b)
    (hnull : b.ReadsNull row) (hbare : b.coercion.Bare) :
    values[j]? = some (Coercion.fill b.kind b.nullable .null) := by
  have hread := congrArg (fun xs => xs[j]?) (mapM_eq_ok_iff.1 h)
  simp only [List.getElem?_map, hb, Option.map_some,
    Binding.result_read_of_null hnull hbare] at hread
  obtain ⟨v, hv, he⟩ := Option.map_eq_some_iff.1 hread.symm
  rw [hv, Except.ok.inj he]

/-- What is known of the mappers of a plan whose construction and whose fields were found. -/
theorem ignoresNulls_of (hc : p.creation t = .ok creation)
    (hw : p.fields.map (writer t) = ws.map .ok) (row : Row) :
    p.IgnoresNulls t key tracking ⟨key, Recipe.map ⟨creation, ws, true, hookFor key t tracking⟩⟩
      ⟨key, Recipe.map ⟨creation, ws, false, hookFor key t tracking⟩⟩ row where
  deletes := by
    obtain ⟨events, hmapper⟩ := synthesize_of (p := p.withoutNulls row) key ⟨false⟩ tracking hc
      (writers_withoutNulls hw row)
    refine ⟨_, events, hmapper, ?_⟩
    simp only [Recipe.result_steps, Writer.result_applyAll_filter ws]
  agrees := by
    intro hnone
    have hall : (ws.filter fun w => ¬w.binding.ReadsNull row) = ws := by
      refine List.filter_eq_self.2 fun w hwmem => decide_eq_true ?_
      obtain ⟨b, hb, hbw⟩ := exists_of_mem_of_map_ok hw hwmem
      rw [binding_of_writer hbw]
      exact hnone b hb
    simp only [Recipe.result_steps, Writer.result_applyAll_filter ws, hall]
  constructs := by
    intro i c hcon hfound
    simp only [Plan.creation, hcon, hfound, Except.ok.injEq] at hc
    subst hc
    refine ⟨ws, hw, ?_⟩
    rw [Recipe.result_steps, result_create_construct]
  arguments := fun values h j b hb hnull hbare => argumentValues_of_null h hb hnull hbare
  kept := by
    intro b hb reason hlacks
    exact List.mem_filter.2 ⟨hb, decide_eq_true (Binding.not_readsNull_of_lacks hlacks)⟩
  fails := by
    intro before b after reason hsplit hlacks hbare
    rw [hsplit, List.map_append, List.map_cons] at hw
    obtain ⟨ws₁, rest, rfl, hws₁, hrest⟩ := List.map_eq_append_iff.1 hw.symm
    obtain ⟨w, ws₂, rfl, hbw, -⟩ := List.map_eq_cons_iff.1 hrest
    have hbinding : w.binding = b := binding_of_writer hbw.symm
    have hbefore : writers t before = .ok ws₁ := by
      rw [writers_eq_mapM, mapM_eq_ok_iff]
      exact hws₁.symm
    obtain ⟨events, hmapper⟩ := synthesize_of (p := { p with fields := before }) key ⟨true⟩
      tracking hc hbefore
    refine ⟨_, events, hmapper, ?_⟩
    -- whatever the record is by then, the writer of `b` reads its cell and fails
    have hfails : ∀ record, (Writer.applyAll true (w :: ws₂) row record).result =
        .error (b.missing reason) := by
      intro record
      subst hbinding
      rw [Writer.applyAll, Reading.result_bind, Writer.result_apply_of_not_null
        (Binding.not_readsNull_of_lacks hlacks), Writer.write, Reading.result_bind,
        Binding.result_read_of_lacks hlacks hbare]
      rfl
    simp only [Recipe.result_steps, Writer.result_applyAll_append, hfails]
    cases (creation.create row).result with
    | error e => rfl
    | ok start =>
      show Except.map _ (Except.bind (Writer.applyAll true ws₁ row start).result _) =
        Except.bind (Except.map _ (Writer.applyAll true ws₁ row start).result) _
      cases (Writer.applyAll true ws₁ row start).result <;> rfl

end Plan

/-! ## Top theorems -/

/-- Wherever a source stands, to ignore nulls is to map its row by the plan without the field
bindings that read null. -/
theorem ignoring_nulls_deletes_bindings (t : Target ρ) (p : Plan) (key : CacheKey)
    (settings : Settings) (tracking : Bool) (x : Mapper ρ × List Event)
    (h : p.synthesize key t settings tracking = .ok x) :
    ∃ ignoring keeping : Mapper ρ, ∃ events events',
      p.synthesize key t ⟨true⟩ tracking = .ok (ignoring, events) ∧
      p.synthesize key t ⟨false⟩ tracking = .ok (keeping, events') ∧
      ∀ (σ : Type) [RowSource σ] (s : σ),
        p.IgnoresNulls t key tracking ignoring keeping (RowSource.row s) := by
  obtain ⟨creation, ws, hc, hw⟩ := Plan.exists_of_synthesize h
  obtain ⟨events, hignoring⟩ := Plan.synthesize_of key ⟨true⟩ tracking hc hw
  obtain ⟨events', hkeeping⟩ := Plan.synthesize_of key ⟨false⟩ tracking hc hw
  rw [Plan.writers_eq_mapM, mapM_eq_ok_iff] at hw
  exact ⟨_, _, events, events', hignoring, hkeeping,
    fun σ _ s => Plan.ignoresNulls_of hc hw (RowSource.row s)⟩

/-- Tickets: made from a code that may be empty, then given a seat and a note. -/
def ticketTarget : Target Value where
  name := "Ticket"
  fields := .ofList [{ name := "seat", kind := .text, setter := some fun v _ => (.ok (), v) },
    { name := "note", kind := .bytes, setter := some fun _ record => (.ok (), record) }]
  constructors := [⟨[.text], fun values => .ok (values.headD (.text "no code"))⟩]

def ticketSeat : Binding :=
  ⟨.field 0, "seat", ⟨1, "seat", .text⟩, .text, false, .directRead⟩

def ticketNote : Binding :=
  ⟨.field 1, "note", ⟨2, "note", .bytes⟩, .bytes, false, .directRead⟩

def ticketPlan : Plan where
  construction := .constructor 0
  arguments := [⟨.argument 0, "code", ⟨0, "code", .text⟩, .text, true, .nullableUnwrap⟩]
  fields := [ticketSeat, ticketNote]
  unmatched := []

def ticketKey : CacheKey := ⟨"Index:0_tickets", true, false⟩

/-- A source that stands on a row that is too short for the note. -/
def ticketRows : MemoryRows where
  columns := Column.number [("code", .text), ("seat", .text), ("note", .bytes)]
  pending := []
  current := some [.null, .null]

/-- The empty code is passed on, the empty seat is skipped, and the note is missed. -/
theorem ignoring_nulls_ticketRows :
    ∃ x, ticketPlan.synthesize ticketKey ticketTarget {} false = .ok x ∧
      ∃ ignoring events,
        ticketPlan.synthesize ticketKey ticketTarget ⟨true⟩ false = .ok (ignoring, events) ∧
        (∃ mapper events',
          Plan.synthesize { ticketPlan with fields := [ticketSeat] } ticketKey ticketTarget ⟨true⟩
            false = .ok (mapper, events') ∧ (mapper.map ticketRows.row).result = .ok .null) ∧
        (ignoring.map ticketRows.row).result =
          .error (ticketNote.missing (.columnOutOfRange 2 2)) := by
  refine ⟨_, rfl, ?_⟩
  obtain ⟨ignoring, keeping, events, events', hignoring, -, hrows⟩ :=
    ignoring_nulls_deletes_bindings ticketTarget ticketPlan ticketKey {} false _ rfl
  have hlacks : ticketRows.row.Lacks ticketNote.column.index (.columnOutOfRange 2 2) :=
    .outOfRange (show ticketRows.row.cells = some [.null, .null] from rfl) (by decide)
  obtain ⟨mapper, events'', hmapper, hresult⟩ := (hrows MemoryRows ticketRows).fails [ticketSeat]
    ticketNote [] (.columnOutOfRange 2 2) rfl hlacks .directRead
  have hseat : (Plan.synthesize { ticketPlan with fields := [ticketSeat] } ticketKey ticketTarget
      ⟨true⟩ false).bind (fun x => (x.1.map ticketRows.row).result) = .ok .null := rfl
  rw [hmapper] at hseat
  have hseat : (mapper.map ticketRows.row).result = .ok .null := hseat
  refine ⟨ignoring, events, hignoring, ⟨mapper, events'', hmapper, hseat⟩, ?_⟩
  have hresult : (ignoring.map ticketRows.row).result = (mapper.map ticketRows.row).result.bind _ :=
    hresult
  rw [hresult, hseat]
  rfl

end Hydration
