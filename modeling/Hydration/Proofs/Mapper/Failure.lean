import Hydration.Proofs.Mapper.Contents

/-!
# Where mapping a row fails

Mapping a row is a sequence of steps: every argument is read, the constructor builds the record,
and then every field that is not skipped is read and written.  The first step that fails ends it.
What failed is told by the step's own error with one layer around it, which names the column and
the field; only an error of the constructor is passed on as it is.

    p.FailsAt t ignoreNull row step e trail     `step` fails with `e`, all steps before it succeed,
                                                and `trail` is what they and it looked at
    w.apply looks at w.binding.looks ignoreNull row, whatever comes of it         (trail_apply)
    recipe.map row = ⟨trail, .error err⟩
      ↔ ∃ step e, p.FailsAt t ignoreNull row step e trail ∧ err = step.report e
                                                               (IsPlan.map_eq_error_iff)

Turning tracking on is behind all of these steps, so no hook is run for a row that fails.
-/

namespace Hydration

open Traversal

variable {ρ : Type}

/-! ## Algorithm -/

/-- A step of mapping a row that can fail. -/
inductive Step where
  /-- The column of an argument or of a field is read. -/
  | read (b : Binding)
  /-- The constructor builds the record. -/
  | build
  /-- A field is written. -/
  | write (b : Binding)

namespace Step

/-- What is put around the error of a step. -/
def layer : Step → Option Fault
  | read b => some (.readingColumn b.column.name b.name)
  | build => none
  | write b => some (.settingField b.name b.column.name)

/-- The error of a step as a mapper reports it. -/
def report (s : Step) (e : Error) : Error :=
  match s.layer with
  | some c => e.context (.of c)
  | none => e

/-- `err` is the error `e` with the layer of the step around it, and with nothing else. -/
structure Reports (s : Step) (e err : Error) : Prop where
  chain : err.chain = s.layer.toList ++ e.chain
  root : err.root = e.root
  message : ∀ c, s.layer = some c → err.message = c.message ++ ": " ++ e.message

end Step

namespace Binding

/-- What the coercion reads, with no layer around its error. -/
def fetch (b : Binding) (row : Row) : Reading Value :=
  b.coercion.read row b.column.index b.kind b.nullable

/-- What is looked at for a field: the cell is probed when nulls are ignored, and it is read unless
it is skipped. -/
def looks (ignoreNull : Bool) (row : Row) (b : Binding) : List Access :=
  (if ignoreNull then [.isNull b.column.index] else []) ++
    if ignoreNull && row.isNull b.column.index then [] else (b.fetch row).trail

/-- `setter` writes the field that the binding feeds. -/
def WrittenBy (t : Target ρ) (b : Binding) (setter : Setter ρ) : Prop :=
  ∃ i f, b.destination = .field i ∧ t.field? i = some f ∧ f.setter = some setter

/-- From a record the binding makes another: it skips its field, or reads and writes it. -/
inductive Stores (t : Target ρ) (ignoreNull : Bool) (row : Row) (b : Binding) : ρ → ρ → Prop
  | skipped {record : ρ} (h : b.Skips ignoreNull row) : Stores t ignoreNull row b record record
  | written {record x : ρ} {setter : Setter ρ} {v : Value} (kept : ¬b.Skips ignoreNull row)
      (reads : (b.fetch row).result = .ok v) (field : b.WrittenBy t setter)
      (writes : setter v record = (.ok (), x)) : Stores t ignoreNull row b record x

/-- The binding does not skip its field, and it fails to read or to write it. -/
inductive Breaks (t : Target ρ) (ignoreNull : Bool) (row : Row) (b : Binding) (record : ρ) :
    Step → Error → Prop
  | read {e : Error} (kept : ¬b.Skips ignoreNull row) (fails : (b.fetch row).result = .error e) :
      Breaks t ignoreNull row b record (.read b) e
  | write {setter : Setter ρ} {v : Value} {e : Error} (kept : ¬b.Skips ignoreNull row)
      (reads : (b.fetch row).result = .ok v) (field : b.WrittenBy t setter)
      (fails : (setter v record).1 = .error e) : Breaks t ignoreNull row b record (.write b) e

/-- Bindings store into a record one after the other. -/
inductive StoreAll (t : Target ρ) (ignoreNull : Bool) (row : Row) : List Binding → ρ → ρ → Prop
  | nil {record : ρ} : StoreAll t ignoreNull row [] record record
  | cons {b : Binding} {rest : List Binding} {record x y : ρ}
      (first : b.Stores t ignoreNull row record x) (others : StoreAll t ignoreNull row rest x y) :
      StoreAll t ignoreNull row (b :: rest) record y

end Binding

namespace Plan

/-- The plan makes the record of a row, before it feeds any field. -/
inductive Makes (p : Plan) (t : Target ρ) (row : Row) : ρ → Prop
  | blank {record : ρ} (construction : p.construction = .blank) (found : t.blank = some record) :
      Makes p t row record
  | constructor {i : Nat} {c : Constructor ρ} {values : List Value} {record : ρ}
      (construction : p.construction = .constructor i) (found : t.constructors[i]? = some c)
      (reads : p.arguments.map (fun b => (b.fetch row).result) = values.map .ok)
      (builds : c.build values = .ok record) : Makes p t row record

/-- The first step that fails, its own error, and what was looked at by then. -/
inductive FailsAt (p : Plan) (t : Target ρ) (ignoreNull : Bool) (row : Row) :
    Step → Error → List Access → Prop
  /-- An argument cannot be read, and those before it can. -/
  | argument {before after : List Binding} {b : Binding} {e : Error}
      (order : p.arguments = before ++ b :: after)
      (reads : ∀ a ∈ before, ∃ v, (a.fetch row).result = .ok v)
      (fails : (b.fetch row).result = .error e) :
      FailsAt p t ignoreNull row (.read b) e
        ((before ++ [b]).flatMap fun a => (a.fetch row).trail)
  /-- All arguments are read, and the constructor refuses them. -/
  | build {i : Nat} {c : Constructor ρ} {values : List Value} {e : Error}
      (construction : p.construction = .constructor i) (found : t.constructors[i]? = some c)
      (reads : p.arguments.map (fun b => (b.fetch row).result) = values.map .ok)
      (fails : c.build values = .error e) :
      FailsAt p t ignoreNull row .build e (p.arguments.flatMap fun a => (a.fetch row).trail)
  /-- The record is made, and the fields before one are stored, which cannot be read or written. -/
  | field {start record : ρ} {before after : List Binding} {b : Binding} {step : Step} {e : Error}
      (makes : p.Makes t row start) (order : p.fields = before ++ b :: after)
      (stores : Binding.StoreAll t ignoreNull row before start record)
      (breaks : b.Breaks t ignoreNull row record step e) :
      FailsAt p t ignoreNull row step e
        ((p.arguments.flatMap fun a => (a.fetch row).trail) ++
          (before ++ [b]).flatMap (Binding.looks ignoreNull row))

/-- How a mapper of the plan fails on a row. -/
structure Blames (p : Plan) (t : Target ρ) (key : CacheKey) (settings : Settings)
    (mapper : Mapper ρ) (row : Row) : Prop where
  /-- It fails when a step does, for the first that does and having looked at nothing behind it. -/
  fails : ∀ trail err, mapper.map row = ⟨trail, .error err⟩ ↔
    ∃ step e, p.FailsAt t settings.ignoreNull row step e trail ∧ step.Reports e err
  /-- No hook is run: with any other hook and with none the same comes of the row. -/
  unhooked : ∀ err, (mapper.map row).result = .error err → ∀ hook tracking,
    ∃ mapper' events, p.synthesize key (t.withTracking hook) settings tracking =
      .ok (mapper', events) ∧ mapper'.map row = mapper.map row

end Plan

/-! ## Lemmas -/

namespace Reading

variable {α β : Type} {x : Reading α} {l : List Access} {err : Error}

/-- A reading that failed is its error and its trail. -/
theorem eq_error_iff : x = ⟨l, .error err⟩ ↔ x.result = .error err ∧ l = x.trail := by
  constructor
  · rintro rfl
    exact ⟨rfl, rfl⟩
  · rintro ⟨hresult, rfl⟩
    exact Reading.ext rfl hresult

/-- A chain of readings fails in its first part, or in what follows it. -/
theorem bind_eq_error_iff {f : α → Reading β} :
    x.bind f = ⟨l, .error err⟩ ↔ x = ⟨l, .error err⟩ ∨
      ∃ a l', x.result = .ok a ∧ f a = ⟨l', .error err⟩ ∧ l = x.trail ++ l' := by
  obtain ⟨trail, result⟩ := x
  cases result with
  | error e => simp [bind]
  | ok a =>
    simp only [bind, Reading.mk.injEq, reduceCtorEq, and_false, false_or, Except.ok.injEq,
      exists_and_left, exists_eq_left']
    constructor
    · rintro ⟨rfl, h⟩
      exact ⟨(f a).trail, Reading.ext rfl h, rfl⟩
    · rintro ⟨l', h, rfl⟩
      rw [h]
      exact ⟨rfl, rfl⟩

/-- What is only worked out from a reading fails when the reading does. -/
theorem bind_ok_eq_error_iff {g : α → β} :
    (x.bind fun a => .ofResult (.ok (g a))) = ⟨l, .error err⟩ ↔ x = ⟨l, .error err⟩ := by
  rw [bind_eq_error_iff]
  refine or_iff_left ?_
  rintro ⟨a, l', -, h, -⟩
  cases h

end Reading

namespace Step

theorem reports_report (s : Step) (e : Error) : s.Reports e (s.report e) := by
  unfold report
  cases hs : s.layer with
  | none => exact ⟨by rw [hs]; rfl, rfl, fun c hc => by rw [hs] at hc; cases hc⟩
  | some c =>
    refine ⟨by rw [hs]; rfl, Error.root_context _ _, fun d hd => ?_⟩
    rw [hs, Option.some.injEq] at hd
    rw [← hd]
    exact Error.message_context _ _

theorem reports_iff {s : Step} {e err : Error} : s.Reports e err ↔ err = s.report e := by
  constructor
  · intro h
    have hchain := h.chain.trans (s.reports_report e).chain.symm
    obtain ⟨houter, hcauses⟩ := List.cons.inj hchain
    calc err = ⟨err.outer, err.causes⟩ := rfl
      _ = ⟨(s.report e).outer, (s.report e).causes⟩ := by rw [houter, hcauses]
      _ = s.report e := rfl
  · rintro rfl
    exact s.reports_report e

end Step

section
variable {row : Row} {ignoreNull : Bool} {l : List Access} {e err : Error} {v : Value}
  {values : List Value} {record x y start : ρ}

/-! ### Arguments -/

theorem Binding.result_read_eq_ok_iff {b : Binding} :
    (b.read row).result = .ok v ↔ (b.fetch row).result = .ok v :=
  Reading.result_within_eq_ok_iff

theorem Binding.result_read_eq_error_iff {b : Binding} :
    (b.read row).result = .error err ↔
      ∃ e, (b.fetch row).result = .error e ∧ err = (Step.read b).report e := by
  have hread : (b.read row).result = (b.fetch row).result.mapError (Step.read b).report := rfl
  rw [hread]
  cases (b.fetch row).result with
  | ok v => simp [Except.mapError]
  | error e =>
    constructor
    · intro h
      exact ⟨e, rfl, (Except.error.inj h).symm⟩
    · rintro ⟨e', he, rfl⟩
      cases he
      rfl

theorem Binding.read_eq_error_iff {b : Binding} :
    b.read row = ⟨l, .error err⟩ ↔ (∃ e, (b.fetch row).result = .error e ∧
      err = (Step.read b).report e) ∧ l = (b.fetch row).trail := by
  rw [Reading.eq_error_iff, Binding.result_read_eq_error_iff]
  exact Iff.rfl

/-- Reading arguments fails at the first that cannot be read, and those behind it are not looked
at. -/
theorem readAll_eq_error_iff {bs : List Binding} :
    readAll bs row = ⟨l, .error err⟩ ↔ ∃ before b after e, bs = before ++ b :: after ∧
      (∀ a ∈ before, ∃ v, (a.fetch row).result = .ok v) ∧ (b.fetch row).result = .error e ∧
      err = (Step.read b).report e ∧ l = (before ++ [b]).flatMap fun a => (a.fetch row).trail := by
  induction bs generalizing l with
  | nil =>
    constructor
    · intro h
      cases h
    · rintro ⟨before, b, after, e, h, -⟩
      cases before <;> cases h
  | cons c rest ih =>
    rw [readAll, Reading.bind_eq_error_iff]
    simp only [Reading.bind_ok_eq_error_iff, Binding.read_eq_error_iff,
      Binding.result_read_eq_ok_iff, ih]
    constructor
    · rintro (⟨⟨e, he, rfl⟩, rfl⟩ |
        ⟨v, l', hv, ⟨before, b, after, e, rfl, hreads, he, rfl, rfl⟩, rfl⟩)
      · exact ⟨[], c, rest, e, rfl, fun _ h => absurd h List.not_mem_nil, he, rfl, by simp⟩
      · have hfirst := List.forall_mem_cons.2 ⟨⟨v, hv⟩, hreads⟩
        refine ⟨c :: before, b, after, e, rfl, hfirst, he, rfl, ?_⟩
        rw [List.cons_append, List.flatMap_cons]
        rfl
    · rintro ⟨before, b, after, e, h, hreads, he, rfl, rfl⟩
      rcases List.cons_eq_append_iff.1 h with ⟨rfl, hb⟩ | ⟨before, rfl, rfl⟩
      · cases hb
        exact .inl ⟨⟨e, he, rfl⟩, by simp⟩
      · obtain ⟨⟨v, hv⟩, hreads⟩ := List.forall_mem_cons.1 hreads
        refine .inr ⟨v, _, hv, ⟨before, b, after, e, rfl, hreads, he, rfl, rfl⟩, ?_⟩
        rw [List.cons_append, List.flatMap_cons]
        rfl

/-- Arguments that are read are looked at one after the other. -/
theorem readAll_of_ok {bs : List Binding}
    (h : bs.map (fun b => (b.fetch row).result) = values.map .ok) :
    readAll bs row = ⟨bs.flatMap fun b => (b.fetch row).trail, .ok values⟩ := by
  induction bs generalizing values with
  | nil =>
    rw [List.map_eq_nil_iff.1 h.symm]
    rfl
  | cons b rest ih =>
    obtain ⟨v, vs, rfl, hv, hvs⟩ := List.map_eq_cons_iff.1 h.symm
    rw [readAll, Reading.bind_of_ok (Binding.result_read_eq_ok_iff.2 hv.symm), ih hvs.symm,
      Reading.bind_of_ok rfl, List.flatMap_cons]
    refine Reading.ext ?_ rfl
    exact congrArg ((b.fetch row).trail ++ ·) (List.append_nil _)

theorem result_readAll_eq_ok_iff {bs : List Binding} :
    (readAll bs row).result = .ok values ↔
      bs.map (fun b => (b.fetch row).result) = values.map .ok := by
  constructor
  · intro h
    rw [result_readAll, mapM_eq_ok_iff] at h
    have hok : ∀ b ∈ bs, ∃ v, (b.fetch row).result = .ok v := by
      intro b hb
      have hmem := h ▸ List.mem_map_of_mem (f := fun b : Binding => (b.read row).result) hb
      obtain ⟨v, -, hv⟩ := List.mem_map.1 hmem
      exact ⟨v, Binding.result_read_eq_ok_iff.1 hv.symm⟩
    rw [← h]
    refine List.map_congr_left fun b hb => ?_
    obtain ⟨v, hv⟩ := hok b hb
    rw [hv, Binding.result_read_eq_ok_iff.2 hv]
  · intro h
    rw [readAll_of_ok h]

/-! ### Fields -/

variable {t : Target ρ} {b : Binding} {w : Writer ρ}

theorem Binding.writtenBy_iff_of_writer {setter : Setter ρ} (hw : Plan.writer t b = .ok w) :
    b.WrittenBy t setter ↔ setter = w.setter := by
  obtain ⟨-, i, f, hi, hf, hs⟩ := Plan.writer_eq_ok_iff.1 hw
  constructor
  · rintro ⟨j, g, hj, hg, hset⟩
    cases hi.symm.trans hj
    cases hf.symm.trans hg
    exact Option.some.inj (hset.symm.trans hs)
  · rintro rfl
    exact ⟨i, f, hi, hf, hs⟩

/-- Writing a field looks at what its coercion looks at, whether or not the setter fails. -/
theorem Writer.trail_write (w : Writer ρ) (row : Row) (record : ρ) :
    (w.write row record).trail = (w.binding.fetch row).trail := by
  unfold Writer.write
  cases hr : (w.binding.read row).result with
  | error e => rw [Reading.bind_of_error hr]; rfl
  | ok v =>
    rw [Reading.bind_of_ok hr]
    rcases w.setter v record with ⟨_ | _, x⟩ <;> exact List.append_nil _

theorem Writer.trail_apply (w : Writer ρ) (ignoreNull : Bool) (row : Row) (record : ρ) :
    (w.apply ignoreNull row record).trail = w.binding.looks ignoreNull row := by
  unfold Writer.apply Binding.looks
  cases ignoreNull with
  | false => exact w.trail_write row record
  | true =>
    rw [if_pos rfl, if_pos rfl, Reading.bind_of_ok rfl, Row.askNull]
    cases row.isNull w.binding.column.index with
    | false => exact congrArg (_ :: ·) (w.trail_write row record)
    | true => rfl

theorem Writer.write_eq_error_iff :
    (w.write row record).result = .error err ↔ (w.binding.read row).result = .error err ∨
      ∃ v e, (w.binding.read row).result = .ok v ∧ (w.setter v record).1 = .error e ∧
        err = (Step.write w.binding).report e := by
  unfold Writer.write
  cases hr : (w.binding.read row).result with
  | error e => simp [Reading.bind_of_error hr]
  | ok v =>
    rw [Reading.bind_of_ok hr]
    rcases hs : w.setter v record with ⟨e | _, x⟩
    · simp [Reading.within, Reading.ofResult, Except.mapError, Step.report, Step.layer, eq_comm, hs]
    · simp [Reading.ofResult, hs]

/-- A writer fails when it does not skip its field and cannot read or write it. -/
theorem Writer.result_apply_eq_error_iff :
    (w.apply ignoreNull row record).result = .error err ↔
      ¬w.binding.Skips ignoreNull row ∧ (w.write row record).result = .error err := by
  unfold Writer.apply Binding.Skips
  cases ignoreNull with
  | false => simp
  | true =>
    rw [if_pos rfl, Reading.bind_of_ok rfl]
    cases row.isNull w.binding.column.index with
    | false => simp
    | true => simp [Reading.ofResult]

theorem Writer.result_apply_eq_ok_iff (hw : Plan.writer t b = .ok w) :
    (w.apply ignoreNull row record).result = .ok x ↔ b.Stores t ignoreNull row record x := by
  obtain rfl := Plan.binding_of_writer hw
  rw [Writer.apply_eq_ok_iff]
  constructor
  · rintro (⟨hskip, rfl⟩ | ⟨hkept, v, hread, hset⟩)
    · exact .skipped hskip
    · exact .written hkept (Binding.result_read_eq_ok_iff.1 hread)
        ((Binding.writtenBy_iff_of_writer hw).2 rfl) hset
  · rintro (hskip | ⟨hkept, hread, hfield, hset⟩)
    · exact .inl ⟨hskip, rfl⟩
    · obtain rfl := (Binding.writtenBy_iff_of_writer hw).1 hfield
      exact .inr ⟨hkept, _, Binding.result_read_eq_ok_iff.2 hread, hset⟩

theorem Writer.apply_eq_error_iff (hw : Plan.writer t b = .ok w) :
    w.apply ignoreNull row record = ⟨l, .error err⟩ ↔
      (∃ step e, b.Breaks t ignoreNull row record step e ∧ err = step.report e) ∧
        l = b.looks ignoreNull row := by
  obtain rfl := Plan.binding_of_writer hw
  have hresult : (w.apply ignoreNull row record).result = .error err ↔
      ∃ step e, w.binding.Breaks t ignoreNull row record step e ∧ err = step.report e := by
    rw [Writer.result_apply_eq_error_iff, Writer.write_eq_error_iff,
      Binding.result_read_eq_error_iff]
    constructor
    · rintro ⟨hkept, ⟨e, he, rfl⟩ | ⟨v, e, hread, he, rfl⟩⟩
      · exact ⟨_, e, .read hkept he, rfl⟩
      · exact ⟨_, e, .write hkept (Binding.result_read_eq_ok_iff.1 hread)
          ((Binding.writtenBy_iff_of_writer hw).2 rfl) he, rfl⟩
    · rintro ⟨step, e, ⟨hkept, he⟩ | ⟨hkept, hread, hfield, he⟩, rfl⟩
      · exact ⟨hkept, .inl ⟨e, he, rfl⟩⟩
      · obtain rfl := (Binding.writtenBy_iff_of_writer hw).1 hfield
        exact ⟨hkept, .inr ⟨_, e, Binding.result_read_eq_ok_iff.2 hread, he, rfl⟩⟩
  rw [Reading.eq_error_iff, hresult, w.trail_apply ignoreNull row record]

/-- Writing fields fails at the first that cannot be read or written, and those behind it are not
looked at. -/
theorem Writer.applyAll_eq_error_iff {bs : List Binding} {ws : List (Writer ρ)}
    (hws : bs.map (Plan.writer t) = ws.map .ok) :
    Writer.applyAll ignoreNull ws row record = ⟨l, .error err⟩ ↔
      ∃ before b after x step e, bs = before ++ b :: after ∧
        Binding.StoreAll t ignoreNull row before record x ∧
        b.Breaks t ignoreNull row x step e ∧ err = step.report e ∧
        l = (before ++ [b]).flatMap (Binding.looks ignoreNull row) := by
  induction ws generalizing bs record l with
  | nil =>
    obtain rfl := List.map_eq_nil_iff.1 hws
    constructor
    · intro h
      cases h
    · rintro ⟨before, b, after, x, step, e, h, -⟩
      cases before <;> cases h
  | cons w rest ih =>
    -- the rest starts from the record that the first writer leaves, so `record` is general
    obtain ⟨c, cs, rfl, hw, hrest⟩ := List.map_eq_cons_iff.1 hws
    rw [Writer.applyAll, Reading.bind_eq_error_iff]
    simp only [Writer.apply_eq_error_iff hw, Writer.result_apply_eq_ok_iff hw, ih hrest]
    have htrail : (w.apply ignoreNull row record).trail = c.looks ignoreNull row := by
      rw [w.trail_apply, Plan.binding_of_writer hw]
    rw [htrail]
    constructor
    · rintro (⟨⟨step, e, hb, rfl⟩, rfl⟩ |
        ⟨x, l', hx, ⟨before, b, after, y, step, e, rfl, hall, hb, rfl, rfl⟩, rfl⟩)
      · exact ⟨[], c, cs, record, step, e, rfl, .nil, hb, rfl, by simp⟩
      · exact ⟨c :: before, b, after, y, step, e, rfl, .cons hx hall, hb, rfl, by
          rw [List.cons_append, List.flatMap_cons]⟩
    · rintro ⟨before, b, after, y, step, e, h, hall, hb, rfl, rfl⟩
      rcases List.cons_eq_append_iff.1 h with ⟨rfl, hcons⟩ | ⟨before, rfl, rfl⟩
      · cases hcons
        cases hall
        exact .inl ⟨⟨step, e, hb, rfl⟩, by simp⟩
      · cases hall with
        | @cons _ _ _ x _ hx hall =>
          exact .inr ⟨x, _, hx, ⟨before, b, after, y, step, e, rfl, hall, hb, rfl, rfl⟩, by
            rw [List.cons_append, List.flatMap_cons]⟩

end

/-! ### Rows -/

namespace Plan

variable {t : Target ρ} {columns : List Column} {m : Option ResultMap} {r : Registry} {p : Plan}
  {row : Row} {ignoreNull : Bool} {l : List Access} {err : Error} {start : ρ}
  {creation : Creation ρ}

/-- Records are made without arguments, or by a constructor of the target. -/
theorem creation_cases (hc : p.creation t = .ok creation) :
    (∃ record, p.construction = .blank ∧ t.blank = some record ∧ creation = .blank record) ∨
      ∃ i c, p.construction = .constructor i ∧ t.constructors[i]? = some c ∧
        creation = .construct p.arguments c.build := by
  unfold Plan.creation at hc
  split at hc
  · rename_i hcon
    split at hc
    · rename_i record hrecord
      exact .inl ⟨record, hcon, hrecord, (Except.ok.inj hc).symm⟩
    · cases hc
  · rename_i i hcon
    split at hc
    · rename_i c hfound
      exact .inr ⟨i, c, hcon, hfound, (Except.ok.inj hc).symm⟩
    · cases hc

/-- Without a constructor there are no arguments. -/
theorem IsPlan.arguments_of_blank (hp : IsPlan t columns m r p) (h : p.construction = .blank) :
    p.arguments = [] := by
  have hcon := hp.construction
  have harguments := hp.arguments
  cases ha : m.bind ResultMap.arguments with
  | none =>
    rw [ha] at harguments
    exact List.map_eq_nil_iff.1 harguments.symm
  | some args =>
    rw [ha, h] at hcon
    unfold chooseConstruction at hcon
    simp only at hcon
    split at hcon <;> cases hcon

theorem result_create_eq_ok_iff (hc : p.creation t = .ok creation) :
    (creation.create row).result = .ok start ↔ p.Makes t row start := by
  obtain ⟨record, hcon, hblank, rfl⟩ | ⟨i, c, hcon, hfound, rfl⟩ := creation_cases hc
  · constructor
    · intro h
      cases h
      exact .blank hcon hblank
    · rintro (⟨-, hsome⟩ | ⟨hcon', -⟩)
      · cases hblank.symm.trans hsome
        rfl
      · cases hcon.symm.trans hcon'
  · rw [Creation.create, Reading.result_bind, bind_eq_ok_iff]
    simp only [result_readAll_eq_ok_iff]
    constructor
    · rintro ⟨values, hreads, hbuild⟩
      exact .constructor hcon hfound hreads hbuild
    · rintro (⟨hcon', -⟩ | ⟨hcon', hfound', hreads, hbuild⟩)
      · cases hcon.symm.trans hcon'
      · cases hcon.symm.trans hcon'
        cases hfound.symm.trans hfound'
        exact ⟨_, hreads, hbuild⟩

/-- Once a record is made, all arguments were looked at. -/
theorem IsPlan.trail_create_of_ok (hp : IsPlan t columns m r p)
    (hc : p.creation t = .ok creation) (h : (creation.create row).result = .ok start) :
    (creation.create row).trail = p.arguments.flatMap fun a => (a.fetch row).trail := by
  obtain ⟨record, hcon, hblank, rfl⟩ | ⟨i, c, hcon, hfound, rfl⟩ := creation_cases hc
  · rw [hp.arguments_of_blank hcon]
    rfl
  · rw [Creation.create, Reading.result_bind, bind_eq_ok_iff] at h
    obtain ⟨values, hread, -⟩ := h
    rw [result_readAll_eq_ok_iff] at hread
    rw [Creation.create, readAll_of_ok hread, Reading.bind_of_ok rfl]
    exact List.append_nil _

theorem IsPlan.create_eq_error_iff (hp : IsPlan t columns m r p)
    (hc : p.creation t = .ok creation) :
    creation.create row = ⟨l, .error err⟩ ↔
      (∃ before b after e, p.arguments = before ++ b :: after ∧
        (∀ a ∈ before, ∃ v, (a.fetch row).result = .ok v) ∧ (b.fetch row).result = .error e ∧
        err = (Step.read b).report e ∧
        l = (before ++ [b]).flatMap fun a => (a.fetch row).trail) ∨
      ∃ i c values, p.construction = .constructor i ∧ t.constructors[i]? = some c ∧
        p.arguments.map (fun b => (b.fetch row).result) = values.map .ok ∧
        c.build values = .error err ∧ l = p.arguments.flatMap fun a => (a.fetch row).trail := by
  obtain ⟨record, hcon, hblank, rfl⟩ | ⟨i, c, hcon, hfound, rfl⟩ := creation_cases hc
  · rw [hp.arguments_of_blank hcon]
    constructor
    · intro h
      cases h
    · rintro (⟨before, b, after, e, h, -⟩ | ⟨i, c, values, hcon', -⟩)
      · cases before <;> cases h
      · cases hcon.symm.trans hcon'
  · rw [Creation.create, Reading.bind_eq_error_iff, readAll_eq_error_iff]
    refine or_congr Iff.rfl ?_
    constructor
    · rintro ⟨values, l', hread, hbuild, rfl⟩
      rw [result_readAll_eq_ok_iff] at hread
      obtain ⟨rfl, hrefused⟩ := Reading.mk.inj hbuild
      rw [readAll_of_ok hread]
      exact ⟨i, c, values, hcon, hfound, hread, hrefused, List.append_nil _⟩
    · rintro ⟨j, d, values, hcon', hfound', hread, hbuild, rfl⟩
      cases hcon.symm.trans hcon'
      cases hfound.symm.trans hfound'
      exact ⟨values, [], result_readAll_eq_ok_iff.2 hread, Reading.ext rfl hbuild, by
        rw [readAll_of_ok hread, List.append_nil]⟩

/-- Whatever is to be done in the end, mapping a row fails at its first step that fails. -/
theorem IsPlan.map_eq_error_iff (hp : IsPlan t columns m r p) {ws : List (Writer ρ)}
    (hc : p.creation t = .ok creation) (hws : p.fields.map (writer t) = ws.map .ok)
    (hook : Option (ρ → ρ)) :
    Recipe.map ⟨creation, ws, ignoreNull, hook⟩ row = ⟨l, .error err⟩ ↔
      ∃ step e, p.FailsAt t ignoreNull row step e l ∧ err = step.report e := by
  rw [Recipe.map, Reading.bind_eq_error_iff, hp.create_eq_error_iff hc]
  simp only [Reading.bind_ok_eq_error_iff, Writer.applyAll_eq_error_iff hws]
  constructor
  · rintro ((⟨before, b, after, e, horder, hreads, he, rfl, rfl⟩ |
      ⟨i, c, values, hcon, hfound, hreads, hbuild, rfl⟩) |
      ⟨start, l', hstart, ⟨before, b, after, x, step, e, horder, hall, hb, rfl, rfl⟩, rfl⟩)
    · exact ⟨_, e, .argument horder hreads he, rfl⟩
    · exact ⟨_, err, .build hcon hfound hreads hbuild, rfl⟩
    · rw [hp.trail_create_of_ok hc hstart]
      exact ⟨step, e, .field ((result_create_eq_ok_iff hc).1 hstart) horder hall hb, rfl⟩
  · rintro ⟨step, e, h, rfl⟩
    cases h with
    | argument horder hreads he => exact .inl (.inl ⟨_, _, _, e, horder, hreads, he, rfl, rfl⟩)
    | build hcon hfound hreads hbuild =>
      exact .inl (.inr ⟨_, _, _, hcon, hfound, hreads, hbuild, rfl⟩)
    | field hmakes horder hall hb =>
      have hstart := (result_create_eq_ok_iff hc).2 hmakes
      refine .inr ⟨_, _, hstart, ⟨_, _, _, _, step, e, horder, hall, hb, rfl, rfl⟩, ?_⟩
      rw [hp.trail_create_of_ok hc hstart]

/-- A row that fails fails alike, whatever is to be done in the end. -/
theorem IsPlan.map_eq_of_error (hp : IsPlan t columns m r p) {ws : List (Writer ρ)}
    (hc : p.creation t = .ok creation) (hws : p.fields.map (writer t) = ws.map .ok)
    {hook : Option (ρ → ρ)} (hook' : Option (ρ → ρ))
    (h : (Recipe.map ⟨creation, ws, ignoreNull, hook⟩ row).result = .error err) :
    Recipe.map ⟨creation, ws, ignoreNull, hook'⟩ row =
      Recipe.map ⟨creation, ws, ignoreNull, hook⟩ row := by
  have hfails := (hp.map_eq_error_iff hc hws hook).1 (Reading.ext rfl h)
  rw [(hp.map_eq_error_iff hc hws hook').2 hfails]
  exact Reading.ext rfl h.symm

/-! ## Top theorems -/

/-- A built plan has a mapper.  It fails on a row exactly when some step fails, and then at the
first that does: arguments by position, the constructor, and for each field that is not skipped its
read and its write.  It reports that step's own error with one layer around it that names the
column and the field, or with none when the constructor failed; it has looked at nothing behind
that step, and it runs no hook. -/
theorem blames_of_build (t : Target ρ) (columns : List Column) (m : Option ResultMap)
    (r : Registry) (p : Plan) (key : CacheKey) (settings : Settings) (tracking : Bool)
    (h : (build t columns m r).1 = .ok p) :
    ∃ mapper events, p.synthesize key t settings tracking = .ok (mapper, events) ∧
      ∀ row, p.Blames t key settings mapper row := by
  have hp := build_fst_eq_ok_iff.1 h
  obtain ⟨creation, ws, events, hc, hws, hmapper⟩ := hp.exists_recipe key settings tracking
  refine ⟨_, events, hmapper, fun row => ⟨fun trail err => ?_, fun err herr hook tracking' => ?_⟩⟩
  · simp only [Step.reports_iff]
    exact hp.map_eq_error_iff hc hws _
  · have hwriters : writers (t.withTracking hook) p.fields = .ok ws := by
      rw [writers_eq_mapM, mapM_eq_ok_iff]
      exact hws
    obtain ⟨events', hmapper'⟩ :=
      synthesize_of (t := t.withTracking hook) key settings tracking' hc hwriters
    exact ⟨_, events', hmapper', hp.map_eq_of_error hc hws _ herr⟩

/-- Parcels: built from a code, and locked, so that the seal cannot be replaced. -/
def parcelTarget : Target Value where
  name := "Parcel"
  fields := .ofList [
    { name := "label", kind := .text, setter := some fun v _ => (.ok (), v) },
    { name := "seal", kind := .bytes,
      setter := some fun _ record => (.error (.adhoc "locked"), record) },
    { name := "note", kind := .text, setter := some fun v _ => (.ok (), v) }]
  constructors := [⟨[.text], fun values => .ok (values.headD .null)⟩]

def parcelColumns : List Column :=
  Column.number [("code", .text), ("label", .text), ("seal", .bytes), ("note", .text)]

def parcelMap : ResultMap where
  arguments := some [{ column := "code", kind := .text }]

def labelBinding : Binding :=
  ⟨.field 0, "label", ⟨1, "label", .text⟩, .text, false, .directRead⟩

def sealBinding : Binding :=
  ⟨.field 1, "seal", ⟨2, "seal", .bytes⟩, .bytes, false, .directRead⟩

def parcelPlan : Plan where
  construction := .constructor 0
  arguments := [⟨.argument 0, "code", ⟨0, "code", .text⟩, .text, false, .directRead⟩]
  fields := [labelBinding, sealBinding,
    ⟨.field 2, "note", ⟨3, "note", .text⟩, .text, false, .directRead⟩]
  unmatched := []

def parcelKey : CacheKey := ⟨"Index:0_parcels", true, true⟩

def parcelRow : Row := ⟨parcelColumns, some [.text "P", .null, .bytes [], .text "fragile"]⟩

/-- The label is skipped, the seal is read and cannot be written, and the note is not looked at. -/
theorem blames_parcelPlan :
    (build parcelTarget parcelColumns (some parcelMap) {}).1 = .ok parcelPlan ∧
      ∃ mapper events,
        parcelPlan.synthesize parcelKey parcelTarget ⟨true⟩ true = .ok (mapper, events) ∧
        parcelPlan.Blames parcelTarget parcelKey ⟨true⟩ mapper parcelRow ∧
        mapper.map parcelRow = ⟨[.read 0 .text, .isNull 1, .isNull 2, .read 2 .bytes],
          .error ((Error.adhoc "locked").context (.of (.settingField "seal" "seal")))⟩ := by
  have hbuild : (build parcelTarget parcelColumns (some parcelMap) {}).1 = .ok parcelPlan :=
    build_fst_eq_ok_iff.2 ⟨rfl, rfl, rfl, (List.mergeSort_of_pairwise (by decide)).symm⟩
  obtain ⟨mapper, events, hmapper, hall⟩ := blames_of_build parcelTarget parcelColumns
    (some parcelMap) {} parcelPlan parcelKey ⟨true⟩ true hbuild
  have hreads : parcelPlan.arguments.map (fun a => (a.fetch parcelRow).result) =
      [Value.text "P"].map .ok := rfl
  have hmakes : parcelPlan.Makes parcelTarget parcelRow (.text "P") :=
    .constructor rfl rfl hreads rfl
  have hlabel : labelBinding.Stores parcelTarget true parcelRow (.text "P") (.text "P") :=
    .skipped ⟨rfl, rfl⟩
  have hkept : ¬sealBinding.Skips true parcelRow := fun h => absurd h.2 (by decide)
  have hseal : sealBinding.Breaks parcelTarget true parcelRow (.text "P") (.write sealBinding)
      (.adhoc "locked") := .write hkept rfl ⟨1, _, rfl, rfl, rfl⟩ rfl
  have hfails : parcelPlan.FailsAt parcelTarget true parcelRow (.write sealBinding)
      (.adhoc "locked") _ := .field hmakes rfl (.cons hlabel .nil) hseal
  exact ⟨hbuild, mapper, events, hmapper, hall parcelRow,
    ((hall parcelRow).fails _ _).2 ⟨_, _, hfails, Step.reports_report _ _⟩⟩

end Plan

end Hydration
