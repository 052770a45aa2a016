import Hydration.Proofs.Handlers
import Hydration.Proofs.Mapper.Deeds
import Hydration.Proofs.Mapper.Soundness

/-!
# What a mapped record holds

Writing a field is a deed on that field, and where setters are separate it is confined to it.  A
plan writes no field twice, so a mapped record can be described field by field: a field that is
bound to a cell holds what its setter stores for the value that was read, every other field what
the constructor gave it.  Where a setter looks at another field than its own, as at `Door`, the
record depends on the order of the writes.

    Recipe.result_map      mapping a row is creating a record and doing the writers' deeds
    Writer.confined        a writer's deed is confined to its field
    contents_of_map        what the record holds, whatever the order of the writes and whatever
                           the cells of unmatched columns hold
    order_of_writes_shows  a setter that looks at another field shows the order
-/

namespace Hydration

open Traversal

variable {ρ α : Type}

/-! ## Algorithm -/

/-- What a record holds at a destination; an argument's position is no part of a record. -/
def Destination.view (view : Nat → ρ → α) : Destination → ρ → Option α
  | .argument _, _ => none
  | .field i, record => some (view i record)

/-- Writing a field, as a deed. -/
def Writer.deed (ignoreNull : Bool) (row : Row) (w : Writer ρ) : Deed Destination ρ :=
  ⟨w.binding.destination, fun record => (w.apply ignoreNull row record).result⟩

/-- `record` holds what the plan puts into `start` from a row: in every field that is bound, and
not skipped, what its setter stores for the value that its coercion reads, and in every other
field what `start` holds there. -/
structure Plan.Fills (p : Plan) (t : Target ρ) (view : Nat → ρ → α) (ignoreNull : Bool) (row : Row)
    (start record : ρ) : Prop where
  kept : ∀ i, (∀ b ∈ p.fields, b.destination = .field i → b.Skips ignoreNull row) →
    view i record = view i start
  stored : ∀ b ∈ p.fields, ¬b.Skips ignoreNull row → ∃ i f setter v,
    b.destination = .field i ∧ t.field? i = some f ∧ f.setter = some setter ∧
    (b.coercion.read row b.column.index f.kind f.nullable).result = .ok v ∧
    (setter v start).1 = .ok () ∧ view i record = view i (setter v start).2

/-! ## Lemmas -/

section
variable {row row' : Row} {ignoreNull : Bool} {record x : ρ}

theorem Writer.write_eq_ok_iff {w : Writer ρ} :
    (w.write row record).result = .ok x ↔
      ∃ v, (w.binding.read row).result = .ok v ∧ w.setter v record = (.ok (), x) := by
  rw [Writer.write, Reading.result_bind, bind_eq_ok_iff]
  refine exists_congr fun v => and_congr_right fun _ => ?_
  rcases w.setter v record with ⟨_ | _, r⟩
  · exact ⟨nofun, nofun⟩
  · simp [Reading.ofResult]

/-- A writer leaves the record as it is, or reads its column and writes its field. -/
theorem Writer.apply_eq_ok_iff {w : Writer ρ} :
    (w.apply ignoreNull row record).result = .ok x ↔
      w.binding.Skips ignoreNull row ∧ x = record ∨ ¬w.binding.Skips ignoreNull row ∧
        ∃ v, (w.binding.read row).result = .ok v ∧ w.setter v record = (.ok (), x) := by
  rw [← Writer.write_eq_ok_iff]
  unfold Writer.apply Binding.Skips
  cases ignoreNull with
  | false => simp
  | true =>
    rw [if_pos rfl, Reading.result_bind, Row.askNull]
    cases row.isNull w.binding.column.index with
    | false => simp [Except.bind]
    | true => simp [Except.bind, Reading.ofResult, eq_comm]

/-- Fields one after the other are the writers' deeds one after the other. -/
theorem Writer.result_applyAll (ignoreNull : Bool) (ws : List (Writer ρ)) (row : Row) (record : ρ) :
    (Writer.applyAll ignoreNull ws row record).result =
      Deed.performAll (ws.map (Writer.deed ignoreNull row)) record := by
  induction ws generalizing record with
  | nil => rfl
  | cons w rest ih =>
    rw [Writer.applyAll, Reading.result_bind, List.map_cons, Deed.performAll]
    exact congrArg _ (funext ih)

theorem Recipe.result_map (recipe : Recipe ρ) (row : Row) :
    (recipe.map row).result = (recipe.creation.create row).result.bind fun start =>
      (Deed.performAll (recipe.writers.map (Writer.deed recipe.ignoreNull row)) start).map
        (recipe.hook.getD id) := by
  simp only [Recipe.result_steps, Writer.result_applyAll]

/-- Bindings that read alike on two rows give the same values. -/
theorem result_readAll_congr {bs bs' : List Binding}
    (h : bs'.map (fun b => (b.read row').result) = bs.map fun b => (b.read row).result) :
    (readAll bs' row').result = (readAll bs row).result := by
  induction bs generalizing bs' with
  | nil =>
    rw [List.map_eq_nil_iff.1 h]
    rfl
  | cons b rest ih =>
    obtain ⟨b', rest', rfl, hb, hrest⟩ := List.map_eq_cons_iff.1 h
    simp only [readAll, Reading.result_bind, hb, ih hrest]

/-- Plans of one construction whose arguments read alike create the same record. -/
theorem Plan.result_create_congr {t : Target ρ} {p p' : Plan} {creation creation' : Creation ρ}
    (hcon : p'.construction = p.construction) (hc : p.creation t = .ok creation)
    (hc' : p'.creation t = .ok creation')
    (h : p'.arguments.map (fun b => (b.read row').result) =
      p.arguments.map fun b => (b.read row).result) :
    (creation'.create row').result = (creation.create row).result := by
  unfold Plan.creation at hc hc'
  rw [hcon] at hc'
  cases hp : p.construction with
  | blank =>
    rw [hp] at hc hc'
    cases hb : t.blank with
    | none =>
      rw [hb] at hc
      cases hc
    | some record =>
      rw [hb] at hc hc'
      cases hc
      cases hc'
      rfl
  | constructor index =>
    rw [hp] at hc hc'
    cases hk : t.constructors[index]? with
    | none =>
      simp only [hk] at hc
      cases hc
    | some k =>
      simp only [hk] at hc hc'
      cases hc
      cases hc'
      simp only [Creation.create, Reading.result_bind, result_readAll_congr h]

/-- Writers of one field that bring in the same do the same deed. -/
theorem Writer.deed_congr {w w' : Writer ρ}
    (hdest : w'.binding.destination = w.binding.destination) (hset : w'.setter = w.setter)
    (hname : w'.binding.name = w.binding.name)
    (hcolumn : w'.binding.column.name = w.binding.column.name)
    (hread : (w'.binding.read row').result = (w.binding.read row).result)
    (hnull : row'.isNull w'.binding.column.index = row.isNull w.binding.column.index) :
    w'.deed ignoreNull row' = w.deed ignoreNull row := by
  have hwrite : ∀ record, (w'.write row' record).result = (w.write row record).result := by
    intro record
    simp only [Writer.write, Reading.result_bind, hread, hset, hname, hcolumn]
  have happly : ∀ record, (w'.apply ignoreNull row' record).result =
      (w.apply ignoreNull row record).result := by
    intro record
    unfold Writer.apply
    cases ignoreNull with
    | false => exact hwrite record
    | true =>
      rw [if_pos rfl, if_pos rfl, Reading.result_bind, Reading.result_bind, Row.askNull,
        Row.askNull, hnull]
      cases row.isNull w.binding.column.index with
      | false => exact hwrite record
      | true => rfl
  simp only [Writer.deed, hdest, happly]

end

section
variable {t : Target ρ} {view : Nat → ρ → α} {columns : List Column} {m : Option ResultMap}
  {r : Registry} {p : Plan} {row : Row} {ignoreNull : Bool}

/-- The deed of a writer is confined to its field. -/
theorem Writer.confined (ht : t.Separate view) {b : Binding} {w : Writer ρ}
    (hw : Plan.writer t b = .ok w) :
    (w.deed ignoreNull row).Confined (Destination.view view) := by
  obtain ⟨rfl, i, f, hdest, hf, hs⟩ := Plan.writer_eq_ok_iff.1 hw
  have hpart : (w.deed ignoreNull row).part = .field i := hdest
  refine ⟨fun a x hx k hk => ?_, fun a b x hx hab => ?_⟩
  · rw [hpart] at hk
    cases k with
    | argument _ => rfl
    | field j =>
      rcases Writer.apply_eq_ok_iff.1 hx with ⟨-, rfl⟩ | ⟨-, v, -, hset⟩
      · rfl
      · have hframe := ht.frame i f w.setter v a hf hs (by rw [hset]) j fun h => hk (by rw [h])
        rw [hset] at hframe
        exact congrArg some hframe
  · rw [hpart] at hab ⊢
    rcases Writer.apply_eq_ok_iff.1 hx with ⟨hskip, rfl⟩ | ⟨hskip, v, hread, hset⟩
    · exact ⟨b, Writer.apply_eq_ok_iff.2 (.inl ⟨hskip, rfl⟩), hab⟩
    · obtain ⟨hok, hview⟩ := ht.own i f w.setter v a b hf hs (by rw [hset]) (Option.some.inj hab)
      rw [hset] at hview
      refine ⟨(w.setter v b).2, Writer.apply_eq_ok_iff.2 (.inr ⟨hskip, v, hread, ?_⟩),
        congrArg some hview⟩
      rw [← hok]

namespace Plan

/-- Writers of a plan's fields have confined deeds. -/
theorem confined_of_writers (ht : t.Separate view) {bs : List Binding} {ws : List (Writer ρ)}
    (hws : bs.map (writer t) = ws.map .ok) :
    ∀ d ∈ ws.map (Writer.deed ignoreNull row), d.Confined (Destination.view view) := by
  intro d hd
  obtain ⟨w, hw, rfl⟩ := List.mem_map.1 hd
  obtain ⟨b, -, hbw⟩ := exists_of_mem_of_map_ok hws hw
  exact Writer.confined ht hbw

theorem map_part_deeds {bs : List Binding} {ws : List (Writer ρ)}
    (hws : bs.map (writer t) = ws.map .ok) :
    (ws.map (Writer.deed ignoreNull row)).map Deed.part = bs.map Binding.destination := by
  rw [List.map_map]
  exact map_eq_of_map_ok hws fun b w hw => congrArg Binding.destination (binding_of_writer hw)

/-- What the deeds of the writers make of a record is what the plan puts into it. -/
theorem IsPlan.fills_of_done (hp : IsPlan t columns m r p) {ws : List (Writer ρ)}
    {start record : ρ} (hws : p.fields.map (writer t) = ws.map .ok)
    (h : Deed.Done (Destination.view view) (ws.map (Writer.deed ignoreNull row)) start record) :
    p.Fills t view ignoreNull row start record := by
  have hchanged : ∀ b ∈ p.fields, ∃ w x, writer t b = .ok w ∧ w.binding = b ∧
      (w.apply ignoreNull row start).result = .ok x ∧
      Destination.view view b.destination record = Destination.view view b.destination x := by
    intro b hb
    have hmem : writer t b ∈ ws.map .ok := hws ▸ List.mem_map_of_mem hb
    obtain ⟨w, hw, hbw⟩ := List.mem_map.1 hmem
    obtain ⟨x, hx, hview⟩ := h.changed _ (List.mem_map_of_mem hw)
    have hbinding := binding_of_writer hbw.symm
    rw [Writer.deed, hbinding] at hview
    exact ⟨w, x, hbw.symm, hbinding, hx, hview⟩
  refine ⟨fun i hi => ?_, fun b hb hskip => ?_⟩
  · by_cases hbound : ∃ b ∈ p.fields, b.destination = .field i
    · obtain ⟨b, hb, hdest⟩ := hbound
      obtain ⟨w, x, -, hbinding, hx, hview⟩ := hchanged b hb
      rcases Writer.apply_eq_ok_iff.1 hx with ⟨-, rfl⟩ | ⟨hno, -⟩
      · rw [hdest] at hview
        exact Option.some.inj hview
      · exact absurd (hi b hb hdest) (hbinding ▸ hno)
    · have hfree : Destination.field i ∉
          (ws.map (Writer.deed ignoreNull row)).map Deed.part := by
        rw [map_part_deeds hws, List.mem_map]
        exact hbound
      exact Option.some.inj (h.kept _ hfree)
  · obtain ⟨w, x, hw, hbinding, hx, hview⟩ := hchanged b hb
    obtain ⟨-, i, f, hdest, hf, hs⟩ := writer_eq_ok_iff.1 hw
    obtain ⟨y, -, g, hfeeds⟩ := hp.exists_feeds hb
    have hi : y.field = i := Destination.field.inj (hfeeds.destination.symm.trans hdest)
    have hg : g = f := Option.some.inj (hfeeds.field.symm.trans (hi ▸ hf))
    rcases Writer.apply_eq_ok_iff.1 hx with ⟨hyes, -⟩ | ⟨-, v, hread, hset⟩
    · exact absurd (hbinding ▸ hyes) hskip
    · rw [hbinding] at hread
      have hcoercion := Reading.result_within_eq_ok_iff.1 hread
      rw [hfeeds.kind, hfeeds.nullable, hg] at hcoercion
      rw [hdest] at hview
      refine ⟨i, f, w.setter, v, hdest, hf, hs, hcoercion, by rw [hset], ?_⟩
      rw [hset]
      exact Option.some.inj hview

/-- The handlers that a plan reads by are among those of the registry and of enumerations. -/
theorem IsPlan.handler_of_binding {P : Handler → Prop} (hp : IsPlan t columns m r p)
    (hr : r.Every P) (he : ∀ e, P (.ofEnumeration e)) {b : Binding}
    (hb : b ∈ p.arguments ++ p.fields) {h : Handler} (hh : b.coercion.handler? = some h) : P h := by
  rcases List.mem_append.1 hb with hb | hb
  · obtain ⟨a, -, ha⟩ := exists_of_mem_of_map_ok hp.arguments hb
    obtain ⟨c, -, hbind⟩ := argument_eq_ok_iff.1 ha
    exact Coercion.handler_of_resolve hr he (Draft.bind_eq_ok_iff.1 hbind).1 hh
  · obtain ⟨x, -, f, hfeeds⟩ := hp.exists_feeds hb
    exact Coercion.handler_of_resolve hr he hfeeds.coercion hh

/-- On two rows of the same columns that agree on the cells of a binding, the binding reads the
same. -/
theorem IsPlan.result_read_of_agree (hp : IsPlan t columns m r p) (hr : r.Every Handler.Local)
    {row' : Row} (hcolumns : row'.columns = row.columns) {b : Binding}
    (hb : b ∈ p.arguments ++ p.fields) (hcell : row'.cell b.column.index = row.cell b.column.index) :
    (b.read row').result = (b.read row).result := by
  have hlocal : ∀ h, b.coercion.handler? = some h → h.Local :=
    fun h hh => hp.handler_of_binding hr Handler.local_ofEnumeration hb hh
  rw [Binding.result_read, Binding.result_read, Coercion.read_congr hcell fun h hh =>
    hlocal h hh row row' b.column.index b.kind hcolumns hcell]

/-- A plan with its fields in another order has a mapper, of writers in another order. -/
theorem exists_synthesize_of_perm {creation : Creation ρ} {ws : List (Writer ρ)}
    {fields : List Binding} (key : CacheKey) (settings : Settings) (tracking : Bool)
    (hc : p.creation t = .ok creation) (hws : p.fields.map (writer t) = ws.map .ok)
    (hp : fields.Perm p.fields) :
    ∃ ws' events, ws'.Perm ws ∧ Plan.synthesize { p with fields } key t settings tracking =
      .ok (⟨key, Recipe.map ⟨creation, ws', settings.ignoreNull, hookFor key t tracking⟩⟩,
        events) := by
  have hsame : (fields.map fun b => (writer t b).map id).Perm
      (p.fields.map fun b => (writer t b).map id) := hp.map _
  obtain ⟨ws', hws', hperm⟩ := exists_map_ok_of_perm hws hsame
  rw [List.map_id, List.map_id] at hperm
  have hwriters : writers t fields = .ok ws' := by rw [writers_eq_mapM, mapM_eq_ok_iff, hws']
  obtain ⟨events, h⟩ := synthesize_of (p := { p with fields }) key settings tracking hc hwriters
  exact ⟨ws', events, hperm, h⟩

end Plan

end

/-! ## Top theorems -/

/-- A built plan has a mapper.  Where setters write their own fields only and look at no others,
every field of a record that it gives holds, if it is bound, what its setter stores for the value
that was read, and otherwise what the constructor gave it.  In whichever order the fields are
written, they hold the same in the end; and rows that agree on the columns that are bound map to
the same record. -/
theorem contents_of_map (t : Target ρ) (view : Nat → ρ → α) (columns : List Column)
    (m : Option ResultMap) (r : Registry) (p : Plan) (key : CacheKey) (settings : Settings)
    (ht : t.Separate view) (hr : r.Every Handler.Local)
    (h : (Plan.build t columns m r).1 = .ok p) :
    ∃ creation mapper events, p.creation t = .ok creation ∧
      p.synthesize key t settings false = .ok (mapper, events) ∧
      ∀ row record, (mapper.map row).result = .ok record →
        (∃ start, (creation.create row).result = .ok start ∧
          p.Fills t view settings.ignoreNull row start record) ∧
        (∀ fields, fields.Perm p.fields → ∃ mapper' events' record',
          Plan.synthesize { p with fields } key t settings false = .ok (mapper', events') ∧
            (mapper'.map row).result = .ok record' ∧ ∀ i, view i record' = view i record) ∧
        ∀ row' : Row, row'.columns = row.columns →
          (∀ b ∈ p.arguments ++ p.fields, row'.cell b.column.index = row.cell b.column.index) →
            (mapper.map row').result = .ok record := by
  have hp := Plan.build_fst_eq_ok_iff.1 h
  obtain ⟨creation, ws, events, hc, hws, hmapper⟩ := hp.exists_recipe key settings false
  refine ⟨creation, _, events, hc, hmapper, fun row record hrecord => ?_⟩
  have hd : ((ws.map (Writer.deed settings.ignoreNull row)).map Deed.part).Nodup := by
    rw [Plan.map_part_deeds hws]
    exact hp.nodup_destinations
  have hconfined : ∀ d ∈ ws.map (Writer.deed settings.ignoreNull row),
      d.Confined (Destination.view view) := Plan.confined_of_writers ht hws
  have hsteps := hrecord
  rw [Recipe.result_map, bind_eq_ok_iff] at hsteps
  obtain ⟨start, hstart, hsteps⟩ := hsteps
  obtain ⟨written, hwritten, rfl⟩ := map_eq_ok_iff.1 hsteps
  refine ⟨⟨start, hstart, hp.fills_of_done hws (Deed.done_of_performAll hconfined hd hwritten)⟩,
    fun fields hperm => ?_, fun row' hcolumns hcells => ?_⟩
  · obtain ⟨ws', events', hws', hmapper'⟩ :=
      Plan.exists_synthesize_of_perm key settings false hc hws hperm
    obtain ⟨record', hrecord', hview⟩ := Deed.exists_performAll_of_perm hconfined hd
      (hws'.map (Writer.deed settings.ignoreNull row)) hwritten
    refine ⟨_, events', record', hmapper', ?_, fun i => Option.some.inj (hview (.field i))⟩
    rw [Recipe.result_map, bind_eq_ok_iff]
    exact ⟨start, hstart, map_eq_ok_iff.2 ⟨record', hrecord', rfl⟩⟩
  · have hread : ∀ b ∈ p.arguments ++ p.fields, (b.read row').result = (b.read row).result :=
      fun b hb => hp.result_read_of_agree hr hcolumns hb (hcells b hb)
    have hcreate : (creation.create row').result = (creation.create row).result :=
      Plan.result_create_congr rfl hc hc (List.map_congr_left fun b hb =>
        hread b (List.mem_append_left _ hb))
    have hdeeds : ws.map (Writer.deed settings.ignoreNull row') =
        ws.map (Writer.deed settings.ignoreNull row) := by
      refine List.map_congr_left fun w hw => ?_
      obtain ⟨b, hb, hbw⟩ := exists_of_mem_of_map_ok hws hw
      rw [← Plan.binding_of_writer hbw] at hb
      have hb := List.mem_append_right p.arguments hb
      exact Writer.deed_congr rfl rfl rfl rfl (hread _ hb) (by simp only [Row.isNull, hcells _ hb])
    rw [Recipe.result_map, hcreate, hdeeds]
    exact (Recipe.result_map _ row).symm.trans hrecord

/-- Gauges: whether they are on, and a note. -/
def gaugeSpec : RecordSpec where
  name := "Gauge"
  blank := some [⟨"on", .bool false⟩, ⟨"note", .text "none yet"⟩]
  fields := [{ name := "on", kind := .bool, storage := .kind .bool },
    { name := "note", kind := .text, nullable := true, storage := .kind .text }]

def gaugeColumns : List Column := Column.number [("spare", .any), ("note", .text), ("on", .bool)]

def gaugePlan : Plan where
  construction := .blank
  arguments := []
  fields := [⟨.field 1, "note", ⟨1, "note", .text⟩, .text, true, .nullableUnwrap⟩,
    ⟨.field 0, "on", ⟨2, "on", .bool⟩, .bool, false, .directRead⟩]
  unmatched := [⟨0, "spare", .any⟩]

def gaugeRow (spare : Value) : Row := ⟨gaugeColumns, some [spare, .null, .bool true]⟩

def gaugeRecord : Record :=
  { entries := .ofList [⟨"on", .bool true⟩, ⟨"note", .text "none yet"⟩] }

/-- The empty note is skipped, and the spare column plays no part. -/
theorem contents_of_gaugeRow :
    gaugeSpec.target.Separate gaugeSpec.view ∧ ({} : Registry).Every Handler.Local ∧
      (Plan.build gaugeSpec.target gaugeColumns none {}).1 = .ok gaugePlan ∧
      ∃ mapper events,
        gaugePlan.synthesize ⟨"Index:0_gauges", true, false⟩ gaugeSpec.target ⟨true⟩ false =
          .ok (mapper, events) ∧
        ∀ spare, (mapper.map (gaugeRow spare)).result = .ok gaugeRecord := by
  have hbuild : (Plan.build gaugeSpec.target gaugeColumns none {}).1 = .ok gaugePlan :=
    Plan.build_fst_eq_ok_iff.2 ⟨rfl, rfl, rfl, (List.mergeSort_of_pairwise (by decide)).symm⟩
  refine ⟨gaugeSpec.separate, .empty _, hbuild, ?_⟩
  obtain ⟨creation, mapper, events, -, hmapper, hmap⟩ := contents_of_map gaugeSpec.target
    gaugeSpec.view gaugeColumns none {} gaugePlan ⟨"Index:0_gauges", true, false⟩ ⟨true⟩
    gaugeSpec.separate (.empty _) hbuild
  have hrecord : (gaugePlan.synthesize ⟨"Index:0_gauges", true, false⟩ gaugeSpec.target ⟨true⟩
      false).bind (fun x => (x.1.map (gaugeRow .null)).result) = .ok gaugeRecord := rfl
  rw [hmapper] at hrecord
  refine ⟨mapper, events, hmapper, fun spare => ?_⟩
  refine (hmap (gaugeRow .null) gaugeRecord hrecord).2.2 (gaugeRow spare) rfl fun b hb => ?_
  rcases List.mem_cons.1 hb with rfl | hb
  · rfl
  · rw [List.mem_singleton.1 hb]
    rfl

/-- Doors: whether they are locked, and whether they stand ajar. -/
structure Door where
  locked : Bool
  ajar : Bool
  deriving DecidableEq

namespace Door

/-- What a door holds in its fields. -/
def view : Nat → Door → Bool
  | 0, d => d.locked
  | 1, d => d.ajar
  | _, _ => false

def lock : Setter Door := fun v d => (.ok (), { d with locked := v = .bool true })

/-- A locked door stays shut. -/
def push : Setter Door := fun v d => (.ok (), { d with ajar := !d.locked && v = .bool true })

/-- Doors that are set ajar by `setAjar`. -/
def target (setAjar : Setter Door) : Target Door :=
  let bare : Target Door := { name := "Door" }
  ((bare.withBlank ⟨false, false⟩).withField
    { name := "locked", kind := .bool, setter := some lock }).withField
    { name := "ajar", kind := .bool, setter := some setAjar }

/-- Setting a door ajar is framed when it locks and unlocks none. -/
theorem framed_target {setAjar : Setter Door} (h : ∀ v d, (setAjar v d).2.locked = d.locked) :
    (target setAjar).Framed view := by
  refine ⟨fun i f setter v d hf hs _ j hj => ?_⟩
  match i, j with
  | 0, 0 => exact absurd rfl hj
  | 0, 1 =>
    cases hf
    cases hs
    rfl
  | 1, 0 =>
    cases hf
    cases hs
    exact h v d
  | 1, 1 => exact absurd rfl hj
  | _ + 2, _ => cases hf
  | _, _ + 2 => rfl

def cols : List (String × Kind) := [("locked", .bool), ("ajar", .bool)]

def row : Row := ⟨Column.number cols, some [.bool true, .bool true]⟩

/-- Setters that write their own fields only are not enough: a setter that looks at another field
shows in which order the fields are written. -/
theorem order_of_writes_shows :
    (target push).Framed view ∧ ({} : Registry).Every Handler.Local ∧
      ∃ p mapper events mapper' events',
        (Plan.build (target push) (Column.number cols) none {}).1 = .ok p ∧
        p.synthesize ⟨"Index:0_doors", false, false⟩ (target push) {} false =
          .ok (mapper, events) ∧
        Plan.synthesize { p with fields := p.fields.reverse } ⟨"Index:0_doors", false, false⟩
          (target push) {} false = .ok (mapper', events') ∧
        (mapper.map row).result = .ok ⟨true, false⟩ ∧
        (mapper'.map row).result = .ok ⟨true, true⟩ :=
  ⟨framed_target fun _ _ => rfl, .empty _, _, _, _, _, _, rfl, rfl, rfl, rfl, rfl⟩

end Door

end Hydration
