import Hydration.Proofs.Mapper.Contents
import Hydration.Proofs.Plan.Reordering

/-!
# Rows whose columns come in another order

A plan for reordered columns reads the same cells by the same coercions, only from other places and
in another order.  Handlers that do not look at places read the same there, and deeds on distinct
fields do not notice their order.  So where one order of the columns has a plan the other has one
too, and on the same cells both map a row, to records that hold the same, or neither does.  This is
lost where a setter looks at another field than its own.

    row.Reorders columns columns' row'   the rows hold the same for the same columns
    Alike view x y                       both fail, or both give records that hold the same
    map_alike_of_perm                    the order of the columns does not matter
    order_of_columns_shows               a setter that looks at another field shows it
-/

namespace Hydration

open Traversal

variable {ρ α : Type}

/-! ## Algorithm -/

/-- Both fail, or both give records that hold the same. -/
inductive Alike (view : Nat → ρ → α) : Except Error ρ → Except Error ρ → Prop
  | ok {a b : ρ} (h : ∀ i, view i b = view i a) : Alike view (.ok a) (.ok b)
  | error (e e' : Error) : Alike view (.error e) (.error e')

/-- Records that hold the same still do so afterwards. -/
def Respects (view : Nat → ρ → α) (f : ρ → ρ) : Prop :=
  ∀ a b, (∀ i, view i b = view i a) → ∀ i, view i (f b) = view i (f a)

/-- The row holds `v` for the column, under the column's name and kind. -/
structure Column.Holds (c : Column) (row : Row) (v : Value) : Prop where
  cell : row.cell c.index = .ok v
  name : row.columnName c.index = c.name
  kind : row.columnKind c.index = c.kind

/-- What one row holds for some of `columns`, the other holds for the same of `columns'`. -/
def Row.Reorders (columns columns' : List Column) (row row' : Row) : Prop :=
  ∀ c ∈ columns, ∀ c' ∈ columns', c'.unplaced = c.unplaced → ∃ v, c.Holds row v ∧ c'.Holds row' v

def Writer.unplaced (w : Writer ρ) : Writer ρ := { w with binding := w.binding.unplaced }

/-! ## Lists that are the same but for something -/

section
variable {β γ δ : Type} {u : β → γ} {g g' : β → δ} {xs ys : List β}

theorem map_eq_of_map_eq (h : ys.map u = xs.map u)
    (hg : ∀ y ∈ ys, ∀ x ∈ xs, u y = u x → g' y = g x) : ys.map g' = xs.map g := by
  induction ys generalizing xs with
  | nil =>
    rw [List.map_eq_nil_iff.1 h.symm]
    rfl
  | cons y ys ih =>
    obtain ⟨x, rest, rfl, hx, hrest⟩ := List.map_eq_cons_iff.1 h.symm
    rw [List.map_cons, List.map_cons, hg y List.mem_cons_self x List.mem_cons_self hx.symm,
      ih hrest.symm fun z hz w hw => hg z (List.mem_cons_of_mem _ hz) w (List.mem_cons_of_mem _ hw)]

theorem map_perm_of_map_perm (h : (ys.map u).Perm (xs.map u))
    (hg : ∀ y ∈ ys, ∀ x ∈ xs, u y = u x → g' y = g x) : (ys.map g').Perm (xs.map g) := by
  -- `zs` are the `xs` in the order of the `ys`
  obtain ⟨zs, hzs, hperm⟩ : Relation.Comp (· = List.map u ·) List.Perm (ys.map u) xs := by
    rw [List.eq_map_comp_perm]
    exact h
  rw [map_eq_of_map_eq hzs fun y hy z hz => hg y hy z (hperm.mem_iff.1 hz)]
  exact hperm.map g

end

/-! ## Outcomes -/

namespace Alike

variable {view : Nat → ρ → α} {x y : Except Error ρ}

/-- Where the views tell records apart, outcomes that are alike give the same record. -/
theorem eq_ok (h : Alike view x y) (hv : ∀ a b : ρ, (∀ i, view i b = view i a) → b = a) {a : ρ}
    (hx : x = .ok a) : y = .ok a := by
  cases h with
  | ok h =>
    cases hx
    rw [hv _ _ h]
  | error => cases hx

theorem of_exists (h : ∀ a, x = .ok a → ∃ b, y = .ok b ∧ ∀ i, view i b = view i a)
    (h' : ∀ b, y = .ok b → ∃ a, x = .ok a) : Alike view x y := by
  cases x with
  | ok a =>
    obtain ⟨b, rfl, hb⟩ := h a rfl
    exact .ok hb
  | error e =>
    cases y with
    | error e' => exact .error e e'
    | ok b =>
      obtain ⟨a, ha⟩ := h' b rfl
      cases ha

end Alike

/-- Recipes that create the same record and do the same deeds to it, in whichever order. -/
theorem Recipe.map_alike {view : Nat → ρ → α} {row row' : Row} (recipe recipe' : Recipe ρ)
    (hcreate : (recipe'.creation.create row').result = (recipe.creation.create row).result)
    (hc : ∀ d ∈ recipe.writers.map (Writer.deed recipe.ignoreNull row),
      d.Confined (Destination.view view))
    (hd : ((recipe.writers.map (Writer.deed recipe.ignoreNull row)).map Deed.part).Nodup)
    (hp : (recipe'.writers.map (Writer.deed recipe'.ignoreNull row')).Perm
      (recipe.writers.map (Writer.deed recipe.ignoreNull row)))
    (hhook : recipe'.hook = recipe.hook)
    (hview : ∀ hook, recipe.hook = some hook → Respects view hook) :
    Alike view (recipe.map row).result (recipe'.map row').result := by
  have hfinish : Respects view (recipe.hook.getD id) := by
    cases hr : recipe.hook with
    | none => exact fun _ _ hab => hab
    | some hook => exact hview hook hr
  rw [Recipe.result_map, Recipe.result_map, hcreate, hhook]
  cases (recipe.creation.create row).result with
  | error e => exact .error e e
  | ok start =>
    refine .of_exists (fun a ha => ?_) fun b hb => ?_
    · obtain ⟨record, hrecord, rfl⟩ := map_eq_ok_iff.1 ha
      obtain ⟨record', hrecord', hsame⟩ := Deed.exists_performAll_of_perm hc hd hp hrecord
      exact ⟨_, map_eq_ok_iff.2 ⟨record', hrecord', rfl⟩,
        hfinish record record' fun i => Option.some.inj (hsame (.field i))⟩
    · obtain ⟨record', hrecord', -⟩ := map_eq_ok_iff.1 hb
      obtain ⟨record, hrecord, -⟩ := Deed.exists_performAll_of_perm
        (fun d hd => hc d (hp.mem_iff.1 hd)) ((hp.map Deed.part).nodup_iff.2 hd) hp.symm hrecord'
      exact ⟨_, map_eq_ok_iff.2 ⟨record, hrecord, rfl⟩⟩

/-! ## Bindings and writers -/

section
variable {columns columns' : List Column} {row row' : Row} {b b' : Binding}

theorem Binding.unplaced_eq_iff :
    b'.unplaced = b.unplaced ↔ b'.destination = b.destination ∧ b'.name = b.name ∧
      b'.column.unplaced = b.column.unplaced ∧ b'.kind = b.kind ∧ b'.nullable = b.nullable ∧
      b'.coercion = b.coercion := by
  obtain ⟨_, _, _, _, _, _⟩ := b
  obtain ⟨_, _, _, _, _, _⟩ := b'
  simp only [Binding.unplaced, Binding.mk.injEq]

/-- A binding reads the same cell the same way wherever it stands. -/
theorem Binding.result_read_of_unplaced {v : Value} (h : b'.unplaced = b.unplaced)
    (hv : b.column.Holds row v) (hv' : b'.column.Holds row' v)
    (hh : ∀ h, b.coercion.handler? = some h → h.Uniform) :
    (b'.read row').result = (b.read row).result := by
  obtain ⟨-, hname, hcolumn, hkind, hnull, hcoercion⟩ := Binding.unplaced_eq_iff.1 h
  have hcname : b'.column.name = b.column.name := (congrArg Column.name hcolumn :)
  have hckind : b'.column.kind = b.column.kind := (congrArg Column.kind hcolumn :)
  rw [Binding.result_read, Binding.result_read, hname, hkind, hnull, hcoercion, hcname,
    Coercion.read_congr (hv'.cell.trans hv.cell.symm) fun h hb => ?_]
  refine hh h hb row row' _ _ b.kind v hv.cell hv'.cell ?_ ?_
  · rw [hv.name, hv'.name, hcname]
  · rw [hv.kind, hv'.kind, hckind]

/-- Writers of one field that differ by the places of their columns do the same deed. -/
theorem Writer.deed_of_unplaced {w w' : Writer ρ} {ignoreNull : Bool} {v : Value}
    (h : w'.unplaced = w.unplaced) (hv : w.binding.column.Holds row v)
    (hv' : w'.binding.column.Holds row' v)
    (hh : ∀ h, w.binding.coercion.handler? = some h → h.Uniform) :
    w'.deed ignoreNull row' = w.deed ignoreNull row := by
  have hbinding : w'.binding.unplaced = w.binding.unplaced := congrArg Writer.binding h
  obtain ⟨hdest, hname, hcolumn, -⟩ := Binding.unplaced_eq_iff.1 hbinding
  refine Writer.deed_congr hdest (congrArg Writer.setter h :) hname
    (congrArg Column.name hcolumn :) (Binding.result_read_of_unplaced hbinding hv hv' hh) ?_
  simp only [Row.isNull, hv.cell, hv'.cell]

namespace Plan

variable {t : Target ρ} {m : Option ResultMap} {r : Registry} {p p' : Plan}

theorem writer_unplaced (t : Target ρ) (b : Binding) :
    writer t b.unplaced = (writer t b).map Writer.unplaced := by
  obtain ⟨destination, name, column, kind, nullable, coercion⟩ := b
  unfold writer Binding.unplaced
  cases destination with
  | argument _ => rfl
  | field i =>
    simp only
    cases t.field? i with
    | none => rfl
    | some f => cases hs : f.setter <;> simp only [hs] <;> rfl

/-- The writers of reordered fields are the same writers. -/
theorem Reorders.map_writers (h : p.Reorders p') {ws ws' : List (Writer ρ)}
    (hws : p.fields.map (writer t) = ws.map .ok) (hws' : p'.fields.map (writer t) = ws'.map .ok) :
    (ws'.map Writer.unplaced).Perm (ws.map Writer.unplaced) := by
  have hmap : ∀ {bs : List Binding} {ws : List (Writer ρ)}, bs.map (writer t) = ws.map .ok →
      (bs.map Binding.unplaced).map (writer t) = (ws.map Writer.unplaced).map .ok := by
    intro bs ws hbs
    rw [← map_map_of_map_ok _ hbs, List.map_map]
    exact List.map_congr_left fun b _ => writer_unplaced t b
  have hperm := h.fields.map (writer t)
  rw [hmap hws, hmap hws'] at hperm
  exact (List.map_perm_map_iff fun _ _ => Except.ok.inj).1 hperm

/-- Of two plans for the same columns in different orders, the mappers give the same. -/
theorem Reorders.map_alike {view : Nat → ρ → α} {key : CacheKey} {settings : Settings}
    {tracking : Bool} {mapper mapper' : Mapper ρ} {events events' : List Event}
    (h : p.Reorders p') (hp : IsPlan t columns m r p) (hp' : IsPlan t columns' m r p')
    (ht : t.Separate view)
    (hhook : tracking = true → ∀ hook, t.trackingHook = some hook → Respects view hook)
    (hr : r.Every Handler.Uniform) (hrow : Row.Reorders columns columns' row row')
    (hm : p.synthesize key t settings tracking = .ok (mapper, events))
    (hm' : p'.synthesize key t settings tracking = .ok (mapper', events')) :
    Alike view (mapper.map row).result (mapper'.map row').result := by
  have huniform : ∀ b ∈ p.arguments ++ p.fields, ∀ h, b.coercion.handler? = some h → h.Uniform :=
    fun b hb h hh => hp.handler_of_binding hr Handler.uniform_ofEnumeration hb hh
  have hholds : ∀ b ∈ p.arguments ++ p.fields, ∀ b' ∈ p'.arguments ++ p'.fields,
      b'.unplaced = b.unplaced → ∃ v, b.column.Holds row v ∧ b'.column.Holds row' v :=
    fun b hb b' hb' hbb => hrow _ (hp.mem_of_binding hb) _ (hp'.mem_of_binding hb')
      (Binding.unplaced_eq_iff.1 hbb).2.2.1
  obtain ⟨creation, ws, _, hc, hws, hs⟩ := hp.exists_recipe key settings tracking
  obtain ⟨creation', ws', _, hc', hws', hs'⟩ := hp'.exists_recipe key settings tracking
  cases hm.symm.trans hs
  cases hm'.symm.trans hs'
  have hrespects : ∀ hook, hookFor key t tracking = some hook → Respects view hook := by
    intro hook hh
    obtain ⟨htracking, hh⟩ := trackingHook_of_hookFor hh
    exact hhook htracking hook hh
  refine Recipe.map_alike ⟨creation, ws, settings.ignoreNull, _⟩
    ⟨creation', ws', settings.ignoreNull, _⟩ ?_ (confined_of_writers ht hws) ?_ ?_ rfl
    hrespects
  · refine result_create_congr h.construction hc hc' ?_
    refine map_eq_of_map_eq h.arguments fun b' hb' b hb hbb => ?_
    have hb := List.mem_append_left p.fields hb
    obtain ⟨v, hv, hv'⟩ := hholds b hb b' (List.mem_append_left _ hb') hbb
    exact Binding.result_read_of_unplaced hbb hv hv' (huniform b hb)
  · rw [map_part_deeds hws]
    exact hp.nodup_destinations
  · refine map_perm_of_map_perm (h.map_writers hws hws') fun w' hw' w hw hww => ?_
    obtain ⟨b, hb, hbw⟩ := exists_of_mem_of_map_ok hws hw
    obtain ⟨b', hb', hbw'⟩ := exists_of_mem_of_map_ok hws' hw'
    rw [← binding_of_writer hbw] at hb
    rw [← binding_of_writer hbw'] at hb'
    have hb := List.mem_append_right p.arguments hb
    obtain ⟨v, hv, hv'⟩ := hholds _ hb _ (List.mem_append_right _ hb') (congrArg Writer.binding hww)
    exact Writer.deed_of_unplaced hww hv hv' (huniform _ hb)

end Plan

end

/-! ## Columns that are numbered in their order -/

section
variable {cols cols' : List (String × Kind)} {cells cells' : List Value}

theorem Column.mem_number_iff {c : Column} :
    c ∈ Column.number cols ↔ cols[c.index]? = some (c.name, c.kind) := by
  unfold Column.number
  rw [List.mem_map]
  constructor
  · rintro ⟨⟨⟨name, kind⟩, i⟩, hx, rfl⟩
    exact List.mk_mem_zipIdx_iff_getElem?.1 hx
  · intro h
    exact ⟨((c.name, c.kind), c.index), List.mk_mem_zipIdx_iff_getElem?.2 h, rfl⟩

theorem Column.nodup_index_number (cols : List (String × Kind)) :
    ((Column.number cols).map Column.index).Nodup := by
  have hindex : (Column.number cols).map Column.index = cols.zipIdx.map Prod.snd := by
    rw [Column.number, List.map_map]
    rfl
  rw [hindex, List.zipIdx_map_snd]
  exact List.nodup_range'

/-- What columns are called and of which kind they are does not depend on their numbers. -/
theorem Column.map_number {β : Type} (cols : List (String × Kind)) (g : String × Kind → β) :
    ((Column.number cols).map fun c => g (c.name, c.kind)) = cols.map g := by
  rw [Column.number, List.map_map]
  exact (List.map_map (f := Prod.fst) (g := g)).symm.trans (by rw [List.zipIdx_map_fst])

theorem Reordered.of_perm (hp : cols'.Perm cols)
    (hn : (cols.map fun c => Text.fold c.1).Nodup) :
    Reordered (Column.number cols) (Column.number cols') := by
  refine ⟨?_, Column.nodup_index_number _, Column.nodup_index_number _, ?_⟩
  · let plain : String × Kind → Column := fun c => ⟨0, c.1, c.2⟩
    have hmap : ∀ cols, (Column.number cols).map Column.unplaced = cols.map plain :=
      fun cols => Column.map_number cols plain
    rw [hmap, hmap]
    exact hp.map plain
  · rw [Column.map_number cols fun c => Text.fold c.1]
    exact hn

theorem Column.holds_of_getElem? {c : Column} {v : Value} (hc : c ∈ Column.number cols)
    (hv : cells[c.index]? = some v) : c.Holds ⟨Column.number cols, some cells⟩ v := by
  have hcol : (Column.number cols)[c.index]? = some c := by
    rw [Column.number, List.getElem?_map, List.getElem?_zipIdx, Column.mem_number_iff.1 hc]
    simp
  exact ⟨by simp only [Row.cell, hv], by simp only [Row.columnName, hcol],
    by simp only [Row.columnKind, hcol]⟩

/-- Rows on which columns and cells come in another order together. -/
theorem Row.reorders_of_zip_perm (hn : (cols.map fun c => Text.fold c.1).Nodup)
    (hcols : cols'.Perm cols) (hcells : cells.length = cols.length)
    (hp : (cols'.zip cells').Perm (cols.zip cells)) :
    Row.Reorders (Column.number cols) (Column.number cols') ⟨Column.number cols, some cells⟩
      ⟨Column.number cols', some cells'⟩ := by
  intro c hc c' hc' hcc
  have hname : c'.name = c.name := (congrArg Column.name hcc :)
  have hkind : c'.kind = c.kind := (congrArg Column.kind hcc :)
  have hcol := Column.mem_number_iff.1 hc
  have hcol' := Column.mem_number_iff.1 hc'
  have hlt : c.index < cells.length := hcells ▸ (List.getElem?_eq_some_iff.1 hcol).1
  have hv := List.getElem?_eq_getElem hlt
  have hmem : ((c.name, c.kind), cells[c.index]) ∈ cols'.zip cells' :=
    hp.mem_iff.2 (List.mem_of_getElem? (List.getElem?_zip_eq_some.2 ⟨hcol, hv⟩))
  obtain ⟨j, hj⟩ := List.mem_iff_getElem?.1 hmem
  obtain ⟨hjcol, hjv⟩ := List.getElem?_zip_eq_some.1 hj
  -- the name is at one place only
  have hnodup : cols'.Nodup := hcols.nodup_iff.2 (hn.of_map _)
  rw [hname, hkind, ← hjcol] at hcol'
  have hij := (List.getElem?_inj (List.getElem?_eq_some_iff.1 (Column.mem_number_iff.1 hc')).1
    hnodup).1 hcol'
  exact ⟨cells[c.index], Column.holds_of_getElem? hc hv,
    Column.holds_of_getElem? hc' (hij ▸ hjv)⟩

end

/-! ## Top theorems -/

/-- The order of the columns does not matter.  Where names differ even when case is ignored, no two
properties find one field, setters write their own fields only and look at no others, and handlers
do not look at places, both orders have a plan or neither has one; and of rows of the same cells,
both map or neither does, to records that hold the same, and so to the same record where the views
tell records apart.  With tracking on this takes a hook that respects what records hold. -/
theorem map_alike_of_perm (t : Target ρ) (view : Nat → ρ → α) (cols cols' : List (String × Kind))
    (m : Option ResultMap) (r : Registry) (ht : t.Separate view) (hm : PropertiesApart t m)
    (hr : r.Every Handler.Uniform) (hn : (cols.map fun c => Text.fold c.1).Nodup)
    (hcols : cols'.Perm cols) :
    ((∃ p, (Plan.build t (Column.number cols) m r).1 = .ok p) ↔
      ∃ p', (Plan.build t (Column.number cols') m r).1 = .ok p') ∧
    ∀ p p', (Plan.build t (Column.number cols) m r).1 = .ok p →
      (Plan.build t (Column.number cols') m r).1 = .ok p' →
      ∀ key settings tracking,
        (tracking = true → ∀ hook, t.trackingHook = some hook → Respects view hook) →
        ∃ mapper events mapper' events',
          p.synthesize key t settings tracking = .ok (mapper, events) ∧
          p'.synthesize key t settings tracking = .ok (mapper', events') ∧
          ∀ cells cells' : List Value, cells.length = cols.length →
            cells'.length = cols'.length → (cols'.zip cells').Perm (cols.zip cells) →
            Alike view (mapper.map ⟨Column.number cols, some cells⟩).result
              (mapper'.map ⟨Column.number cols', some cells'⟩).result ∧
            ((∀ a b : ρ, (∀ i, view i b = view i a) → b = a) → ∀ record,
              (mapper.map ⟨Column.number cols, some cells⟩).result = .ok record →
                (mapper'.map ⟨Column.number cols', some cells'⟩).result = .ok record) := by
  have hreordered := Reordered.of_perm hcols hn
  refine ⟨⟨fun ⟨p, h⟩ => ?_, fun ⟨p', h'⟩ => ?_⟩, fun p p' h h' key settings tracking hhook => ?_⟩
  · obtain ⟨p', hp', -⟩ := (Plan.build_fst_eq_ok_iff.1 h).exists_reorders hreordered hm
    exact ⟨p', Plan.build_fst_eq_ok_iff.2 hp'⟩
  · obtain ⟨p, hp, -⟩ := (Plan.build_fst_eq_ok_iff.1 h').exists_reorders hreordered.symm hm
    exact ⟨p, Plan.build_fst_eq_ok_iff.2 hp⟩
  · have hp := Plan.build_fst_eq_ok_iff.1 h
    have hp' := Plan.build_fst_eq_ok_iff.1 h'
    have hsame : p.Reorders p' := by
      obtain ⟨q, hq, hsame⟩ := hp.exists_reorders hreordered hm
      have hqp : q = p' := Except.ok.inj ((Plan.build_fst_eq_ok_iff.2 hq).symm.trans h')
      exact hqp ▸ hsame
    obtain ⟨_, _, events, -, -, hmapper⟩ := hp.exists_recipe key settings tracking
    obtain ⟨_, _, events', -, -, hmapper'⟩ := hp'.exists_recipe key settings tracking
    refine ⟨_, events, _, events', hmapper, hmapper', fun cells cells' hlen _ hcells => ?_⟩
    have halike := hsame.map_alike hp hp' ht hhook hr
      (Row.reorders_of_zip_perm hn hcols hlen hcells) hmapper hmapper'
    exact ⟨halike, fun hview record => halike.eq_ok hview⟩

/-- Notes come in a column of another name, in small letters. -/
def remarkMap : ResultMap := ({} : ResultMap).propertyWithHandler "remark" "note" "upper"

def upperRegistry : Registry := ({} : Registry).registerNamed "upper" (.upper "upper")

def remarkCols : List (String × Kind) := [("spare", .any), ("remark", .text), ("on", .bool)]

/-- The note, which a handler reads, and the flag may be told in either order. -/
theorem map_alike_remarkCols :
    gaugeSpec.target.Separate gaugeSpec.view ∧
      (∀ hook, gaugeSpec.target.trackingHook = some hook → Respects gaugeSpec.view hook) ∧
      PropertiesApart gaugeSpec.target (some remarkMap) ∧ upperRegistry.Every Handler.Uniform ∧
      (remarkCols.map fun c => Text.fold c.1).Nodup ∧ remarkCols.reverse.Perm remarkCols ∧
      ∃ p p' mapper events mapper' events',
        (Plan.build gaugeSpec.target (Column.number remarkCols) (some remarkMap)
          upperRegistry).1 = .ok p ∧
        (Plan.build gaugeSpec.target (Column.number remarkCols.reverse) (some remarkMap)
          upperRegistry).1 = .ok p' ∧
        p.synthesize ⟨"Index:0_gauges", false, true⟩ gaugeSpec.target {} true =
          .ok (mapper, events) ∧
        p'.synthesize ⟨"Index:0_gauges", false, true⟩ gaugeSpec.target {} true =
          .ok (mapper', events') ∧
        ∀ spare note on, Alike gaugeSpec.view
          (mapper.map ⟨Column.number remarkCols, some [spare, note, on]⟩).result
          (mapper'.map ⟨Column.number remarkCols.reverse, some [on, note, spare]⟩).result := by
  have hhook : ∀ hook, gaugeSpec.target.trackingHook = some hook → Respects gaugeSpec.view hook :=
    fun _ h => nomatch h
  have hm : PropertiesApart gaugeSpec.target (some remarkMap) := by
    intro map hmap p hp q hq _ _ _
    cases hmap
    rw [List.mem_singleton.1 hp, List.mem_singleton.1 hq]
  have hr : upperRegistry.Every Handler.Uniform :=
    (Registry.Every.empty _).registerNamed "upper" (Handler.uniform_reading _ _ _)
  have hn : (remarkCols.map fun c => Text.fold c.1).Nodup := by decide
  have hp : remarkCols.reverse.Perm remarkCols := List.reverse_perm _
  obtain ⟨hplan, hmap⟩ := map_alike_of_perm gaugeSpec.target gaugeSpec.view remarkCols
    remarkCols.reverse (some remarkMap) upperRegistry gaugeSpec.separate hm hr hn hp
  obtain ⟨p, hbuild⟩ : ∃ p, (Plan.build gaugeSpec.target (Column.number remarkCols)
    (some remarkMap) upperRegistry).1 = .ok p := ⟨_, rfl⟩
  obtain ⟨p', hbuild'⟩ := hplan.1 ⟨p, hbuild⟩
  obtain ⟨mapper, events, mapper', events', hmapper, hmapper', hrows⟩ :=
    hmap p p' hbuild hbuild' ⟨"Index:0_gauges", false, true⟩ {} true fun _ => hhook
  refine ⟨gaugeSpec.separate, hhook, hm, hr, hn, hp, p, p', mapper, events, mapper', events',
    hbuild, hbuild', hmapper, hmapper', fun spare note on => ?_⟩
  exact (hrows [spare, note, on] [on, note, spare] rfl rfl (List.reverse_perm
    (remarkCols.zip [spare, note, on]))).1

namespace Door

/-- A locked door cannot be opened. -/
def force : Setter Door := fun v d =>
  if d.locked then (.error (.adhoc "locked"), d) else (.ok (), { d with ajar := v = .bool true })

/-- Setters that write their own fields only are not enough: where a setter looks at another field,
a row can map in one order of the columns and fail in the other. -/
theorem order_of_columns_shows :
    (target force).Framed view ∧ PropertiesApart (target force) none ∧
      ({} : Registry).Every Handler.Uniform ∧ (cols.map fun c => Text.fold c.1).Nodup ∧
      cols.reverse.Perm cols ∧
      ∃ p p' mapper events mapper' events',
        (Plan.build (target force) (Column.number cols) none {}).1 = .ok p ∧
        (Plan.build (target force) (Column.number cols.reverse) none {}).1 = .ok p' ∧
        p.synthesize ⟨"Index:0_doors", false, false⟩ (target force) {} false =
          .ok (mapper, events) ∧
        p'.synthesize ⟨"Index:0_doors", false, false⟩ (target force) {} false =
          .ok (mapper', events') ∧
        (mapper.map ⟨Column.number cols, some [.bool true, .bool true]⟩).result =
          .error ((Error.adhoc "locked").context (.of (.settingField "ajar" "ajar"))) ∧
        (mapper'.map ⟨Column.number cols.reverse, some [.bool true, .bool true]⟩).result =
          .ok ⟨true, true⟩ := by
  have hframed : (target force).Framed view := by
    refine framed_target fun v d => ?_
    unfold force
    split <;> rfl
  exact ⟨hframed, nofun, .empty _, by decide, List.reverse_perm _, _, _, _, _, _, _, rfl, rfl, rfl,
    rfl, rfl, rfl⟩

end Door

end Hydration
