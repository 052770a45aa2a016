import Hydration.Proofs.Coercion
import Hydration.Proofs.Mapper.Synthesis
import Hydration.Proofs.Plan.Resolution
import Hydration.Proofs.Plan.Standing
import Hydration.Proofs.Target

/-!
# Typed rows map to typed records

Where setters convert to the kinds of their fields and no handler is involved, a row whose cells
are of their columns' kinds becomes a record whose written fields are of their kinds.  Mapping
fails only when a cast or an enumeration's conversion fails while a column is read: no setter
fails, and no cell is missing.

    Writer.Sound.write_meets     one field
    applyAll_meets               one field after the other
    map_meets_of_no_handlers     a whole row
-/

namespace Hydration

open Traversal

variable {ρ : Type}

/-! ## Algorithm -/

/-- Every column has a cell, and every cell is empty or of its column's kind. -/
def Row.Fits (row : Row) (columns : List Column) : Prop :=
  ∀ c ∈ columns, ∃ v, row.cell c.index = .ok v ∧ (v = .null ∨ Kind.Inhabits v c.kind)

/-- No handler is configured, declared or registered, other than those of enumerations. -/
structure Handlerless (t : Target ρ) (m : Option ResultMap) (r : Registry) : Prop where
  configured : ∀ map, m = some map → ∀ p ∈ map.properties.items, p.handler = none
  declared : ∀ i f, t.field? i = some f → f.handler = none
  registered : Registry.empty.Extends r

/-- The binding fails to read: a conversion fails, and the error says which column was read. -/
def Binding.Fails (b : Binding) (row : Row) (e : Error) : Prop :=
  b.coercion.Converts ∧ (b.read row).result = .error e ∧ ∃ v wanted,
    e = (Error.conversion v wanted).context (.of (.readingColumn b.column.name b.name))

/-- The binding leaves its field as it is. -/
def Binding.Skips (b : Binding) (ignoreNull : Bool) (row : Row) : Prop :=
  ignoreNull = true ∧ row.isNull b.column.index = true

/-- What is known of a writer of a field. -/
structure Writer.Sound (t : Target ρ) (columns : List Column) (w : Writer ρ) (i : Nat)
    (f : Field ρ) : Prop where
  destination : w.binding.destination = .field i
  field : t.field? i = some f
  setter : f.setter = some w.setter
  kind : w.binding.kind = f.kind
  nullable : w.binding.nullable = f.nullable
  column : w.binding.column ∈ columns
  plain : Coercion.Plain f.kind w.binding.column.kind w.binding.coercion
  variants : ∀ e, f.kind = .enum e → e.variants ≠ []

/-! ## Lemmas -/

section
variable {t : Target ρ} {columns : List Column} {view : Nat → ρ → Value} {row : Row}
  {w : Writer ρ} {i : Nat} {f : Field ρ}

theorem Writer.Sound.read_meets (hs : w.Sound t columns i f) (hrow : row.Fits columns) :
    (w.binding.read row).Meets (f.kind.Suits f.nullable) (w.binding.Fails row) := by
  obtain ⟨v, hv, hfit⟩ := hrow _ hs.column
  have hread := hs.plain.read_meets hs.variants hv hfit f.nullable
  rw [← hs.kind, ← hs.nullable] at hread ⊢
  have hwithin : (w.binding.read row).Meets (w.binding.kind.Suits w.binding.nullable)
      fun e => w.binding.coercion.Converts ∧ ∃ v wanted, e =
        (Error.conversion v wanted).context
          (.of (.readingColumn w.binding.column.name w.binding.name)) := by
    refine hread.within fun e he => ?_
    obtain ⟨hc, v, wanted, rfl⟩ := he
    exact ⟨hc, v, wanted, rfl⟩
  exact hwithin.with_error.mono (fun _ h => h) fun e h => ⟨h.1.1, h.2, h.1.2⟩

/-- A writer gives its field a value that the field may hold, and changes no other field. -/
theorem Writer.Sound.write_meets (ht : t.Converts view) (hs : w.Sound t columns i f)
    (hrow : row.Fits columns) (record : ρ) :
    (w.write row record).Meets
      (fun r => f.kind.Suits f.nullable (view i r) ∧ ∀ j, j ≠ i → view j r = view j record)
      (w.binding.Fails row) := by
  refine (hs.read_meets hrow).bind fun v hv => ?_
  obtain ⟨hok, hview, hother⟩ := ht.stores i f w.setter v v record hs.field hs.setter
    (Field.converted_of_suits hv)
  rcases hset : w.setter v record with ⟨result, r⟩
  rw [hset] at hok hview hother
  cases hok
  refine Reading.meets_of_ok rfl ⟨?_, hother⟩
  rw [hview]
  exact hv

theorem Writer.Sound.apply_meets (ht : t.Converts view) (hs : w.Sound t columns i f)
    (hrow : row.Fits columns) (ignoreNull : Bool) (record : ρ) :
    (w.apply ignoreNull row record).Meets
      (fun r => (¬w.binding.Skips ignoreNull row → f.kind.Suits f.nullable (view i r)) ∧
        ∀ j, j ≠ i → view j r = view j record)
      (w.binding.Fails row) := by
  have hwrite := (hs.write_meets ht hrow record).mono
    (Q := fun r => (¬w.binding.Skips ignoreNull row → f.kind.Suits f.nullable (view i r)) ∧
      ∀ j, j ≠ i → view j r = view j record)
    (fun r h => ⟨fun _ => h.1, h.2⟩) (fun _ h => h)
  unfold Writer.apply
  cases ignoreNull with
  | false => exact hwrite
  | true =>
    have hask : (row.askNull w.binding.column.index).Meets
        (· = row.isNull w.binding.column.index) (w.binding.Fails row) :=
      Reading.meets_of_ok rfl rfl
    rw [if_pos rfl]
    refine hask.bind fun isNull hnull => ?_
    cases isNull with
    | false => exact hwrite
    | true =>
      refine Reading.meets_of_ok rfl ⟨fun hskip => absurd ⟨rfl, hnull.symm⟩ hskip, ?_⟩
      exact fun _ _ => rfl

/-- One field after the other: what was written before is kept. -/
theorem applyAll_meets (ht : t.Converts view) (hrow : row.Fits columns) (ignoreNull : Bool)
    (ws : List (Writer ρ)) (hs : ∀ w ∈ ws, ∃ i f, w.Sound t columns i f)
    (hd : (ws.map fun w => w.binding.destination).Nodup) (record : ρ) :
    (Writer.applyAll ignoreNull ws row record).Meets
      (fun r => (∀ w ∈ ws, ∀ i f, w.Sound t columns i f → ¬w.binding.Skips ignoreNull row →
          f.kind.Suits f.nullable (view i r)) ∧
        ∀ j, .field j ∉ ws.map (fun w => w.binding.destination) → view j r = view j record)
      (fun e => ∃ w ∈ ws, w.binding.Fails row e) := by
  induction ws generalizing record with
  | nil => exact Reading.meets_of_ok rfl ⟨fun w hw => absurd hw List.not_mem_nil, fun _ _ => rfl⟩
  | cons w rest ih =>
    rw [List.map_cons, List.nodup_cons] at hd
    obtain ⟨i, f, hw⟩ := hs w List.mem_cons_self
    have hhead := (hw.apply_meets ht hrow ignoreNull record).mono
      (F := fun e => ∃ w' ∈ w :: rest, w'.binding.Fails row e)
      (fun _ h => h) (fun e he => ⟨w, List.mem_cons_self, he⟩)
    refine hhead.bind fun r hr => ?_
    have htail := ih (fun w' h' => hs w' (List.mem_cons_of_mem _ h')) hd.2 r
    refine htail.mono (fun r' hr' => ⟨?_, fun j hj => ?_⟩) fun e he => ?_
    · intro w' hw' i' f' hsound hskip
      rcases List.mem_cons.1 hw' with rfl | hw'
      · -- the writers behind this one write other fields
        have hi : i' = i := Destination.field.inj (hsound.destination.symm.trans hw.destination)
        subst hi
        have hf : f' = f := Option.some.inj (hsound.field.symm.trans hw.field)
        subst hf
        rw [hr'.2 i' (hw.destination ▸ hd.1)]
        exact hr.1 hskip
      · exact hr'.1 w' hw' i' f' hsound hskip
    · rw [List.map_cons, List.mem_cons, not_or] at hj
      have hji : j ≠ i := by
        rintro rfl
        exact hj.1 hw.destination.symm
      rw [hr'.2 j hj.2, hr.2 j hji]
    · obtain ⟨w', hw', he⟩ := he
      exact ⟨w', List.mem_cons_of_mem _ hw', he⟩

end

/-! ## Plans without handlers -/

theorem Resolves.handler_eq_none {t : Target ρ} {m : Option ResultMap} {c : Column}
    {k : Resolution}
    (h : ∀ map, m = some map → ∀ p ∈ map.properties.items, p.handler = none)
    (hk : Resolves t m c k) : k.handler = none := by
  cases hk with
  | configured hc =>
    obtain ⟨⟨map, hm, hp⟩, -⟩ := hc
    exact h map hm _ hp
  | declared => rfl
  | name => rfl

namespace Plan

variable {t : Target ρ} {columns : List Column} {m : Option ResultMap} {r : Registry} {p : Plan}

theorem handler_of_mem_standing (h : Handlerless t m r) {arguments : List Binding} {x : Claim}
    {f : Field ρ} (hx : x ∈ (standing t m arguments columns).1)
    (hf : t.field? x.field = some f) : (x.handler <|> f.handler) = none := by
  obtain ⟨k, hk, hkx⟩ := resolve_eq_some_iff.1 (resolve_of_mem_standing hx)
  have hx : x.handler = none := by
    rw [← hkx]
    exact hk.handler_eq_none h.configured
  rw [hx, h.declared _ f hf]
  rfl

theorem chooseConstruction_of_blank (h : t.blank.isSome = true) :
    chooseConstruction t none = .ok .blank := by
  unfold chooseConstruction
  simp only [h, if_true]

/-- Planning without a constructor map and without handlers succeeds. -/
theorem exists_isPlan (columns : List Column) (hblank : t.blank.isSome = true)
    (hm : m.bind ResultMap.arguments = none) (h : Handlerless t m r) :
    ∃ p, IsPlan t columns m r p := by
  have hfields : ∀ d ∈ (standing t m [] columns).1.filterMap (Draft.ofClaim? t),
      ∃ b, Draft.bind r d = .ok b := by
    intro d hd
    obtain ⟨x, hx, hxd⟩ := List.mem_filterMap.1 hd
    obtain ⟨f, hf, rfl⟩ := Option.map_eq_some_iff.1 hxd
    obtain ⟨c, hc, -⟩ := Coercion.resolve_plain h.registered f.kind f.nullable x.column.kind
    refine ⟨⟨.field x.field, f.name, x.column, f.kind, f.nullable, c⟩, ?_⟩
    rw [Draft.bind_eq_ok_iff]
    refine ⟨?_, rfl, rfl, rfl, rfl, rfl⟩
    show (Coercion.resolve r f.kind f.nullable x.column.kind (x.handler <|> f.handler)).1 = .ok c
    rw [handler_of_mem_standing h hx hf]
    exact hc
  obtain ⟨fields, hfields⟩ := exists_map_ok hfields
  refine ⟨⟨.blank, [], fields, (standing t m [] columns).2.mergeSort
    fun a b => decide (a.index ≤ b.index)⟩, ?_, ?_, hfields, rfl⟩
  · rw [hm]
    exact chooseConstruction_of_blank hblank
  · rw [hm]
    rfl

/-- The fields of a plan without handlers have sound writers. -/
theorem IsPlan.exists_writer (hp : IsPlan t columns m r p) (h : Handlerless t m r)
    (hk : ∀ i f e, t.field? i = some f → f.kind = .enum e → e.variants ≠ []) {b : Binding}
    (hb : b ∈ p.fields) :
    ∃ w, writer t b = .ok w ∧ w.binding = b ∧ ∃ i f, w.Sound t columns i f := by
  obtain ⟨x, hx, f, hb⟩ := hp.exists_feeds hb
  obtain ⟨setter, hset⟩ := Option.isSome_iff_exists.1 hb.writable
  have hres := hb.coercion
  rw [handler_of_mem_standing h hx hb.field] at hres
  obtain ⟨c, hc, hplain⟩ := Coercion.resolve_plain h.registered f.kind f.nullable x.column.kind
  rw [hc, Except.ok.injEq] at hres
  refine ⟨⟨b, setter⟩, ?_, rfl, x.field, f, hb.destination, hb.field, hset, hb.kind, hb.nullable,
    ?_, ?_, fun e he => hk _ f e hb.field he⟩
  · simp only [writer, hb.destination, hb.field, hset]
  · rw [hb.column]
    exact column_of_mem_standing hx
  · rw [hb.column, ← hres]
    exact hplain

/-- The writers of a plan without handlers are sound, one for each field. -/
theorem IsPlan.exists_writers (hp : IsPlan t columns m r p) (h : Handlerless t m r)
    (hk : ∀ i f e, t.field? i = some f → f.kind = .enum e → e.variants ≠ []) :
    ∃ ws, writers t p.fields = .ok ws ∧ ws.map Writer.binding = p.fields ∧
      ∀ w ∈ ws, ∃ i f, w.Sound t columns i f := by
  have hall : ∀ b ∈ p.fields, ∃ w, writer t b = .ok w := by
    intro b hb
    obtain ⟨w, hw, -⟩ := hp.exists_writer h hk hb
    exact ⟨w, hw⟩
  obtain ⟨ws, hws⟩ := exists_map_ok hall
  refine ⟨ws, by rw [writers_eq_mapM, mapM_eq_ok_iff]; exact hws, ?_, fun w hw => ?_⟩
  · rw [map_eq_of_map_ok hws (k := id) fun b w hw => binding_of_writer hw, List.map_id]
  · obtain ⟨b, hb, hbw⟩ := exists_of_mem_of_map_ok hws hw
    obtain ⟨w', hw', -, hsound⟩ := hp.exists_writer h hk hb
    rw [hbw, Except.ok.injEq] at hw'
    rw [hw']
    exact hsound

end Plan

/-! ## Top theorems -/

/-- Without a constructor map and without handlers a mapper is always built.  From a row whose
cells are of their columns' kinds it gives a record in which every field that it wrote holds what
the field may hold, or a conversion fails while a column is read.  With tracking on this takes a
hook that keeps what fields may hold. -/
theorem map_meets_of_no_handlers (t : Target ρ) (view : Nat → ρ → Value)
    (columns : List Column) (m : Option ResultMap) (r : Registry) (key : CacheKey)
    (settings : Settings) (tracking : Bool) (hblank : t.blank.isSome = true)
    (ht : t.Converts view)
    (hhook : tracking = true → ∀ hook, t.trackingHook = some hook → t.HookSuits view hook)
    (hk : ∀ i f e, t.field? i = some f → f.kind = .enum e → e.variants ≠ [])
    (hm : m.bind ResultMap.arguments = none) (h : Handlerless t m r) :
    ∃ p mapper events, (Plan.build t columns m r).1 = .ok p ∧
      p.synthesize key t settings tracking = .ok (mapper, events) ∧
      ∀ row : Row, row.Fits columns → (mapper.map row).Meets
        (fun record => ∀ b ∈ p.fields, ¬b.Skips settings.ignoreNull row →
          ∃ i f, b.destination = .field i ∧ t.field? i = some f ∧
            f.kind.Suits f.nullable (view i record))
        (fun e => ∃ b ∈ p.fields, b.Fails row e) := by
  obtain ⟨p, hp⟩ := Plan.exists_isPlan columns hblank hm h
  have hbuild := Plan.build_fst_eq_ok_iff.2 hp
  obtain ⟨record, hrecord⟩ := Option.isSome_iff_exists.1 hblank
  have hconstruction : p.construction = .blank := by
    have hc := hp.construction
    rw [hm, Plan.chooseConstruction_of_blank hblank] at hc
    exact (Except.ok.inj hc).symm
  obtain ⟨ws, hws, hbindings, hsound⟩ := hp.exists_writers h hk
  obtain ⟨hook, events, hrun, hmapper⟩ :=
    Plan.synthesize_of_blank key settings tracking hconstruction hrecord hws
  refine ⟨p, _, events, hbuild, hmapper, fun row hrow => ?_⟩
  have hd : (ws.map fun w => w.binding.destination).Nodup := by
    have hd := hp.nodup_destinations
    rw [← hbindings, List.map_map] at hd
    exact hd
  have hcreate : ((Creation.blank record).create row).Meets (· = record)
      (fun e => ∃ b ∈ p.fields, b.Fails row e) := Reading.meets_of_ok rfl rfl
  refine hcreate.bind fun start hstart => ?_
  subst hstart
  have hall := applyAll_meets ht hrow settings.ignoreNull ws hsound hd start
  refine (hall.mono (fun _ hr => hr.1) fun e he => ?_).bind fun written hwritten => ?_
  · obtain ⟨w, hw, he⟩ := he
    exact ⟨w.binding, hbindings ▸ List.mem_map_of_mem hw, he⟩
  · refine Reading.meets_of_ok rfl fun b hb hskip => ?_
    rw [← hbindings] at hb
    obtain ⟨w, hw, rfl⟩ := List.mem_map.1 hb
    obtain ⟨i, f, hwf⟩ := hsound w hw
    refine ⟨i, f, hwf.destination, hwf.field, ?_⟩
    have hsuits := hwritten w hw i f hwf hskip
    cases hook with
    | none => exact hsuits
    | some run =>
      obtain ⟨htracking, hrun⟩ := hrun run rfl
      exact hhook htracking run hrun i f written hwf.field hsuits

/-- Switches: whether they are on, and in which mode, if that is known. -/
def switchSpec : RecordSpec where
  name := "Switch"
  blank := some []
  hook := true
  fields := [{ name := "on", kind := .bool, storage := .kind .bool },
    { name := "mode", kind := .enum ⟨"Mode", ["slow", "fast"]⟩, nullable := true,
      storage := .kind (.enum ⟨"Mode", ["slow", "fast"]⟩) }]

def switchColumns : List Column := Column.number [("on", .text), ("mode", .text)]

def switchRow : Row := ⟨switchColumns, some [.text "true", .null]⟩

theorem fits_switchRow : switchRow.Fits switchColumns := by
  intro c hc
  rcases List.mem_cons.1 hc with rfl | hc
  · exact ⟨_, rfl, .inr trivial⟩
  · rw [List.mem_singleton.1 hc]
    exact ⟨_, rfl, .inl rfl⟩

theorem field?_switchSpec {i : Nat} {f : Field Record} (h : switchSpec.target.field? i = some f) :
    ∃ spec ∈ switchSpec.fields, f = spec.field := by
  obtain ⟨spec, hs, rfl⟩ := List.mem_map.1 (Roster.mem_of_mem_ofList (List.mem_of_getElem? h))
  exact ⟨spec, hs, rfl⟩

theorem handlerless_switchSpec : Handlerless switchSpec.target none {} := by
  refine ⟨fun _ hm => absurd hm nofun, fun i f hf => ?_, Registry.Extends.refl _ _⟩
  obtain ⟨spec, hs, rfl⟩ := field?_switchSpec hf
  exact (by decide : ∀ spec ∈ switchSpec.fields, spec.handler = none) spec hs

theorem map_switchRow_meets :
    switchRow.Fits switchColumns ∧
    ∃ p mapper events, (Plan.build switchSpec.target switchColumns none {}).1 = .ok p ∧
      p.synthesize ⟨"Index:0_Switch.all", false, true⟩ switchSpec.target {} true =
        .ok (mapper, events) ∧
      (mapper.map switchRow).Meets
        (fun record => ∀ b ∈ p.fields, ¬b.Skips false switchRow →
          ∃ i f, b.destination = .field i ∧ switchSpec.target.field? i = some f ∧
            f.kind.Suits f.nullable (switchSpec.view i record))
        (fun e => ∃ b ∈ p.fields, b.Fails switchRow e) := by
  have hk : ∀ i f e, switchSpec.target.field? i = some f → f.kind = .enum e →
      e.variants ≠ [] := by
    intro i f e hf he
    obtain ⟨spec, hs, rfl⟩ := field?_switchSpec hf
    rcases List.mem_cons.1 hs with rfl | hs
    · cases he
    · cases List.mem_singleton.1 hs
      cases he
      decide
  obtain ⟨p, mapper, events, hbuild, hmapper, hmap⟩ := map_meets_of_no_handlers
    switchSpec.target switchSpec.view switchColumns none {} ⟨"Index:0_Switch.all", false, true⟩
    {} true rfl (switchSpec.converts (by decide)) (fun _ _ => switchSpec.hookSuits) hk rfl
    handlerless_switchSpec
  exact ⟨fits_switchRow, p, mapper, events, hbuild, hmapper, hmap switchRow fits_switchRow⟩

end Hydration
