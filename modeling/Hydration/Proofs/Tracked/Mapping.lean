import Hydration.Proofs.Mapper.Synthesis
import Hydration.Proofs.Reading
import Hydration.Proofs.Tracked.Mirror

/-!
# Mapping wrapped records

A mapper for the mirror of a target does to the record inside what the mapper for the target
does: it looks at the same cells, fails with the same errors, and gives the same record with
something around it.

    (w.lift p).apply ignoreNull row (wrap r) = (w.apply ignoreNull row r).map wrap    (apply_lift)
    (recipe.lift p wrap hook).map row
      = (recipe.map row).map fun r => (hook.getD id) (wrap r)                           (map_lift)

For tracked records tracking is on in the end when it was asked for and every field that can be
written can be tracked, and no change is logged (tracked_mirrors).
-/

namespace Hydration

variable {ρ τ : Type}

/-! ## Algorithm -/

/-- The setter of a part, as a setter of the whole. -/
def Setter.lift (p : Part τ ρ) (setter : Setter ρ) : Setter τ := fun v record =>
  ((setter v (p.get record)).1, p.put (setter v (p.get record)).2 record)

def Writer.lift (p : Part τ ρ) (w : Writer ρ) : Writer τ := ⟨w.binding, Setter.lift p w.setter⟩

def Creation.lift (wrap : ρ → τ) : Creation ρ → Creation τ
  | blank record => .blank (wrap record)
  | construct arguments build => .construct arguments fun values => (build values).map wrap

/-- The recipe for wrapped records, with a hook of its own. -/
def Recipe.lift (p : Part τ ρ) (wrap : ρ → τ) (hook : Option (τ → τ)) (recipe : Recipe ρ) :
    Recipe τ :=
  ⟨recipe.creation.lift wrap, recipe.writers.map (.lift p), recipe.ignoreNull, hook⟩

/-! ## Lemmas -/

theorem Creation.create_lift (wrap : ρ → τ) (c : Creation ρ) (row : Row) :
    (c.lift wrap).create row = (c.create row).map wrap := by
  cases c with
  | blank record => rfl
  | construct arguments build =>
    rw [create, Reading.map_bind]
    rfl

/-- Every field that can be written can be tracked. -/
theorem Target.untrackable?_eq_none_iff {t : Target ρ} : t.untrackable? = none ↔
    ∀ f ∈ t.fields.items, f.isWritable = true → f.trackable = true := by
  rw [untrackable?, List.find?_eq_none]
  refine forall₂_congr fun f _ => ?_
  cases f.isWritable <;> cases f.trackable <;> decide

namespace Target.Mirrors

variable {u : Target τ} {t : Target ρ} {p : Part τ ρ} {wrap : ρ → τ}

/-! ## Rows -/

theorem write_lift (h : u.Mirrors t p wrap) (w : Writer ρ) (row : Row) (record : ρ) :
    (w.lift p).write row (wrap record) = (w.write row record).map wrap := by
  rw [Writer.write, Writer.write, Reading.map_bind]
  congr 1
  funext v
  simp only [Writer.lift, Setter.lift, h.get_wrap, h.put_wrap]
  rcases w.setter v record with ⟨_ | ⟨⟩, record'⟩ <;> rfl

theorem apply_lift (h : u.Mirrors t p wrap) (ignoreNull : Bool) (w : Writer ρ) (row : Row)
    (record : ρ) : (w.lift p).apply ignoreNull row (wrap record) =
      (w.apply ignoreNull row record).map wrap := by
  cases ignoreNull with
  | false => exact h.write_lift w row record
  | true =>
    rw [Writer.apply, Writer.apply, if_pos rfl, if_pos rfl, Reading.map_bind]
    congr 1
    funext isNull
    cases isNull with
    | true => rfl
    | false => exact h.write_lift w row record

/-- One field after the other, each in the record inside. -/
theorem applyAll_lift (h : u.Mirrors t p wrap) (ignoreNull : Bool) (ws : List (Writer ρ))
    (row : Row) (record : ρ) : Writer.applyAll ignoreNull (ws.map (.lift p)) row (wrap record) =
      (Writer.applyAll ignoreNull ws row record).map wrap := by
  induction ws generalizing record with
  | nil => rfl
  | cons w rest ih =>
    rw [List.map_cons, Writer.applyAll, h.apply_lift, Reading.bind_map, Writer.applyAll,
      Reading.map_bind]
    congr 1
    funext record'
    exact ih record'

theorem map_lift (h : u.Mirrors t p wrap) (hook : Option (τ → τ)) (recipe : Recipe ρ)
    (hrecipe : recipe.hook = none) (row : Row) : (recipe.lift p wrap hook).map row =
      (recipe.map row).map fun record => (hook.getD id) (wrap record) := by
  unfold Recipe.map
  rw [hrecipe, Recipe.lift]
  simp only [Creation.create_lift, h.applyAll_lift, Reading.bind_map, Reading.map_bind]
  cases hook <;> rfl

/-! ## Synthesis -/

variable {f : String → String} (h : u.Mirrors t p wrap) (hname : u.name = f t.name)
include h hname

theorem creation_eq (plan : Plan) : plan.creation u =
    ((plan.creation t).map (Creation.lift wrap)).mapError (Error.retarget f) := by
  unfold Plan.creation
  rw [hname]
  cases plan.construction with
  | blank =>
    simp only [h.blank]
    cases t.blank <;> rfl
  | constructor index =>
    simp only [h.constructors, List.getElem?_map]
    cases t.constructors[index]? <;> rfl

theorem writer_eq (b : Binding) : Plan.writer u b =
    ((Plan.writer t b).map (Writer.lift p)).mapError (Error.retarget f) := by
  unfold Plan.writer
  rw [hname]
  cases b.destination with
  | argument position => rfl
  | field index =>
    simp only [h.field?_eq]
    cases t.field? index with
    | none => rfl
    | some g =>
      simp only [Option.map_some, Field.lift]
      cases g.setter <;> rfl

theorem writers_eq (bs : List Binding) : Plan.writers u bs =
    ((Plan.writers t bs).map (List.map (Writer.lift p))).mapError (Error.retarget f) := by
  induction bs with
  | nil => rfl
  | cons b rest ih =>
    unfold Plan.writers
    rw [h.writer_eq hname, ih]
    cases Plan.writer t b with
    | error e => rfl
    | ok w => cases Plan.writers t rest <;> rfl

/-- The recipe for wrapped records is that for the records, with a hook of its own. -/
theorem recipe_eq (plan : Plan) (key key' : CacheKey) (settings : Settings) (tracking : Bool) :
    plan.recipe key' u settings tracking =
      ((plan.recipe key t settings false).map fun x =>
        (x.1.lift p wrap (if tracking then (Plan.trackingHook key' u).1 else none),
          if tracking then (Plan.trackingHook key' u).2 else [])).mapError (Error.retarget f) := by
  unfold Plan.recipe
  rw [h.creation_eq hname, h.writers_eq hname]
  cases plan.creation t with
  | error e => rfl
  | ok c =>
    cases Plan.writers t plan.fields with
    | error e => rfl
    | ok ws => cases tracking <;> rfl

omit hname in
/-- A plan for the records has mappers of both kinds of records, and they agree on every row. -/
theorem exists_synthesize {columns : List Column} {m : Option ResultMap} {r : Registry}
    {plan : Plan} (hp : Plan.IsPlan t columns m r plan) (key key' : CacheKey) (settings : Settings)
    (tracking : Bool) :
    ∃ base mirror events, plan.synthesize key t settings false = .ok (base, []) ∧
      plan.synthesize key' u settings tracking = .ok (mirror, events) ∧
      ∀ row, mirror.map row = (base.map row).map fun record =>
        ((if tracking then (Plan.trackingHook key' u).1 else none).getD id) (wrap record) := by
  obtain ⟨c, hc⟩ := hp.exists_creation
  obtain ⟨ws, hws⟩ := hp.exists_writers_eq
  have hbase : plan.recipe key t settings false =
      .ok (⟨c, ws, settings.ignoreNull, none⟩, []) := by
    simp only [Plan.recipe, hc, hws, Bool.false_eq_true, if_false]
  have hmirror := h.recipe_eq (f := fun _ => u.name) rfl plan key key' settings tracking
  rw [hbase] at hmirror
  exact ⟨_, _, _, by rw [Plan.synthesize, hbase]; rfl, by rw [Plan.synthesize, hmirror]; rfl,
    fun row => h.map_lift _ _ rfl row⟩

end Target.Mirrors

/-- A mapped record before and after its hook: nothing is logged, and tracking is on when it was
asked for and no field stands in its way. -/
theorem Tracked.hook_of (key : CacheKey) (t : Target ρ) (tracking : Bool) (record : ρ) :
    ((if tracking then (Plan.trackingHook key t.tracked).1 else none).getD id) (Tracked.of record) =
      ⟨record, tracking && t.untrackable?.isNone, [], none⟩ := by
  unfold Plan.trackingHook
  rw [t.mirrors_tracked.untrackable?_eq]
  cases tracking <;> cases t.untrackable? <;> rfl

/-! ## Top theorems -/

/-- Planning for tracked records gives the plan for the records, or fails with the same fault and
the other name.  The mappers of a plan look at the same cells of every row, and give the same
record or fail with the same error; no change is logged, and tracking is on when it was asked for
and every field that can be written can be tracked. -/
theorem tracked_mirrors (t : Target ρ) (columns : List Column) (m : Option ResultMap)
    (r : Registry) :
    Plan.build t.tracked columns m r =
        Plan.renamed (fun name => "Tracked<" ++ name ++ ">") (Plan.build t columns m r) ∧
      ∀ plan, (Plan.build t columns m r).1 = .ok plan →
        ∀ (key key' : CacheKey) (settings : Settings) (tracking : Bool),
          ∃ base tracked events, plan.synthesize key t settings false = .ok (base, []) ∧
            plan.synthesize key' t.tracked settings tracking = .ok (tracked, events) ∧
            ∀ row, (tracked.map row).trail = (base.map row).trail ∧
              (tracked.map row).result.map Tracked.inner = (base.map row).result ∧
              ∀ x, (tracked.map row).result = .ok x → x.changed = [] ∧
                (x.tracking = true ↔ tracking = true ∧
                  ∀ f ∈ t.fields.items, f.isWritable = true → f.trackable = true) := by
  refine ⟨t.mirrors_tracked.build_eq rfl columns m r, ?_⟩
  intro plan hplan key key' settings tracking
  obtain ⟨base, tracked, events, hbase, htracked, hmap⟩ :=
    t.mirrors_tracked.exists_synthesize (Plan.build_fst_eq_ok_iff.1 hplan) key key' settings
      tracking
  simp only [Tracked.hook_of] at hmap
  refine ⟨base, tracked, events, hbase, htracked, fun row => ?_⟩
  rw [hmap, ← Target.untrackable?_eq_none_iff]
  refine ⟨rfl, ?_, fun x hx => ?_⟩
  · rw [Reading.map]
    cases (base.map row).result <;> rfl
  · obtain ⟨record, -, rfl⟩ := Traversal.map_eq_ok_iff.1 hx
    exact ⟨rfl, by rw [Bool.and_eq_true, Option.isNone_iff_eq_none]⟩

/-- Records of one cell, which can be set without being observed. -/
def unseenTarget : Target Value where
  name := "Cell"
  fields := Roster.empty.put
    { name := "x", kind := .bool, trackable := false, setter := some fun v _ => (.ok (), v) }
  blank := some .null

/-- The cell is mapped as asked for, but it is not tracked. -/
theorem tracked_mirrors_unseenTarget :
    ∃ plan base tracked events,
      (Plan.build unseenTarget [⟨0, "X", .bool⟩] none {}).1 = .ok plan ∧
        plan.synthesize ⟨"Index:0_x", false, false⟩ unseenTarget {} false = .ok (base, []) ∧
        plan.synthesize ⟨"Index:0_x", false, true⟩ unseenTarget.tracked {} true =
          .ok (tracked, events) ∧
        ∀ row, (tracked.map row).result.map Tracked.inner = (base.map row).result ∧
          ∀ x, (tracked.map row).result = .ok x → x.tracking = false := by
  have hplan : ∃ plan, (Plan.build unseenTarget [⟨0, "X", .bool⟩] none {}).1 = .ok plan :=
    ⟨_, rfl⟩
  obtain ⟨plan, hplan⟩ := hplan
  obtain ⟨base, tracked, events, hbase, htracked, hmap⟩ :=
    (tracked_mirrors unseenTarget [⟨0, "X", .bool⟩] none {}).2 plan hplan
      ⟨"Index:0_x", false, false⟩ ⟨"Index:0_x", false, true⟩ {} true
  refine ⟨plan, base, tracked, events, hplan, hbase, htracked, fun row => ?_⟩
  obtain ⟨-, hinner, hx⟩ := hmap row
  refine ⟨hinner, fun x hmapped => Bool.eq_false_iff.2 fun htracking => ?_⟩
  exact absurd (((hx x hmapped).2.1 htracking).2 _ (List.mem_singleton_self _) rfl) nofun

end Hydration
