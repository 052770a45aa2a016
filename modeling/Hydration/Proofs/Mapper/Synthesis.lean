import Hydration.Mapper
import Hydration.Proofs.Plan.Standing
import Hydration.Proofs.Reading

/-!
# Mappers from plans

Synthesis finds the writer of every field binding; the first that cannot be found ends it.  For
a plan that was built from the target all of them are found, and so is the constructor.

    mapping a row makes a record and writes its fields            (Recipe.result_steps)
    writers t bs = bs.mapM (writer t)                             (writers_eq_mapM)
    writer t b = .ok w  ↔  w writes b's field by its setter       (writer_eq_ok_iff)
    the mapper of a plan runs its recipe                          (synthesize_of)
    IsPlan.exists_creation, IsPlan.exists_writers_eq, IsPlan.exists_recipe
-/

namespace Hydration

open Traversal

variable {ρ : Type}

/-! ## What a recipe does -/

theorem Binding.result_read (b : Binding) (row : Row) :
    (b.read row).result =
      (b.coercion.read row b.column.index b.kind b.nullable).result.mapError fun e =>
        e.context (.of (.readingColumn b.column.name b.name)) := rfl

/-- The arguments are read one after the other. -/
theorem result_readAll (bs : List Binding) (row : Row) :
    (readAll bs row).result = bs.mapM fun b => (b.read row).result := by
  induction bs with
  | nil => rfl
  | cons b rest ih =>
    rw [readAll, Reading.result_bind, List.mapM_cons, ← ih]
    cases (b.read row).result with
    | error e => rfl
    | ok v =>
      show ((readAll rest row).bind _).result = _
      rw [Reading.result_bind]
      rfl

/-- A record is made, fields are written, and tracking is turned on. -/
theorem Recipe.result_steps (recipe : Recipe ρ) (row : Row) :
    (recipe.map row).result = (recipe.creation.create row).result.bind fun start =>
      (Writer.applyAll recipe.ignoreNull recipe.writers row start).result.map
        (recipe.hook.getD id) := by
  rw [Recipe.map, Reading.result_bind]
  refine congrArg _ (funext fun start => ?_)
  rw [Reading.result_bind]
  cases (Writer.applyAll recipe.ignoreNull recipe.writers row start).result with
  | error e => rfl
  | ok record => cases recipe.hook <;> rfl

namespace Plan

variable {t : Target ρ} {columns : List Column} {m : Option ResultMap} {r : Registry} {p : Plan}

theorem writers_eq_mapM (t : Target ρ) (bs : List Binding) : writers t bs = bs.mapM (writer t) := by
  induction bs with
  | nil => rfl
  | cons b rest ih =>
    unfold writers
    cases hb : writer t b with
    | error e => rw [mapM_cons_of_error hb]
    | ok w => rw [mapM_cons_of_ok hb, ih]

/-- A field has a writer when it exists and can be written. -/
theorem writer_eq_ok_iff {b : Binding} {w : Writer ρ} :
    writer t b = .ok w ↔ w.binding = b ∧ ∃ i f, b.destination = .field i ∧
      t.field? i = some f ∧ f.setter = some w.setter := by
  unfold writer
  constructor
  · intro h
    split at h
    · cases h
    · rename_i i hi
      split at h
      · cases h
      · rename_i f hf
        split at h
        · rename_i s hs
          cases h
          exact ⟨rfl, i, f, hi, hf, hs⟩
        · cases h
  · rintro ⟨rfl, i, f, hi, hf, hs⟩
    simp only [hi, hf, hs]

theorem binding_of_writer {b : Binding} {w : Writer ρ} (h : writer t b = .ok w) :
    w.binding = b :=
  (writer_eq_ok_iff.1 h).1

/-- The only hook that is run is the target's. -/
theorem trackingHook_of_fst {key : CacheKey} {run : ρ → ρ}
    (h : (trackingHook key t).1 = some run) : t.trackingHook = some run := by
  unfold trackingHook at h
  cases hk : t.trackingHook with
  | none =>
    rw [hk] at h
    cases h
  | some hook =>
    rw [hk] at h
    simp only at h
    split at h
    · cases h
    · exact h

/-- The hook that the mappers of a target run. -/
def hookFor (key : CacheKey) (t : Target ρ) (tracking : Bool) : Option (ρ → ρ) :=
  if tracking then (trackingHook key t).1 else none

/-- A hook is run only where tracking is asked for. -/
theorem trackingHook_of_hookFor {key : CacheKey} {tracking : Bool} {run : ρ → ρ}
    (h : hookFor key t tracking = some run) : tracking = true ∧ t.trackingHook = some run := by
  cases tracking with
  | false => cases h
  | true => exact ⟨rfl, trackingHook_of_fst h⟩

/-- The mapper of a plan whose construction and whose fields were found. -/
theorem synthesize_of {creation : Creation ρ} {ws : List (Writer ρ)} (key : CacheKey)
    (settings : Settings) (tracking : Bool) (hc : p.creation t = .ok creation)
    (hw : writers t p.fields = .ok ws) :
    ∃ events, p.synthesize key t settings tracking =
      .ok (⟨key, Recipe.map ⟨creation, ws, settings.ignoreNull, hookFor key t tracking⟩⟩,
        events) := by
  refine ⟨if tracking then (trackingHook key t).2 else [], ?_⟩
  unfold synthesize recipe hookFor
  rw [hc, hw]
  cases tracking <;> rfl

/-- A plan that has a mapper has its construction and its fields. -/
theorem exists_of_synthesize {key : CacheKey} {settings : Settings} {tracking : Bool}
    {x : Mapper ρ × List Event} (h : p.synthesize key t settings tracking = .ok x) :
    ∃ creation ws, p.creation t = .ok creation ∧ writers t p.fields = .ok ws := by
  unfold synthesize recipe at h
  cases hc : p.creation t with
  | error e =>
    rw [hc] at h
    cases h
  | ok creation =>
    cases hw : writers t p.fields with
    | error e =>
      rw [hc, hw] at h
      cases h
    | ok ws => exact ⟨creation, ws, rfl, rfl⟩

/-- The mapper of a plan whose records are made without arguments. -/
theorem synthesize_of_blank {record : ρ} {ws : List (Writer ρ)} (key : CacheKey)
    (settings : Settings) (tracking : Bool) (hc : p.construction = .blank)
    (hb : t.blank = some record) (hw : writers t p.fields = .ok ws) :
    ∃ hook events, (∀ run, hook = some run → tracking = true ∧ t.trackingHook = some run) ∧
      p.synthesize key t settings tracking =
        .ok (⟨key, Recipe.map ⟨.blank record, ws, settings.ignoreNull, hook⟩⟩, events) := by
  have hcreation : p.creation t = .ok (.blank record) := by simp only [creation, hc, hb]
  obtain ⟨events, h⟩ := synthesize_of key settings tracking hcreation hw
  exact ⟨_, events, fun run => trackingHook_of_hookFor, h⟩

/-! ## Plans that were built -/

/-- The construction of a plan is one that its target has. -/
theorem IsPlan.exists_creation (hp : IsPlan t columns m r p) :
    ∃ creation, p.creation t = .ok creation := by
  have hc := hp.construction
  unfold chooseConstruction at hc
  unfold creation
  split at hc
  · split at hc
    · rename_i index hindex
      have hlt := (List.findIdx?_eq_some_iff_getElem.1 hindex).1
      rw [← Except.ok.inj hc]
      exact ⟨.construct p.arguments t.constructors[index].build,
        by simp only [List.getElem?_eq_getElem hlt]⟩
    · cases hc
  · split at hc
    · rename_i hblank
      obtain ⟨record, hrecord⟩ := Option.isSome_iff_exists.1 hblank
      rw [← Except.ok.inj hc]
      exact ⟨.blank record, by simp only [hrecord]⟩
    · cases hc

/-- The fields that a plan binds can be written. -/
theorem IsPlan.exists_writers_eq (hp : IsPlan t columns m r p) :
    ∃ ws, writers t p.fields = .ok ws := by
  have hall : ∀ b ∈ p.fields, ∃ w, writer t b = .ok w := by
    intro b hb
    obtain ⟨x, -, f, hfeeds⟩ := hp.exists_feeds hb
    obtain ⟨setter, hsetter⟩ := Option.isSome_iff_exists.1 hfeeds.writable
    exact ⟨⟨b, setter⟩, by simp only [writer, hfeeds.destination, hfeeds.field, hsetter]⟩
  obtain ⟨ws, hws⟩ := exists_map_ok hall
  exact ⟨ws, by rw [writers_eq_mapM, mapM_eq_ok_iff]; exact hws⟩

/-- A built plan has a mapper, which runs the recipe of its construction and its fields. -/
theorem IsPlan.exists_recipe (hp : IsPlan t columns m r p) (key : CacheKey) (settings : Settings)
    (tracking : Bool) :
    ∃ creation ws events, p.creation t = .ok creation ∧
      p.fields.map (writer t) = ws.map .ok ∧
      p.synthesize key t settings tracking =
        .ok (⟨key, Recipe.map ⟨creation, ws, settings.ignoreNull, hookFor key t tracking⟩⟩,
          events) := by
  obtain ⟨creation, hc⟩ := hp.exists_creation
  obtain ⟨ws, hws⟩ := hp.exists_writers_eq
  obtain ⟨events, h⟩ := synthesize_of key settings tracking hc hws
  rw [writers_eq_mapM, mapM_eq_ok_iff] at hws
  exact ⟨creation, ws, events, hc, hws, h⟩

end Plan

end Hydration
