import Hydration.Proofs.Mapper.Synthesis
import Hydration.Proofs.Plan.Resolution

/-!
# Plans that are built have mappers

The planner and the synthesis of mappers are written apart.  What one gives the other can do: a
plan names a constructor that its target has, one binding for each of its arguments and in their
order, and fields that exist and can be written.  So synthesis never fails, and every row calls the
constructor with as many values as it takes.

    p.Constructs t arguments make      how records are made, by the configured arguments
    mapping a row is make, and then the writers of p.fields, one after the other
                                                                     (synthesizes_of_build)
-/

namespace Hydration

open Text Traversal

variable {ρ : Type}

namespace Plan

/-! ## Algorithm -/

/-- What the bindings of the arguments read, in their order. -/
def argumentValues (p : Plan) (row : Row) : Except Error (List Value) :=
  p.arguments.mapM fun b => (b.read row).result

/-- `make` is how the plan makes the record of a row, as the configured arguments say. -/
inductive Constructs (t : Target ρ) (p : Plan) :
    Option (List Argument) → (Row → Except Error ρ) → Prop
  /-- Without arguments, by the constructor that has none. -/
  | blank {record : ρ} (hblank : t.blank = some record) (construction : p.construction = .blank)
      (arguments : p.arguments = []) :
    Constructs t p none fun _ => .ok record
  /-- By the first constructor that takes such arguments: it is called with one value each. -/
  | constructor {args : List Argument} {i : Nat} {c : Constructor ρ}
      (first : FirstAt (fun c : Constructor ρ => c.kinds = args.map Argument.kind)
        t.constructors i)
      (found : t.constructors[i]? = some c)
      (lookup : t.constructor? (args.map Argument.kind) = some c)
      (construction : p.construction = .constructor i)
      (positions : p.arguments.map Binding.destination =
        (List.range c.kinds.length).map .argument)
      (kinds : p.arguments.map Binding.kind = c.kinds)
      (count : ∀ row values, p.argumentValues row = .ok values →
        values.length = c.kinds.length) :
    Constructs t p (some args) fun row => (p.argumentValues row).bind c.build

/-- The plan has mappers. -/
structure Synthesizes (t : Target ρ) (m : Option ResultMap) (p : Plan) : Prop where
  /-- Columns resolve to fields that exist. -/
  claimed : ∀ c x, Claim.resolve t m c = some x → ∃ f, t.field? x.field = some f
  /-- A field binding is not of an argument, and its field exists and can be written. -/
  writable : ∀ b ∈ p.fields, ∃ i f, b.destination = .field i ∧ t.field? i = some f ∧
    f.isWritable = true
  /-- A mapper makes the record and then writes the fields. -/
  mapper : ∃ make ws, p.Constructs t (m.bind ResultMap.arguments) make ∧
    p.fields.map (writer t) = ws.map .ok ∧
    ∀ key settings tracking, ∃ mapper events,
      p.synthesize key t settings tracking = .ok (mapper, events) ∧ mapper.key = key ∧
      ∀ row, (mapper.map row).result = (make row).bind fun record =>
        (Writer.applyAll settings.ignoreNull ws row record).result.map
          ((hookFor key t tracking).getD id)

/-! ## Lemmas -/

variable {t : Target ρ} {columns : List Column} {m : Option ResultMap} {r : Registry} {p : Plan}

/-- The arguments are bound at their positions. -/
theorem destinations_of_map_argument {target : String} {args : List Argument}
    {arguments : List Binding}
    (h : args.zipIdx.map (argument target columns r) = arguments.map .ok) :
    arguments.map Binding.destination = (List.range args.length).map .argument := by
  have hposition : ∀ a b, argument target columns r a = .ok b →
      b.destination = .argument a.2 := by
    intro a b hab
    obtain ⟨c, -, hbind⟩ := argument_eq_ok_iff.1 hab
    exact (Draft.bind_eq_ok_iff.1 hbind).2.1.symm
  rw [map_eq_of_map_ok h hposition, List.range_eq_range', ← List.zipIdx_map_snd 0 args,
    List.map_map]
  rfl

/-- The arguments are bound to slots of their kinds. -/
theorem kinds_of_map_argument {target : String} {args : List Argument} {arguments : List Binding}
    (h : args.zipIdx.map (argument target columns r) = arguments.map .ok) :
    arguments.map Binding.kind = args.map Argument.kind := by
  refine map_of_map_argument h fun a b hab => ?_
  obtain ⟨c, -, hbind⟩ := argument_eq_ok_iff.1 hab
  exact (Draft.bind_eq_ok_iff.1 hbind).2.2.2.2.1.symm

theorem constructorIndex?_eq_some_iff {kinds : List Kind} {i : Nat} :
    t.constructorIndex? kinds = some i ↔
      FirstAt (fun c : Constructor ρ => c.kinds = kinds) t.constructors i := by
  rw [Target.constructorIndex?, findIdx?_eq_some_iff_firstAt]
  simp only [Constructor.accepts, decide_eq_true_eq]

/-- The constructor that is looked up by kinds is the one at the index. -/
theorem constructor?_of_firstAt {kinds : List Kind} {i : Nat} {c : Constructor ρ}
    (h : FirstAt (fun c : Constructor ρ => c.kinds = kinds) t.constructors i)
    (hc : t.constructors[i]? = some c) : t.constructor? kinds = some c := by
  obtain ⟨⟨d, hd, hkinds⟩, hfirst⟩ := h
  cases hc.symm.trans hd
  obtain ⟨hi, rfl⟩ := List.getElem?_eq_some_iff.1 hc
  refine List.find?_eq_some_iff_getElem.2 ⟨decide_eq_true hkinds, i, hi, rfl, fun j hj => ?_⟩
  have hne := hfirst j hj _ (List.getElem?_eq_getElem (by omega))
  simpa [Constructor.accepts] using hne

/-- The constructor is called with the values of the arguments. -/
theorem result_create_construct (p : Plan) (build : List Value → Except Error ρ) (row : Row) :
    ((Creation.construct p.arguments build).create row).result =
      (p.argumentValues row).bind build := by
  rw [Creation.create, Reading.result_bind, result_readAll]
  rfl

/-- The construction of a plan makes records as the arguments say. -/
theorem IsPlan.constructs (hp : IsPlan t columns m r p) {creation : Creation ρ}
    (hc : p.creation t = .ok creation) :
    p.Constructs t (m.bind ResultMap.arguments) fun row => (creation.create row).result := by
  have hconstruction := hp.construction
  have harguments := hp.arguments
  unfold Plan.creation at hc
  cases ha : m.bind ResultMap.arguments with
  | none =>
    simp only [ha, chooseConstruction] at hconstruction
    split at hconstruction
    · rename_i hsome
      obtain ⟨record, hblank⟩ := Option.isSome_iff_exists.1 hsome
      have hcon : p.construction = .blank := (Except.ok.inj hconstruction).symm
      simp only [hcon, hblank, Except.ok.injEq] at hc
      subst hc
      rw [ha] at harguments
      exact .blank hblank hcon (List.map_eq_nil_iff.1 harguments.symm)
    · cases hconstruction
  | some args =>
    rw [ha] at harguments
    simp only [ha, chooseConstruction] at hconstruction
    cases hi : t.constructorIndex? (args.map Argument.kind) with
    | none =>
      rw [hi] at hconstruction
      cases hconstruction
    | some i =>
      rw [hi] at hconstruction
      have hcon : p.construction = .constructor i := (Except.ok.inj hconstruction).symm
      have hfirst := constructorIndex?_eq_some_iff.1 hi
      obtain ⟨c, hfound, hkinds⟩ := hfirst.1
      simp only [hcon, hfound, Except.ok.injEq] at hc
      subst hc
      have hslots : p.arguments.map Binding.kind = c.kinds := by
        rw [kinds_of_map_argument harguments, hkinds]
        rfl
      have hlength : c.kinds.length = args.length := by rw [hkinds, List.length_map]
      rw [funext (result_create_construct p c.build)]
      refine .constructor hfirst hfound (constructor?_of_firstAt hfirst hfound) hcon ?_ hslots
        fun row values hvalues => ?_
      · rw [destinations_of_map_argument harguments, hlength]
        rfl
      · have hread := congrArg List.length (mapM_eq_ok_iff.1 hvalues)
        rw [List.length_map, List.length_map] at hread
        rw [← hslots, List.length_map, hread]

/-! ## Top theorems -/

/-- A plan that was built has mappers. -/
theorem synthesizes_of_build (h : (build t columns m r).1 = .ok p) : p.Synthesizes t m := by
  have hp := build_fst_eq_ok_iff.1 h
  obtain ⟨creation, hc⟩ := hp.exists_creation
  obtain ⟨ws, hws⟩ := hp.exists_writers_eq
  constructor
  case claimed => exact fun c x hx => exists_field_of_resolve hx
  case writable =>
    intro b hb
    obtain ⟨x, -, f, hfeeds⟩ := hp.exists_feeds hb
    exact ⟨x.field, f, hfeeds.destination, hfeeds.field, hfeeds.writable⟩
  case mapper =>
    refine ⟨_, ws, hp.constructs hc, ?_, fun key settings tracking => ?_⟩
    · rw [writers_eq_mapM, mapM_eq_ok_iff] at hws
      exact hws
    · obtain ⟨events, hmapper⟩ := synthesize_of key settings tracking hc hws
      exact ⟨_, events, hmapper, rfl, fun row => Recipe.result_steps _ row⟩

/-- Crates: two constructors take a text and bytes, and the seal can be written afterwards. -/
def crateTarget : Target Value where
  name := "Crate"
  fields := .ofList [{ name := "label", kind := .text },
    { name := "seal", kind := .bytes, setter := some fun v _ => (.ok (), v) }]
  constructors := [⟨[.bytes], fun _ => .ok .null⟩,
    ⟨[.text, .bytes], fun values => .ok (values.getLast?.getD .null)⟩,
    ⟨[.text, .bytes], fun _ => .ok .null⟩]

def crateColumns : List Column :=
  Column.number [("seal", .bytes), ("STAMP", .bytes), ("label", .text)]

def crateMap : ResultMap where
  arguments := some [{ column := "label", kind := .text }, { column := "stamp", kind := .bytes }]

def cratePlan : Plan where
  construction := .constructor 1
  arguments := [⟨.argument 0, "label", ⟨2, "label", .text⟩, .text, false, .directRead⟩,
    ⟨.argument 1, "stamp", ⟨1, "STAMP", .bytes⟩, .bytes, false, .directRead⟩]
  fields := [⟨.field 1, "seal", ⟨0, "seal", .bytes⟩, .bytes, false, .directRead⟩]
  unmatched := []

theorem synthesizes_cratePlan :
    (build crateTarget crateColumns (some crateMap) {}).1 = .ok cratePlan ∧
      cratePlan.Synthesizes crateTarget (some crateMap) := by
  have h : (build crateTarget crateColumns (some crateMap) {}).1 = .ok cratePlan :=
    build_fst_eq_ok_iff.2 ⟨rfl, rfl, rfl, (List.mergeSort_of_pairwise (by decide)).symm⟩
  exact ⟨h, synthesizes_of_build h⟩

end Plan

end Hydration
