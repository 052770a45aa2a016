import Hydration.Proofs.Registry
import Hydration.Proofs.Traversal
import Hydration.Target.Tracked
import Hydration.Plan.Basic

/-!
# Targets of wrapped records

A target mirrors another when it describes the records of the other with something around them:
the same fields, written in the record inside, and the same constructors, their records wrapped.
Planning sees no difference, and fails with the same fault, in which only the name of the target
is another.

    t.tracked.Mirrors t Tracked.part Tracked.of                                 (mirrors_tracked)
    Plan.build u columns m r = renamed f (Plan.build t columns m r)           (Mirrors.build_eq)
-/

namespace Hydration

open Traversal

variable {ρ τ α : Type}

/-! ## Algorithm -/

/-- The fault with another name for the target. -/
def Fault.retarget (f : String → String) : Fault → Fault
  | noUsableConstructor target => noUsableConstructor (f target)
  | missingMappedColumn target column => missingMappedColumn (f target) column
  | boundReadOnlyField field target => boundReadOnlyField field (f target)
  | missingConstructor index target => missingConstructor index (f target)
  | unknownField target field => unknownField (f target) field
  | fault => fault

/-- The error with another name for the target. -/
def Error.retarget (f : String → String) (e : Error) : Error :=
  ⟨e.outer.retarget f, e.causes.map (Fault.retarget f)⟩

/-- What a step of planning gives, with another name for the target. -/
def Plan.renamed (f : String → String) (x : Except Error α × Registry) :
    Except Error α × Registry :=
  (x.1.mapError (Error.retarget f), x.2)

/-- `u` describes the records that `wrap` gives the way `t` describes the records inside. -/
structure Target.Mirrors (u : Target τ) (t : Target ρ) (p : Part τ ρ) (wrap : ρ → τ) : Prop where
  fields : u.fields.items = t.fields.items.map (Field.lift p)
  constructors : u.constructors = t.constructors.map (Constructor.map wrap)
  blank : u.blank = t.blank.map wrap
  get_wrap : ∀ record, p.get (wrap record) = record
  put_wrap : ∀ record record', p.put record' (wrap record) = wrap record'

/-! ## Lemmas -/

theorem Target.mirrors_tracked (t : Target ρ) : t.tracked.Mirrors t Tracked.part Tracked.of :=
  ⟨rfl, rfl, rfl, fun _ => rfl, fun _ _ => rfl⟩

theorem Field.isWritable_lift (p : Part τ ρ) (f : Field ρ) :
    (f.lift p).isWritable = f.isWritable := by
  rw [isWritable, lift, Option.isSome_map, isWritable]

theorem Text.locate_map {β : Type} (label : β → Option String) (g : α → β) (xs : List α)
    (name : String) : locate label (xs.map g) name = locate (fun x => label (g x)) xs name := by
  simp only [locate, List.findIdx?_map, Function.comp_def]

/-- A coercion cannot be resolved only where a handler is unknown, whatever the target. -/
theorem Coercion.resolve_retarget (f : String → String) (r : Registry) (slot : Kind)
    (nullable : Bool) (column : Kind) (named : Option String) :
    (resolve r slot nullable column named).1.mapError (Error.retarget f) =
      (resolve r slot nullable column named).1 := by
  cases named with
  | some name =>
    rw [resolve_some, Registry.findNamed]
    cases r.named.lookup name <;> rfl
  | none =>
    rcases enum_or_not slot with ⟨e, rfl⟩ | hs
    · rw [resolve_none_of_enum]
      rfl
    · rw [resolve_none_of_not_enum _ _ _ hs]
      split <;> rfl

/-- Planning the arguments takes nothing but a name from the target. -/
theorem Plan.bindArguments_retarget (f : String → String) (target : String)
    (columns : List Column) (k : Nat) (args : List Argument) (r : Registry) :
    bindArguments (f target) columns k args r =
      renamed f (bindArguments target columns k args r) := by
  induction args generalizing k r with
  | nil => rfl
  | cons a rest ih =>
    unfold bindArguments
    cases column? columns a.column with
    | none => rfl
    | some c =>
      have hres := Coercion.resolve_retarget f r a.kind a.nullable c.kind a.handler
      revert hres
      simp only
      rcases Coercion.resolve r a.kind a.nullable c.kind a.handler with ⟨e | coercion, r'⟩
      · intro hres
        show (Except.error e, r') = (Except.error (e.retarget f), r')
        rw [Except.error.inj hres]
      · intro _
        simp only [ih (k + 1) r']
        rcases bindArguments target columns (k + 1) rest r' with ⟨_ | bindings, r''⟩ <;> rfl

namespace Target.Mirrors

variable {u : Target τ} {t : Target ρ} {p : Part τ ρ} {wrap : ρ → τ}

theorem field?_eq (h : u.Mirrors t p wrap) (i : Nat) : u.field? i = (t.field? i).map (.lift p) := by
  rw [field?, h.fields, List.getElem?_map, field?]

theorem fieldIndex?_eq (h : u.Mirrors t p wrap) (name : String) :
    u.fieldIndex? name = t.fieldIndex? name := by
  rw [fieldIndex?, h.fields, Text.locate_map]
  rfl

theorem fieldIndexByColumn?_eq (h : u.Mirrors t p wrap) (column : String) :
    u.fieldIndexByColumn? column = t.fieldIndexByColumn? column := by
  rw [fieldIndexByColumn?, h.fields, Text.locate_map]
  rfl

theorem constructorIndex?_eq (h : u.Mirrors t p wrap) (kinds : List Kind) :
    u.constructorIndex? kinds = t.constructorIndex? kinds := by
  rw [constructorIndex?, h.constructors, List.findIdx?_map]
  rfl

/-- The fields that cannot be tracked are the same. -/
theorem untrackable?_eq (h : u.Mirrors t p wrap) :
    u.untrackable? = t.untrackable?.map (.lift p) := by
  rw [untrackable?, h.fields, List.find?_map]
  simp only [Function.comp_def, Field.isWritable_lift]
  rfl

/-! ## Planning -/

theorem resolve_eq (h : u.Mirrors t p wrap) (m : Option ResultMap) (c : Column) :
    Claim.resolve u m c = Claim.resolve t m c := by
  have hname : ∀ i, (u.field? i).map Field.name = (t.field? i).map Field.name := by
    intro i
    rw [h.field?_eq, Option.map_map]
    rfl
  have hcolumn : ∀ i, (u.field? i).bind Field.column = (t.field? i).bind Field.column := by
    intro i
    rw [h.field?_eq, Option.bind_map]
    rfl
  simp only [Claim.resolve, Claim.ofProperty?, Claim.ofDeclaration?, Claim.ofName?,
    h.fieldIndex?_eq, h.fieldIndexByColumn?_eq, hname, hcolumn]

theorem isOpen_eq (h : u.Mirrors t p wrap) (taken : List String) (c : Claim) :
    c.isOpen u taken = c.isOpen t taken := by
  rw [Claim.isOpen, Claim.isOpen, h.field?_eq]
  cases t.field? c.field with
  | none => rfl
  | some f =>
    simp only [Option.map_some, Field.isWritable_lift]
    rfl

theorem claim?_eq (h : u.Mirrors t p wrap) (m : Option ResultMap) (arguments : List Binding) :
    Plan.claim? u m arguments = Plan.claim? t m arguments := by
  funext c
  have hopen : Claim.isOpen u (arguments.map Binding.name) =
      Claim.isOpen t (arguments.map Binding.name) := funext (h.isOpen_eq _)
  rw [Plan.claim?, h.resolve_eq, hopen, Plan.claim?]

variable {f : String → String}

theorem chooseConstruction_eq (h : u.Mirrors t p wrap) (hname : u.name = f t.name)
    (arguments : Option (List Argument)) :
    Plan.chooseConstruction u arguments =
      (Plan.chooseConstruction t arguments).mapError (Error.retarget f) := by
  unfold Plan.chooseConstruction
  rw [hname]
  cases arguments with
  | some args =>
    simp only [h.constructorIndex?_eq]
    split <;> rfl
  | none =>
    simp only [h.blank, Option.isSome_map]
    split <;> rfl

theorem bindFields_eq (h : u.Mirrors t p wrap) (f : String → String) (claims : List Claim)
    (r : Registry) :
    Plan.bindFields u claims r = Plan.renamed f (Plan.bindFields t claims r) := by
  induction claims generalizing r with
  | nil => rfl
  | cons claim rest ih =>
    unfold Plan.bindFields
    rw [h.field?_eq]
    cases t.field? claim.field with
    | none => exact ih r
    | some g =>
      have hres := Coercion.resolve_retarget f r g.kind g.nullable claim.column.kind
        (claim.handler <|> g.handler)
      revert hres
      simp only [Option.map_some, Field.lift]
      rcases Coercion.resolve r g.kind g.nullable claim.column.kind (claim.handler <|> g.handler)
        with ⟨e | coercion, r'⟩
      · intro hres
        show (Except.error e, r') = (Except.error (e.retarget f), r')
        rw [Except.error.inj hres]
      · intro _
        simp only [ih r']
        rcases Plan.bindFields t rest r' with ⟨_ | bindings, r''⟩ <;> rfl

/-- Planning for wrapped records does what planning for the records does, and an error of it
differs by the name of the target only. -/
theorem build_eq (h : u.Mirrors t p wrap) (hname : u.name = f t.name) (columns : List Column)
    (m : Option ResultMap) (r : Registry) :
    Plan.build u columns m r = Plan.renamed f (Plan.build t columns m r) := by
  unfold Plan.build
  simp only [h.chooseConstruction_eq hname, hname, Plan.bindArguments_retarget]
  cases Plan.chooseConstruction t (m.bind ResultMap.arguments) with
  | error e => rfl
  | ok construction =>
    simp only [mapError_ok]
    rcases Plan.bindArguments t.name columns 0 ((m.bind ResultMap.arguments).getD []) r
      with ⟨_ | arguments, r'⟩
    · rfl
    · simp only [Plan.renamed, mapError_ok, h.claim?_eq, h.bindFields_eq f]
      rcases Plan.bindFields t (Claim.contest (Plan.claim? t m arguments)
        (Plan.freeColumns arguments columns) ([], [])).1 r' with ⟨_ | fields, r''⟩ <;> rfl

end Target.Mirrors

end Hydration
