import Hydration.Proofs.Registry
import Hydration.Proofs.Traversal
import Hydration.Plan.Basic

/-!
# Plans as functions of what is configured

Planning threads the registry through every coercion that it resolves.  A growing
registry changes no coercion, so each binding can be resolved against the registry that
planning started with, and a plan is a plain function of its inputs:

    (bindArguments target columns k args r).1
      = (args.zipIdx k).mapM (argument target columns r)            (bindArguments_fst)
    (bindFields t claims r).1
      = (claims.filterMap (Draft.ofClaim? t)).mapM (Draft.bind r)   (bindFields_fst)
    r.Extends s → (build t columns m s).1 = (build t columns m r).1 (build_fst_of_extends)
-/

namespace Hydration

open Traversal

variable {ρ : Type}

/-! ## Bindings before their coercions are resolved -/

/-- A binding before its coercion is resolved, and the handler that is named for it. -/
structure Draft where
  destination : Destination
  name : String
  column : Column
  kind : Kind
  nullable : Bool
  handler : Option String

namespace Draft

/-- The binding, its coercion resolved by the handlers of a registry. -/
def bind (r : Registry) (d : Draft) : Except Error Binding :=
  (Coercion.resolve r d.kind d.nullable d.column.kind d.handler).1.map fun coercion =>
    ⟨d.destination, d.name, d.column, d.kind, d.nullable, coercion⟩

/-- The draft for feeding a claim's column to a field. -/
def ofField (claim : Claim) (f : Field ρ) : Draft :=
  ⟨.field claim.field, f.name, claim.column, f.kind, f.nullable, claim.handler <|> f.handler⟩

/-- The draft of a claim on a field that exists. -/
def ofClaim? (t : Target ρ) (claim : Claim) : Option Draft :=
  (t.field? claim.field).map (ofField claim)

theorem ofClaim?_of_field {t : Target ρ} {claim : Claim} {f : Field ρ}
    (h : t.field? claim.field = some f) : ofClaim? t claim = some (ofField claim f) := by
  rw [ofClaim?, h, Option.map_some]

/-- A binding is its draft with the coercion that is resolved for it. -/
theorem bind_eq_ok_iff {r : Registry} {d : Draft} {b : Binding} :
    d.bind r = .ok b ↔
      (Coercion.resolve r d.kind d.nullable d.column.kind d.handler).1 = .ok b.coercion ∧
      d.destination = b.destination ∧ d.name = b.name ∧ d.column = b.column ∧ d.kind = b.kind ∧
      d.nullable = b.nullable := by
  obtain ⟨destination, name, column, kind, nullable, coercion⟩ := b
  unfold bind
  cases (Coercion.resolve r d.kind d.nullable d.column.kind d.handler).1 with
  | error e => simp [Except.map]
  | ok c =>
    simp only [Except.map, Except.ok.injEq, Binding.mk.injEq]
    constructor
    · rintro ⟨h1, h2, h3, h4, h5, h6⟩
      exact ⟨h6, h1, h2, h3, h4, h5⟩
    · rintro ⟨h6, h1, h2, h3, h4, h5⟩
      exact ⟨h1, h2, h3, h4, h5, h6⟩

theorem bind_of_extends {r s : Registry} {P : Enumeration → Prop} (h : r.Extends s P) :
    bind s = bind r := by
  funext d
  unfold bind
  rw [Coercion.resolve_fst_of_extends h]

end Draft

namespace Plan

variable {r s : Registry}

/-- The binding of the argument at a position. -/
def argument (target : String) (columns : List Column) (r : Registry) (a : Argument × Nat) :
    Except Error Binding :=
  match column? columns a.1.column with
  | none => .error (.of (.missingMappedColumn target a.1.column))
  | some c => Draft.bind r ⟨.argument a.2, a.1.field, c, a.1.kind, a.1.nullable, a.1.handler⟩

/-- An argument is bound when its column is found and its coercion is resolved. -/
theorem argument_eq_ok_iff {target : String} {columns : List Column} {a : Argument × Nat}
    {b : Binding} :
    argument target columns r a = .ok b ↔ ∃ c, column? columns a.1.column = some c ∧
      Draft.bind r ⟨.argument a.2, a.1.field, c, a.1.kind, a.1.nullable, a.1.handler⟩ = .ok b := by
  unfold argument
  cases column? columns a.1.column <;> simp

/-- What every argument's binding takes from the argument, the bindings take from the arguments. -/
theorem map_of_map_argument {γ : Type} {target : String} {columns : List Column}
    {args : List Argument} {arguments : List Binding}
    (h : args.zipIdx.map (argument target columns r) = arguments.map .ok) {g : Binding → γ}
    {k : Argument → γ} (hg : ∀ a b, argument target columns r a = .ok b → g b = k a.1) :
    arguments.map g = args.map k := by
  rw [map_eq_of_map_ok h hg]
  conv_rhs => rw [← List.zipIdx_map_fst 0 args, List.map_map]
  rfl

theorem argument_of_extends (h : r.Extends s) (target : String) (columns : List Column) :
    argument target columns s = argument target columns r := by
  funext a
  unfold argument
  rw [Draft.bind_of_extends h]

/-- The arguments are bound from the first on, as if none had changed the registry. -/
theorem bindArguments_fst (target : String) (columns : List Column) (k : Nat)
    (args : List Argument) (r : Registry) :
    (bindArguments target columns k args r).1 =
      (args.zipIdx k).mapM (argument target columns r) := by
  induction args generalizing k r with
  | nil => rfl
  | cons a rest ih =>
    rw [List.zipIdx_cons]
    unfold bindArguments
    cases hc : column? columns a.column with
    | none =>
      have ha : argument target columns r (a, k) =
          .error (.of (.missingMappedColumn target a.column)) := by simp only [argument, hc]
      rw [mapM_cons_of_error ha]
    | some c =>
      have hx := Coercion.extends_resolve r a.kind a.nullable c.kind a.handler
        (P := fun _ => True) (fun _ _ _ => trivial)
      have ha : argument target columns r (a, k) = (Coercion.resolve r a.kind a.nullable c.kind
          a.handler).1.map fun coercion =>
            ⟨.argument k, a.field, c, a.kind, a.nullable, coercion⟩ := by
        simp only [argument, hc, Draft.bind]
      revert hx ha
      simp only
      rcases Coercion.resolve r a.kind a.nullable c.kind a.handler with ⟨_ | coercion, r'⟩
      · intro _ ha
        rw [mapM_cons_of_error ha]
      · intro hx ha
        rw [mapM_cons_of_ok ha, ← argument_of_extends hx, ← ih]
        simp only
        rcases bindArguments target columns (k + 1) rest r' with ⟨_ | bindings, r''⟩ <;> rfl

/-- Planning the arguments registers handlers of arguments' enumerations. -/
theorem extends_bindArguments {P : Enumeration → Prop} (target : String) (columns : List Column)
    (k : Nat) (args : List Argument) (r : Registry)
    (hP : ∀ a ∈ args, ∀ e, a.handler = none → a.kind = .enum e → P e) :
    r.Extends (bindArguments target columns k args r).2 P := by
  induction args generalizing k r with
  | nil => exact .refl r P
  | cons a rest ih =>
    unfold bindArguments
    cases column? columns a.column with
    | none => exact .refl r P
    | some c =>
      have hx := Coercion.extends_resolve r a.kind a.nullable c.kind a.handler
        (hP a List.mem_cons_self)
      revert hx
      simp only
      rcases Coercion.resolve r a.kind a.nullable c.kind a.handler with ⟨_ | coercion, r'⟩
      · exact id
      · intro hx
        have hr := ih (k + 1) r' fun b hb => hP b (List.mem_cons_of_mem _ hb)
        revert hr
        simp only
        rcases bindArguments target columns (k + 1) rest r' with ⟨_ | bindings, r''⟩ <;>
          exact hx.trans

/-- The claims are bound from the first on, as if none had changed the registry. -/
theorem bindFields_fst (t : Target ρ) (claims : List Claim) (r : Registry) :
    (bindFields t claims r).1 = (claims.filterMap (Draft.ofClaim? t)).mapM (Draft.bind r) := by
  induction claims generalizing r with
  | nil => rfl
  | cons claim rest ih =>
    unfold bindFields
    cases hf : t.field? claim.field with
    | none =>
      rw [List.filterMap_cons_none (by simp only [Draft.ofClaim?, hf, Option.map_none])]
      exact ih r
    | some f =>
      rw [List.filterMap_cons_some (Draft.ofClaim?_of_field hf)]
      have hx := Coercion.extends_resolve r f.kind f.nullable claim.column.kind
        (claim.handler <|> f.handler) (P := fun _ => True) (fun _ _ _ => trivial)
      have hd : Draft.bind r (.ofField claim f) = (Coercion.resolve r f.kind f.nullable
          claim.column.kind (claim.handler <|> f.handler)).1.map fun coercion =>
            ⟨.field claim.field, f.name, claim.column, f.kind, f.nullable, coercion⟩ := rfl
      revert hx hd
      simp only
      rcases Coercion.resolve r f.kind f.nullable claim.column.kind (claim.handler <|> f.handler)
        with ⟨_ | coercion, r'⟩
      · intro _ hd
        rw [mapM_cons_of_error hd]
      · intro hx hd
        rw [mapM_cons_of_ok hd, ← Draft.bind_of_extends hx, ← ih]
        simp only
        rcases bindFields t rest r' with ⟨_ | bindings, r''⟩ <;> rfl

/-- Planning the fields registers handlers of claimed fields' enumerations. -/
theorem extends_bindFields {P : Enumeration → Prop} (t : Target ρ) (claims : List Claim)
    (r : Registry) (hP : ∀ c ∈ claims, ∀ f e, t.field? c.field = some f →
      (c.handler <|> f.handler) = none → f.kind = .enum e → P e) :
    r.Extends (bindFields t claims r).2 P := by
  induction claims generalizing r with
  | nil => exact .refl r P
  | cons claim rest ih =>
    unfold bindFields
    have hP' : ∀ c ∈ rest, ∀ f e, t.field? c.field = some f →
        (c.handler <|> f.handler) = none → f.kind = .enum e → P e :=
      fun c hc => hP c (List.mem_cons_of_mem _ hc)
    cases hf : t.field? claim.field with
    | none => exact ih r hP'
    | some f =>
      have hx := Coercion.extends_resolve r f.kind f.nullable claim.column.kind
        (claim.handler <|> f.handler) fun e => hP claim List.mem_cons_self f e hf
      revert hx
      simp only
      rcases Coercion.resolve r f.kind f.nullable claim.column.kind (claim.handler <|> f.handler)
        with ⟨_ | coercion, r'⟩
      · exact id
      · intro hx
        have hr := ih r' hP'
        revert hr
        simp only
        rcases bindFields t rest r' with ⟨_ | bindings, r''⟩ <;> exact hx.trans

/-! ## Whole plans -/

/-- The claims that stand when all columns have competed, and the columns that are left over. -/
def standing (t : Target ρ) (m : Option ResultMap) (arguments : List Binding)
    (columns : List Column) : List Claim × List Column :=
  Claim.contest (claim? t m arguments) (freeColumns arguments columns) ([], [])

variable {t : Target ρ} {columns : List Column} {m : Option ResultMap}

theorem build_fst (t : Target ρ) (columns : List Column) (m : Option ResultMap) (r : Registry) :
    (build t columns m r).1 =
      (chooseConstruction t (m.bind ResultMap.arguments)).bind fun construction =>
        (((m.bind ResultMap.arguments).getD []).zipIdx.mapM (argument t.name columns r)).bind
          fun arguments =>
            (((standing t m arguments columns).1.filterMap (Draft.ofClaim? t)).mapM
              (Draft.bind r)).map fun fields =>
                ⟨construction, arguments, fields, (standing t m arguments columns).2.mergeSort
                  fun a b => decide (a.index ≤ b.index)⟩ := by
  have hx := extends_bindArguments (P := fun _ => True) t.name columns 0
    ((m.bind ResultMap.arguments).getD []) r (fun _ _ _ _ _ => trivial)
  unfold build
  rw [← bindArguments_fst]
  revert hx
  simp only
  cases chooseConstruction t (m.bind ResultMap.arguments) with
  | error e => intro _; rfl
  | ok construction =>
    rcases bindArguments t.name columns 0 ((m.bind ResultMap.arguments).getD []) r
      with ⟨_ | arguments, r'⟩
    · intro _; rfl
    · intro hx
      simp only [Except.bind]
      rw [← Draft.bind_of_extends hx, ← bindFields_fst]
      unfold standing
      rcases bindFields t (Claim.contest (claim? t m arguments) (freeColumns arguments columns)
        ([], [])).1 r' with ⟨_ | fields, r''⟩ <;> rfl

/-- Handlers of enumerations that were registered meanwhile change no plan and no error. -/
theorem build_fst_of_extends (h : r.Extends s) (t : Target ρ) (columns : List Column)
    (m : Option ResultMap) : (build t columns m s).1 = (build t columns m r).1 := by
  rw [build_fst, build_fst, argument_of_extends h, Draft.bind_of_extends h]

/-- Planning registers at most handlers of enumerations, also when it fails. -/
theorem extends_build {P : Enumeration → Prop} (t : Target ρ) (columns : List Column)
    (m : Option ResultMap) (r : Registry)
    (ha : ∀ a ∈ (m.bind ResultMap.arguments).getD [], ∀ e, a.handler = none → a.kind = .enum e →
      P e)
    (hc : ∀ arguments, ((m.bind ResultMap.arguments).getD []).zipIdx.mapM
        (argument t.name columns r) = .ok arguments →
      ∀ c ∈ (standing t m arguments columns).1, ∀ f e, t.field? c.field = some f →
        (c.handler <|> f.handler) = none → f.kind = .enum e → P e) :
    r.Extends (build t columns m r).2 P := by
  have hx := extends_bindArguments t.name columns 0 _ r ha
  rw [← bindArguments_fst] at hc
  revert hx hc
  unfold build
  simp only
  cases chooseConstruction t (m.bind ResultMap.arguments) with
  | error e => exact fun _ _ => .refl r P
  | ok construction =>
    rcases bindArguments t.name columns 0 ((m.bind ResultMap.arguments).getD []) r
      with ⟨_ | arguments, r'⟩
    · exact fun _ hx => hx
    · intro hc hx
      have hf := extends_bindFields t (standing t m arguments columns).1 r' (hc arguments rfl)
      revert hf
      simp only [standing]
      rcases bindFields t (Claim.contest (claim? t m arguments) (freeColumns arguments columns)
        ([], [])).1 r' with ⟨_ | fields, r''⟩ <;> exact hx.trans

/-- All that is known of a plan. -/
structure IsPlan (t : Target ρ) (columns : List Column) (m : Option ResultMap) (r : Registry)
    (p : Plan) : Prop where
  construction : chooseConstruction t (m.bind ResultMap.arguments) = .ok p.construction
  arguments : ((m.bind ResultMap.arguments).getD []).zipIdx.map (argument t.name columns r) =
    p.arguments.map .ok
  fields : ((standing t m p.arguments columns).1.filterMap (Draft.ofClaim? t)).map (Draft.bind r) =
    p.fields.map .ok
  unmatched : p.unmatched = (standing t m p.arguments columns).2.mergeSort
    fun a b => decide (a.index ≤ b.index)

theorem build_fst_eq_ok_iff {p : Plan} :
    (build t columns m r).1 = .ok p ↔ IsPlan t columns m r p := by
  rw [build_fst]
  simp only [bind_eq_ok_iff, map_eq_ok_iff, mapM_eq_ok_iff]
  constructor
  · rintro ⟨construction, h1, arguments, h2, fields, h3, rfl⟩
    exact ⟨h1, h2, h3, rfl⟩
  · rintro ⟨h1, h2, h3, h4⟩
    refine ⟨p.construction, h1, p.arguments, h2, p.fields, h3, ?_⟩
    rw [← h4]

end Plan

end Hydration
