import Hydration.Proofs.Plan.Resolution
import Hydration.Proofs.Plan.Selection
import Hydration.Proofs.Plan.Standing

/-!
# What planning needs

Planning succeeds when all that it needs is there, and else it fails for the first need that is
not met.  What it needs can be read off its configuration: a constructor, then the column and the
handler of each argument, then the handlers of the claims that are kept.

    needs t m columns                                   what planning needs, in its order
    error? (build t columns m r).1 = (needs t m columns).findSome? (Need.refusal t columns r)
                                                                              (error?_build_fst)

A handler that only idle claims name is not among the needs, so whether it is registered makes no
difference (`build_fst_congr`).
-/

namespace Hydration

open Traversal

variable {ρ : Type}

/-! ## Algorithm -/

/-- What planning cannot do without. -/
inductive Need where
  /-- A constructor without arguments. -/
  | blank
  /-- A constructor of arguments of these kinds. -/
  | constructor (kinds : List Kind)
  /-- A column of this name, in whatever case. -/
  | column (name : String)
  /-- A handler under this name. -/
  | handler (name : String)

/-- The handler in force for a claim: its property's, else its field's. -/
def Claim.inForce (t : Target ρ) (x : Claim) : Option String :=
  x.handler <|> (t.field? x.field).bind Field.handler

namespace Need

def Met (t : Target ρ) (columns : List Column) (r : Registry) : Need → Prop
  | blank => t.blank.isSome
  | constructor kinds => ∃ c ∈ t.constructors, c.kinds = kinds
  | column name => ∃ c ∈ columns, Text.sameFolded c.name name
  | handler name => name ∈ r.named.map Prod.fst

instance (t : Target ρ) (columns : List Column) (r : Registry) : DecidablePred (Met t columns r)
  | blank => inferInstanceAs (Decidable (t.blank.isSome = true))
  | constructor kinds => inferInstanceAs (Decidable (∃ c ∈ t.constructors, c.kinds = kinds))
  | column name => inferInstanceAs (Decidable (∃ c ∈ columns, Text.sameFolded c.name name = true))
  | handler name => inferInstanceAs (Decidable (name ∈ r.named.map Prod.fst))

/-- What planning says when the need is not met. -/
def error (t : Target ρ) : Need → Error
  | blank => .of (.noUsableConstructor t.name)
  | constructor _ => .of (.noUsableConstructor t.name)
  | column name => .of (.missingMappedColumn t.name name)
  | handler name => .of (.unknownHandler name)

/-- The error of a need that is not met. -/
def refusal (t : Target ρ) (columns : List Column) (r : Registry) (n : Need) : Option Error :=
  if n.Met t columns r then none else some (n.error t)

/-- How records are to be constructed. -/
def ofConstruction : Option (List Argument) → Need
  | none => blank
  | some args => constructor (args.map Argument.kind)

/-- The handler that is named, if one is. -/
def ofHandler (named : Option String) : List Need := named.toList.map handler

/-- The column of an argument, and then its handler. -/
def ofArgument (a : Argument) : List Need := column a.column :: ofHandler a.handler

/-- The handler that is in force for a claim. -/
def ofClaim (t : Target ρ) (x : Claim) : List Need := ofHandler (x.inForce t)

end Need

namespace Plan

/-- The configured arguments of the constructor. -/
def configured (m : Option ResultMap) : List Argument := (m.bind ResultMap.arguments).getD []

/-- The columns of arguments that have theirs. -/
def fed (m : Option ResultMap) (columns : List Column) : List Column :=
  (configured m).filterMap fun a => column? columns a.column

/-- The claims that compete: those of columns that feed no argument, on fields that are open. -/
def claims (t : Target ρ) (m : Option ResultMap) (columns : List Column) : List Claim :=
  ((columns.filter fun c => !(fed m columns).any fun d => d.index == c.index).filterMap
    (Claim.resolve t m)).filter (Claim.isOpen t ((configured m).map Argument.field))

/-- What planning needs, in the order in which it asks for it. -/
def needs (t : Target ρ) (m : Option ResultMap) (columns : List Column) : List Need :=
  .ofConstruction (m.bind ResultMap.arguments) :: ((configured m).flatMap Need.ofArgument ++
    (Claim.kept (claims t m columns)).flatMap (Need.ofClaim t))

/-- The claim feeds no field. -/
inductive Idle (t : Target ρ) (m : Option ResultMap) (columns : List Column) (x : Claim) : Prop
  /-- The column feeds an argument. -/
  | consumed {d : Column} (h : d ∈ fed m columns) (index : d.index = x.column.index)
  | readOnly {f : Field ρ} (h : t.field? x.field = some f) (closed : f.isWritable = false)
  /-- An argument initialises the field. -/
  | taken {f : Field ρ} (h : t.field? x.field = some f)
    (argument : f.name ∈ (configured m).map Argument.field)
  /-- A rival has a higher rank, or the same and comes earlier. -/
  | displaced {y : Claim} (h : y ∈ Claim.rivals (claims t m columns) x.field)
    (outranks : x.rank < y.rank ∨ x.rank ≤ y.rank ∧
      (Claim.rivals (claims t m columns) x.field).idxOf y <
        (Claim.rivals (claims t m columns) x.field).idxOf x)

end Plan

/-! ## Lemmas -/

namespace Need

variable {t : Target ρ} {columns : List Column} {r : Registry} {n : Need}

theorem refusal_eq_none_iff : n.refusal t columns r = none ↔ n.Met t columns r := by
  simp [refusal]

theorem refusal_eq_some_iff {e : Error} :
    n.refusal t columns r = some e ↔ ¬n.Met t columns r ∧ e = n.error t := by
  simp [refusal, eq_comm]

theorem eq_of_error_eq {name : String} (h : n.error t = .of (.unknownHandler name)) :
    n = .handler name := by
  cases n <;> cases h
  rfl

/-- A step that looks up what is needed fails when the need is not met. -/
theorem error?_elim {α β : Type} {found : Option α} (h : n.Met t columns r ↔ found.isSome)
    (use : α → β) :
    error? (found.elim (.error (n.error t)) fun a => .ok (use a)) = n.refusal t columns r := by
  cases found with
  | some a => exact (refusal_eq_none_iff.2 (h.2 rfl)).symm
  | none => exact (refusal_eq_some_iff.2 ⟨fun hm => Bool.false_ne_true (h.1 hm), rfl⟩).symm

theorem error?_findNamed (t : Target ρ) (columns : List Column) (r : Registry) (name : String) :
    error? (r.findNamed name) = (handler name).refusal t columns r := by
  have hmet : (handler name).Met t columns r ↔ (r.named.lookup name).isSome := by
    show name ∈ r.named.map Prod.fst ↔ _
    rw [List.lookup_isSome_iff, List.mem_map]
    simp only [beq_iff_eq, eq_comm (a := name)]
  have hfind : r.findNamed name =
      (r.named.lookup name).elim (.error ((handler name).error t)) .ok := by
    unfold Registry.findNamed
    cases r.named.lookup name <;> rfl
  rw [hfind, error?_elim hmet]

theorem error?_chooseConstruction (t : Target ρ) (columns : List Column) (r : Registry)
    (args : Option (List Argument)) :
    error? (Plan.chooseConstruction t args) = (ofConstruction args).refusal t columns r := by
  cases args with
  | none =>
    have hchoose : Plan.chooseConstruction t none =
        t.blank.elim (.error (blank.error t)) fun _ => .ok .blank := by
      unfold Plan.chooseConstruction
      cases t.blank <;> rfl
    rw [hchoose, error?_elim (show blank.Met t columns r ↔ _ from .rfl)]
    rfl
  | some args =>
    have hmet : (constructor (args.map Argument.kind)).Met t columns r ↔
        (t.constructorIndex? (args.map Argument.kind)).isSome := by
      unfold Target.constructorIndex? Met
      rw [List.findIdx?_isSome, List.any_eq_true]
      simp only [Constructor.accepts, decide_eq_true_eq]
    have hchoose : Plan.chooseConstruction t (some args) =
        (t.constructorIndex? (args.map Argument.kind)).elim
          (.error ((constructor (args.map Argument.kind)).error t))
          fun i => .ok (.constructor i) := by
      simp only [Plan.chooseConstruction]
      cases t.constructorIndex? (args.map Argument.kind) <;> rfl
    rw [hchoose, error?_elim hmet]
    rfl

end Need

namespace Plan

variable {t : Target ρ} {m : Option ResultMap} {columns : List Column} {r s : Registry}

/-- An argument has its column when a column has the name, in whatever case. -/
theorem exists_column?_iff {name : String} :
    (∃ c, column? columns name = some c) ↔ ∃ c ∈ columns, Text.sameFolded c.name name := by
  constructor
  · rintro ⟨c, hc⟩
    obtain ⟨i, hi, hci⟩ := Option.bind_eq_some_iff.1 hc
    obtain ⟨e, he⟩ := Text.locate_iff_finds.1 hi
    obtain ⟨d, l, hd, hl, hf⟩ := he.fold_eq
    cases hl
    exact ⟨d, List.mem_of_getElem? hd, beq_iff_eq.2 hf⟩
  · rintro ⟨c, hc, hf⟩
    obtain ⟨i, hi⟩ : ∃ i, Text.locate (fun c : Column => some c.name) columns name = some i :=
      Text.exists_locate hc rfl (beq_iff_eq.1 hf)
    exact ⟨_, Option.bind_eq_some_iff.2 ⟨i, hi, List.getElem?_eq_getElem (Text.locate_lt hi)⟩⟩

/-! ### The error of each part -/

theorem error?_bind (t : Target ρ) (columns : List Column) (r : Registry) (d : Draft) :
    error? (d.bind r) = (Need.ofHandler d.handler).findSome? (Need.refusal t columns r) := by
  unfold Draft.bind
  rw [error?_map]
  cases d.handler with
  | some name =>
    rw [Coercion.resolve_some, error?_map, Need.error?_findNamed t columns]
    exact (List.findSome?_singleton ..).symm
  | none =>
    rcases Coercion.enum_or_not d.kind with ⟨e, he⟩ | he
    · rw [he, Coercion.resolve_none_of_enum]
      rfl
    · rw [Coercion.resolve_none_of_not_enum r _ _ he]
      rfl

theorem error?_argument (t : Target ρ) (columns : List Column) (r : Registry)
    (a : Argument × Nat) :
    error? (argument t.name columns r a) =
      (Need.ofArgument a.1).findSome? (Need.refusal t columns r) := by
  unfold argument Need.ofArgument
  rw [List.findSome?_cons]
  cases hc : column? columns a.1.column with
  | none =>
    have hunmet : ¬(Need.column a.1.column).Met t columns r := by
      intro hm
      obtain ⟨c, hfound⟩ := exists_column?_iff.2 hm
      rw [hc] at hfound
      cases hfound
    rw [Need.refusal_eq_some_iff.2 ⟨hunmet, rfl⟩]
    rfl
  | some c =>
    have hmet : (Need.column a.1.column).Met t columns r := exists_column?_iff.1 ⟨c, hc⟩
    rw [Need.refusal_eq_none_iff.2 hmet]
    exact error?_bind t columns r _

/-- The bindings of the arguments have the columns and the fields that are configured. -/
theorem map_of_arguments {arguments : List Binding}
    (h : (configured m).zipIdx.map (argument t.name columns r) = arguments.map .ok) :
    arguments.map Binding.name = (configured m).map Argument.field ∧
      arguments.map Binding.column = fed m columns := by
  have hbound : ∀ a b, argument t.name columns r a = .ok b →
      b.name = a.1.field ∧ some b.column = column? columns a.1.column := by
    intro a b hab
    obtain ⟨c, hc, hbind⟩ := argument_eq_ok_iff.1 hab
    obtain ⟨-, -, hname, hcol, -⟩ := Draft.bind_eq_ok_iff.1 hbind
    exact ⟨hname.symm, (hc.trans (congrArg some hcol)).symm⟩
  have hcolumns : (arguments.map fun b => some b.column) =
      (configured m).map fun a => column? columns a.column :=
    map_of_map_argument h fun a b hab => (hbound a b hab).2
  refine ⟨map_of_map_argument h fun a b hab => (hbound a b hab).1, ?_⟩
  have hsome := congrArg (List.filterMap id) hcolumns
  rw [List.filterMap_map, List.filterMap_map] at hsome
  rw [← List.filterMap_eq_map]
  exact hsome

/-- The claims that stand are the best of those that compete. -/
theorem standing_fst_eq_kept {arguments : List Binding}
    (h : (configured m).zipIdx.map (argument t.name columns r) = arguments.map .ok) :
    (standing t m arguments columns).1 = Claim.kept (claims t m columns) := by
  obtain ⟨hnames, hcolumns⟩ := map_of_arguments h
  have hfree : freeColumns arguments columns =
      columns.filter fun c => !(fed m columns).any fun d => d.index == c.index := by
    rw [← hcolumns]
    simp only [freeColumns, List.any_map]
    rfl
  have hclaims : claims t m columns =
      (freeColumns arguments columns).filterMap (claim? t m arguments) := by
    rw [claims, ← hnames, ← hfree, List.filter_filterMap]
    rfl
  rw [hclaims]
  exact Claim.contest_fst_eq_kept
    (fun _ _ hx => Claim.resolve_column (claim?_eq_some_iff.1 hx).1) _

theorem error?_mapM_bind (columns : List Column) (r : Registry) {xs : List Claim}
    (h : ∀ x ∈ xs, ∃ f, t.field? x.field = some f) :
    error? ((xs.filterMap (Draft.ofClaim? t)).mapM (Draft.bind r)) =
      (xs.flatMap (Need.ofClaim t)).findSome? (Need.refusal t columns r) := by
  rw [error?_mapM, findSome?_flatMap]
  induction xs with
  | nil => rfl
  | cons x xs ih =>
    obtain ⟨f, hf⟩ := h x List.mem_cons_self
    have hx : Need.ofClaim t x = Need.ofHandler (Draft.ofField x f).handler := by
      unfold Need.ofClaim Claim.inForce
      rw [hf]
      rfl
    rw [List.filterMap_cons_some (Draft.ofClaim?_of_field hf), List.findSome?_cons,
      List.findSome?_cons, ih fun y hy => h y (List.mem_cons_of_mem _ hy),
      error?_bind t columns, hx]

/-- Planning fails for the first need that is not met. -/
theorem error?_build_fst (t : Target ρ) (m : Option ResultMap) (columns : List Column)
    (r : Registry) :
    error? (build t columns m r).1 =
      (needs t m columns).findSome? (Need.refusal t columns r) := by
  have hchoose := Need.error?_chooseConstruction t columns r (m.bind ResultMap.arguments)
  have harguments : error? ((configured m).zipIdx.mapM (argument t.name columns r)) =
      ((configured m).flatMap Need.ofArgument).findSome? (Need.refusal t columns r) := by
    rw [error?_mapM, findSome?_flatMap, funext (error?_argument t columns r)]
    conv_rhs => rw [← List.zipIdx_map_fst 0 (configured m), List.findSome?_map]
    rfl
  rw [build_fst, needs, List.findSome?_cons, ← hchoose, List.findSome?_append, ← harguments]
  cases chooseConstruction t (m.bind ResultMap.arguments) with
  | error e => rfl
  | ok construction =>
    show error? (((configured m).zipIdx.mapM (argument t.name columns r)).bind _) = Option.or _ _
    cases ha : (configured m).zipIdx.mapM (argument t.name columns r) with
    | error e => rfl
    | ok arguments =>
      -- only now is it known which columns are free, and so which claims are kept
      rw [mapM_eq_ok_iff] at ha
      show error? (Except.map _ _) = _
      have hfields : ∀ x ∈ Claim.kept (claims t m columns), ∃ f, t.field? x.field = some f := by
        intro x hx
        obtain ⟨f, hf, -⟩ := field_of_mem_standing (standing_fst_eq_kept ha ▸ hx)
        exact ⟨f, hf⟩
      rw [error?_map, standing_fst_eq_kept ha, error?_mapM_bind columns r hfields]
      rfl

/-! ### Handlers that are not needed -/

theorem mem_ofHandler_iff {named : Option String} {name : String} :
    Need.handler name ∈ Need.ofHandler named ↔ named = some name := by
  unfold Need.ofHandler
  rw [List.mem_map]
  simp

/-- The handlers that are needed are those of arguments and of claims that are kept. -/
theorem handler_mem_needs_iff {name : String} :
    .handler name ∈ needs t m columns ↔ (∃ a ∈ configured m, a.handler = some name) ∨
      ∃ x ∈ Claim.kept (claims t m columns), x.inForce t = some name := by
  have hconstruction : .handler name ≠ Need.ofConstruction (m.bind ResultMap.arguments) := by
    cases m.bind ResultMap.arguments <;> exact nofun
  have hargument : ∀ a, .handler name ∈ Need.ofArgument a ↔ a.handler = some name := by
    intro a
    unfold Need.ofArgument
    rw [List.mem_cons, mem_ofHandler_iff]
    exact or_iff_right nofun
  have hclaim : ∀ x, .handler name ∈ Need.ofClaim t x ↔ x.inForce t = some name :=
    fun x => mem_ofHandler_iff
  rw [needs, List.mem_cons, or_iff_right hconstruction, List.mem_append, List.mem_flatMap,
    List.mem_flatMap]
  simp only [hargument, hclaim]

theorem mem_claims_iff {x : Claim} :
    x ∈ claims t m columns ↔ x.column ∈ columns ∧
      (∀ d ∈ fed m columns, d.index ≠ x.column.index) ∧ Claim.resolve t m x.column = some x ∧
      ∃ f, t.field? x.field = some f ∧ f.isWritable = true ∧
        f.name ∉ (configured m).map Argument.field := by
  have hfree : ∀ c : Column, (!(fed m columns).any fun d => d.index == c.index) = true ↔
      ∀ d ∈ fed m columns, d.index ≠ c.index := by
    intro c
    rw [Bool.not_eq_true', List.any_eq_false]
    simp only [beq_iff_eq, ne_eq]
  unfold claims
  rw [List.mem_filter, List.mem_filterMap, Claim.isOpen_iff]
  simp only [List.mem_filter, hfree]
  constructor
  · rintro ⟨⟨c, ⟨hc, hspare⟩, hresolve⟩, hopen⟩
    obtain rfl := Claim.resolve_column hresolve
    exact ⟨hc, hspare, hresolve, hopen⟩
  · rintro ⟨hc, hspare, hresolve, hopen⟩
    exact ⟨⟨x.column, ⟨hc, hspare⟩, hresolve⟩, hopen⟩

/-- The claims that are kept are those of columns that are not idle. -/
theorem mem_kept_iff_not_idle {x : Claim} :
    x ∈ Claim.kept (claims t m columns) ↔
      x.column ∈ columns ∧ Claim.resolve t m x.column = some x ∧ ¬Idle t m columns x := by
  rw [Claim.mem_kept_iff, Claim.best?_eq_some_iff]
  constructor
  · rintro ⟨hrival, hrank, hfirst⟩
    obtain ⟨hx, -⟩ := Claim.mem_rivals_iff.1 hrival
    obtain ⟨hc, hspare, hresolve, f, hf, hwritable, hfree⟩ := mem_claims_iff.1 hx
    refine ⟨hc, hresolve, ?_⟩
    rintro (⟨hd, hindex⟩ | ⟨hg, hclosed⟩ | ⟨hg, htaken⟩ | ⟨hy, hlt | ⟨hle, hbefore⟩⟩)
    · exact hspare _ hd hindex
    · cases hf.symm.trans hg
      rw [hwritable] at hclosed
      cases hclosed
    · cases hf.symm.trans hg
      exact hfree htaken
    · have hge := hrank _ hy
      omega
    · have hge := hfirst _ hy hle
      omega
  · rintro ⟨hc, hresolve, hidle⟩
    obtain ⟨f, hf⟩ := exists_field_of_resolve hresolve
    have hwritable : f.isWritable = true := by
      cases hw : f.isWritable with
      | true => rfl
      | false => exact absurd (.readOnly hf hw) hidle
    have hx : x ∈ claims t m columns :=
      mem_claims_iff.2 ⟨hc, fun d hd hindex => hidle (.consumed hd hindex), hresolve, f, hf,
        hwritable, fun htaken => hidle (.taken hf htaken)⟩
    refine ⟨Claim.mem_rivals_iff.2 ⟨hx, rfl⟩, fun y hy => ?_, fun y hy hle => ?_⟩
    · by_contra hlt
      exact hidle (.displaced hy (.inl (by omega)))
    · by_contra hlt
      exact hidle (.displaced hy (.inr ⟨hle, by omega⟩))

/-- A registry matters by its handlers for kinds, and by those of its named handlers that are
needed. -/
theorem build_fst_congr (hkinds : s.byKinds = r.byKinds)
    (hnamed : ∀ name, .handler name ∈ needs t m columns → s.findNamed name = r.findNamed name) :
    (build t columns m s).1 = (build t columns m r).1 := by
  have hbind : ∀ d : Draft, (∀ name, d.handler = some name → .handler name ∈ needs t m columns) →
      d.bind s = d.bind r := by
    intro d hd
    unfold Draft.bind
    rw [Coercion.resolve_fst_congr hkinds fun name hname => hnamed name (hd name hname)]
  have harguments : (configured m).zipIdx.mapM (argument t.name columns s) =
      (configured m).zipIdx.mapM (argument t.name columns r) := by
    refine mapM_congr fun a ha => ?_
    unfold argument
    cases column? columns a.1.column with
    | none => rfl
    | some c =>
      refine hbind _ fun name hname => handler_mem_needs_iff.2 (.inl ⟨a.1, ?_, hname⟩)
      exact List.fst_mem_of_mem_zipIdx ha
  rw [build_fst, build_fst]
  cases chooseConstruction t (m.bind ResultMap.arguments) with
  | error e => rfl
  | ok construction =>
    show Except.bind ((configured m).zipIdx.mapM _) _ = Except.bind ((configured m).zipIdx.mapM _) _
    rw [harguments]
    cases ha : (configured m).zipIdx.mapM (argument t.name columns r) with
    | error e => rfl
    | ok arguments =>
      rw [mapM_eq_ok_iff] at ha
      show Except.map _ _ = Except.map _ _
      rw [mapM_congr]
      intro d hd
      rw [standing_fst_eq_kept ha] at hd
      obtain ⟨x, hx, hxd⟩ := List.mem_filterMap.1 hd
      obtain ⟨f, hf, rfl⟩ := Option.map_eq_some_iff.1 hxd
      refine hbind _ fun name hname => handler_mem_needs_iff.2 (.inr ⟨x, hx, ?_⟩)
      rw [Claim.inForce, hf]
      exact hname

/-! ## Top theorems -/

/-- Planning succeeds when everything that it needs is there.  Else it fails for the first need
that is not met.  The handlers that it needs are those of arguments, and those in force for claims
that are not idle; any other is never missed, and registering it changes no plan and no error. -/
theorem build_fails_for_first_need (t : Target ρ) (m : Option ResultMap) (columns : List Column)
    (r : Registry) :
    ((∃ p, (build t columns m r).1 = .ok p) ↔ ∀ n ∈ needs t m columns, n.Met t columns r) ∧
    (∀ e, (build t columns m r).1 = .error e ↔
      ∃ before n after, needs t m columns = before ++ n :: after ∧
        (∀ k ∈ before, k.Met t columns r) ∧ ¬n.Met t columns r ∧ e = n.error t) ∧
    ∀ name, (.handler name ∈ needs t m columns ↔ (∃ a ∈ configured m, a.handler = some name) ∨
        ∃ c ∈ columns, ∃ x, Claim.resolve t m c = some x ∧ x.inForce t = some name ∧
          ¬Idle t m columns x) ∧
      (.handler name ∉ needs t m columns →
        (build t columns m r).1 ≠ .error (.of (.unknownHandler name)) ∧
          ∀ h, (build t columns m (r.registerNamed name h)).1 = (build t columns m r).1) := by
  have herror : ∀ e, (build t columns m r).1 = .error e ↔
      ∃ before n after, needs t m columns = before ++ n :: after ∧
        (∀ k ∈ before, k.Met t columns r) ∧ ¬n.Met t columns r ∧ e = n.error t := by
    intro e
    rw [← error?_eq_some_iff, error?_build_fst, List.findSome?_eq_some_iff]
    simp only [Need.refusal_eq_none_iff, Need.refusal_eq_some_iff]
    constructor
    · rintro ⟨before, n, after, hsplit, ⟨hn, he⟩, hbefore⟩
      exact ⟨before, n, after, hsplit, hbefore, hn, he⟩
    · rintro ⟨before, n, after, hsplit, hbefore, hn, he⟩
      exact ⟨before, n, after, hsplit, ⟨hn, he⟩, hbefore⟩
  refine ⟨?_, herror, fun name => ⟨?_, fun hname => ⟨fun he => ?_, fun h => ?_⟩⟩⟩
  · rw [← error?_eq_none_iff, error?_build_fst, List.findSome?_eq_none_iff]
    simp only [Need.refusal_eq_none_iff]
  · rw [handler_mem_needs_iff]
    refine or_congr_right ⟨?_, ?_⟩
    · rintro ⟨x, hx, hh⟩
      obtain ⟨hc, hresolve, hidle⟩ := mem_kept_iff_not_idle.1 hx
      exact ⟨x.column, hc, x, hresolve, hh, hidle⟩
    · rintro ⟨c, hc, x, hresolve, hh, hidle⟩
      obtain rfl := Claim.resolve_column hresolve
      exact ⟨x, mem_kept_iff_not_idle.2 ⟨hc, hresolve, hidle⟩, hh⟩
  · obtain ⟨before, n, after, hsplit, -, -, hn⟩ := (herror _).1 he
    refine hname ?_
    rw [← Need.eq_of_error_eq hn.symm, hsplit]
    simp
  · refine build_fst_congr rfl fun other hother => ?_
    have hne : other ≠ name := fun he => hname (he ▸ hother)
    simp only [Registry.findNamed, Registry.registerNamed, List.lookup_cons,
      beq_eq_false_iff_ne.2 hne]

end Plan

end Hydration
