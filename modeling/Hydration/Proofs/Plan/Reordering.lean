import Hydration.Proofs.Plan.Partition
import Hydration.Proofs.Plan.Winner
import Mathlib.Data.List.Perm.Basic

/-!
# Plans for reordered columns

The same columns in another order have other indices.  Where the names of columns differ even when
case is ignored, and no two properties find the same field, two columns never claim a field with
the same rank.  The claims that stand are then known without the order: they are those of highest
rank on their fields.  So the order of the columns changes a plan by the indices of its columns and
by the order of its field bindings, and it never decides whether there is a plan.

    x stands  ↔  no column has a claim of higher rank on its field      (mem_map_standing_iff)
    IsPlan t columns m r p → ∃ p', IsPlan t columns' m r p' ∧
      p.Reorders p'                                                     (IsPlan.exists_reorders)
-/

namespace Hydration

open Traversal

variable {ρ : Type}

/-! ## Algorithm -/

/-- The column without its place in the row. -/
def Column.unplaced (c : Column) : Column := { c with index := 0 }

def Claim.unplaced (x : Claim) : Claim := { x with column := x.column.unplaced }

def Draft.unplaced (d : Draft) : Draft := { d with column := d.column.unplaced }

def Binding.unplaced (b : Binding) : Binding := { b with column := b.column.unplaced }

/-- The same columns in another order, by names that differ even when case is ignored. -/
structure Reordered (columns columns' : List Column) : Prop where
  perm : (columns'.map Column.unplaced).Perm (columns.map Column.unplaced)
  indices : (columns.map Column.index).Nodup
  indices' : (columns'.map Column.index).Nodup
  names : (columns.map fun c => Text.fold c.name).Nodup

/-- No two configured properties find the same field. -/
def PropertiesApart (t : Target ρ) (m : Option ResultMap) : Prop :=
  ∀ map, m = some map → ∀ p ∈ map.properties.items, ∀ q ∈ map.properties.items, ∀ i,
    t.fieldIndex? p.field = some i → t.fieldIndex? q.field = some i → p = q

/-- `z` is the claim of one of the columns, and none of them has a higher claim on its field. -/
def Claim.Tops (claim : Column → Option Claim) (columns : List Column) (z : Claim) : Prop :=
  z.column ∈ columns ∧ claim z.column = some z ∧
    ∀ c ∈ columns, ∀ y, claim c = some y → y.field = z.field → y.rank ≤ z.rank

/-- `p'` is `p` for columns in another order. -/
structure Plan.Reorders (p p' : Plan) : Prop where
  construction : p'.construction = p.construction
  arguments : p'.arguments.map Binding.unplaced = p.arguments.map Binding.unplaced
  fields : (p'.fields.map Binding.unplaced).Perm (p.fields.map Binding.unplaced)

/-! ## Columns and names -/

section
variable {columns columns' : List Column} {c d : Column} {name : String}

theorem Plan.column?_eq_some_iff (hn : (columns.map fun c => Text.fold c.name).Nodup) :
    Plan.column? columns name = some c ↔ c ∈ columns ∧ Text.fold c.name = Text.fold name := by
  have hfound : ∀ {i}, Text.locate (fun c : Column => some c.name) columns name = some i →
      ∃ d, columns[i]? = some d ∧ Text.fold d.name = Text.fold name := by
    intro i hi
    obtain ⟨e, he⟩ := Text.locate_iff_finds.1 hi
    obtain ⟨d, l, hd, hl, hf⟩ := he.fold_eq
    cases hl
    exact ⟨d, hd, hf⟩
  rw [Plan.column?, Option.bind_eq_some_iff]
  constructor
  · rintro ⟨i, hi, hc⟩
    obtain ⟨d, hd, hf⟩ := hfound hi
    rw [hc, Option.some.injEq] at hd
    exact ⟨List.mem_of_getElem? hc, hd ▸ hf⟩
  · rintro ⟨hc, hf⟩
    obtain ⟨i, hi⟩ : ∃ i, Text.locate (fun c : Column => some c.name) columns name = some i :=
      Text.exists_locate hc rfl hf
    obtain ⟨d, hd, hdf⟩ := hfound hi
    have hdc := List.inj_on_of_nodup_map hn (List.mem_of_getElem? hd) hc (hdf.trans hf.symm)
    exact ⟨i, hi, hdc ▸ hd⟩

namespace Reordered

variable (h : Reordered columns columns')
include h

theorem names' : (columns'.map fun c => Text.fold c.name).Nodup := by
  have hp := h.perm.map fun c => Text.fold c.name
  rw [List.map_map, List.map_map] at hp
  exact hp.nodup_iff.2 h.names

theorem symm : Reordered columns' columns := ⟨h.perm.symm, h.indices', h.indices, h.names'⟩

theorem exists_mem (hc : c ∈ columns) : ∃ c' ∈ columns', c'.unplaced = c.unplaced :=
  List.mem_map.1 (h.perm.mem_iff.2 (List.mem_map_of_mem hc))

/-- Columns of one name are the same. -/
theorem eq_of_fold (hc : c ∈ columns) (hd : d ∈ columns)
    (hf : Text.fold c.name = Text.fold d.name) : c = d :=
  List.inj_on_of_nodup_map h.names hc hd hf

theorem eq_of_unplaced (hc : c ∈ columns) (hd : d ∈ columns) (he : c.unplaced = d.unplaced) :
    c = d :=
  h.eq_of_fold hc hd (congrArg (fun c => Text.fold c.name) he)

/-- A name finds the same column, whatever its place. -/
theorem column?_eq (name : String) :
    (Plan.column? columns' name).map Column.unplaced =
      (Plan.column? columns name).map Column.unplaced := by
  refine Option.ext fun u => ?_
  simp only [Option.map_eq_some_iff, Plan.column?_eq_some_iff h.names,
    Plan.column?_eq_some_iff h.names']
  constructor
  · rintro ⟨c, ⟨hc, hf⟩, rfl⟩
    obtain ⟨d, hd, hdc⟩ := h.symm.exists_mem hc
    exact ⟨d, ⟨hd, (congrArg (fun c => Text.fold c.name) hdc).trans hf⟩, hdc⟩
  · rintro ⟨c, ⟨hc, hf⟩, rfl⟩
    obtain ⟨d, hd, hdc⟩ := h.exists_mem hc
    exact ⟨d, ⟨hd, (congrArg (fun c => Text.fold c.name) hdc).trans hf⟩, hdc⟩

end Reordered

end

/-! ## Claims -/

section
variable {t : Target ρ} {m : Option ResultMap} {arguments arguments' : List Binding}
  {columns columns' : List Column}

theorem Claim.resolve_unplaced (t : Target ρ) (m : Option ResultMap) (c : Column) :
    Claim.resolve t m c.unplaced = (Claim.resolve t m c).map Claim.unplaced := by
  have hproperty : Claim.ofProperty? t m c.unplaced =
      (Claim.ofProperty? t m c).map Claim.unplaced := by
    unfold Claim.ofProperty?
    rw [show c.unplaced.name = c.name from rfl]
    cases m.bind fun m => m.properties.find? c.name with
    | none => rfl
    | some p => rw [Option.map_map]; rfl
  have hdeclaration : Claim.ofDeclaration? t c.unplaced =
      (Claim.ofDeclaration? t c).map Claim.unplaced := by
    unfold Claim.ofDeclaration?
    rw [Option.map_map]
    rfl
  have hname : Claim.ofName? t c.unplaced = (Claim.ofName? t c).map Claim.unplaced := by
    unfold Claim.ofName?
    rw [Option.map_map]
    rfl
  unfold Claim.resolve
  rw [hproperty, hdeclaration, hname]
  cases Claim.ofProperty? t m c with
  | some x => rfl
  | none => cases Claim.ofDeclaration? t c <;> rfl

namespace Plan

theorem claim?_unplaced (t : Target ρ) (m : Option ResultMap) (arguments : List Binding)
    (c : Column) : claim? t m arguments c.unplaced = (claim? t m arguments c).map Claim.unplaced := by
  unfold claim?
  rw [Claim.resolve_unplaced]
  cases Claim.resolve t m c with
  | none => rfl
  | some x =>
    rw [Option.map_some, Option.filter_some, Option.filter_some]
    show (if x.isOpen t _ = true then _ else _) = _
    split <;> rfl

/-- The claims of columns depend on the names of what is bound to arguments. -/
theorem claim?_congr (h : arguments'.map Binding.unplaced = arguments.map Binding.unplaced) :
    claim? t m arguments' = claim? t m arguments := by
  have hnames := congrArg (List.map Binding.name) h
  rw [List.map_map, List.map_map] at hnames
  have hnames : arguments'.map Binding.name = arguments.map Binding.name := hnames
  funext c
  rw [claim?, claim?, hnames]

end Plan

/-- The rank of a claim tells what it rests on. -/
theorem Resolution.basis_eq {k l : Resolution} (h : k.settledRank = l.settledRank) :
    k.basis = l.basis := by
  obtain ⟨_, b, e, _⟩ := k
  obtain ⟨_, b', e', _⟩ := l
  revert h
  unfold Resolution.settledRank
  cases b <;> cases e <;> cases b' <;> cases e' <;> simp [Basis.weight]

/-- Columns of different names do not claim a field with the same rank. -/
theorem eq_of_rank_eq (hm : PropertiesApart t m)
    (hn : (columns.map fun c => Text.fold c.name).Nodup) {c d : Column} {x y : Claim}
    (hc : c ∈ columns) (hd : d ∈ columns) (hx : Claim.resolve t m c = some x)
    (hy : Claim.resolve t m d = some y) (hf : x.field = y.field) (hr : x.rank = y.rank) :
    c = d := by
  refine List.inj_on_of_nodup_map hn hc hd ?_
  obtain ⟨k, hk, rfl⟩ := resolve_eq_some_iff.1 hx
  obtain ⟨l, hl, rfl⟩ := resolve_eq_some_iff.1 hy
  rw [Resolution.rank_claim, Resolution.rank_claim] at hr
  have hbasis := Resolution.basis_eq hr
  have hfield : k.field = l.field := hf
  -- on one basis the columns have the same property, or names that find the same label
  cases hk with
  | configured hp =>
    cases hl with
    | configured hq =>
      obtain ⟨⟨map, rfl, hpm⟩, hpc, hpf⟩ := hp
      obtain ⟨⟨map', hmap, hqm⟩, hqc, hqf⟩ := hq
      cases hmap
      cases hfield
      have hpq := hm map rfl _ hpm _ hqm _ (Text.locate_iff_finds.2 ⟨_, hpf⟩)
        (Text.locate_iff_finds.2 ⟨_, hqf⟩)
      rw [← hpc, ← hqc, hpq]
    | declared => cases hbasis
    | name => cases hbasis
  | declared _ hcf =>
    cases hl with
    | configured => cases hbasis
    | declared _ hdf =>
      cases hfield
      exact hcf.fold_eq_fold hdf
    | name => cases hbasis
  | name _ _ hcf =>
    cases hl with
    | configured => cases hbasis
    | declared => cases hbasis
    | name _ _ hdf =>
      cases hfield
      exact hcf.fold_eq_fold hdf

/-- Where no two columns tie, the claims that stand are those of highest rank. -/
theorem Claim.Contested.mem_iff_tops {claim : Column → Option Claim} {seen : List Column}
    {s : List Claim × List Column} (h : Claim.Contested claim seen s)
    (hties : ∀ c ∈ seen, ∀ d ∈ seen, ∀ x y, claim c = some x → claim d = some y →
      x.field = y.field → x.rank = y.rank → c = d) {x : Claim} :
    x ∈ s.1 ↔ Claim.Tops claim seen x := by
  have hmem : ∀ {x}, x ∈ s.1 → claim x.column = some x ∧ x.column ∈ seen := by
    intro x hx
    obtain ⟨hown, before, after, hsplit, -⟩ := h.wins x hx
    exact ⟨hown, by rw [hsplit]; simp⟩
  constructor
  · intro hx
    exact ⟨(hmem hx).2, (hmem hx).1, fun c hc y hy hf => (h.wins x hx).rank_le hc hy hf⟩
  · rintro ⟨hseen, hown, htop⟩
    -- the claim that is held on the field ties with `x`, so it is that of the same column
    obtain ⟨z, hz, hzf⟩ := List.mem_map.1 (h.held x.column hseen x hown)
    have hle := htop z.column (hmem hz).2 z (hmem hz).1 hzf
    have hge := (h.wins z hz).rank_le hseen hown hzf.symm
    have hzx := hties z.column (hmem hz).2 x.column hseen z x (hmem hz).1 hown hzf (by omega)
    have hclaim := (hmem hz).1
    rw [hzx, hown, Option.some.injEq] at hclaim
    exact hclaim ▸ hz

end

/-! ## Plans -/

namespace Plan

variable {t : Target ρ} {m : Option ResultMap} {r : Registry} {p : Plan}
  {arguments arguments' : List Binding} {columns columns' : List Column}

/-- A binding's coercion does not depend on the place of its column. -/
theorem bind_unplaced (r : Registry) (d : Draft) :
    d.unplaced.bind r = (d.bind r).map Binding.unplaced := by
  show (Except.map _ (Coercion.resolve r d.kind d.nullable d.column.kind d.handler).1) = _
  unfold Draft.bind
  cases (Coercion.resolve r d.kind d.nullable d.column.kind d.handler).1 <;> rfl

theorem map_unplaced_argument (h : Reordered columns columns') (target : String) (r : Registry)
    (a : Argument × Nat) :
    (argument target columns' r a).map Binding.unplaced =
      (argument target columns r a).map Binding.unplaced := by
  have hc := h.column?_eq a.1.column
  unfold argument
  cases hcol : column? columns a.1.column with
  | none =>
    rw [hcol, Option.map_none, Option.map_eq_none_iff] at hc
    rw [hc]
  | some c =>
    rw [hcol, Option.map_some, Option.map_eq_some_iff] at hc
    obtain ⟨c', hc', he⟩ := hc
    simp only [hc', ← bind_unplaced, Draft.unplaced, he]

/-- The columns that feed no argument are the same columns. -/
theorem mem_map_freeColumns_iff (h : Reordered columns columns')
    (ha : ∀ b ∈ arguments, b.column ∈ columns) {u : Column} :
    u ∈ (freeColumns arguments columns).map Column.unplaced ↔
      u ∈ columns.map Column.unplaced ∧
        u ∉ (arguments.map Binding.unplaced).map Binding.column := by
  have hplaced : ∀ {c}, c ∈ columns →
      (c ∈ arguments.map Binding.column ↔
        c.unplaced ∈ (arguments.map Binding.unplaced).map Binding.column) := by
    intro c hc
    rw [List.map_map, List.mem_map, List.mem_map]
    refine exists_congr fun b => and_congr_right fun hb => ?_
    exact ⟨fun hbc => congrArg Column.unplaced hbc, h.eq_of_unplaced (ha b hb) hc⟩
  rw [List.mem_map, List.mem_map]
  constructor
  · rintro ⟨c, hfree, rfl⟩
    have hc := mem_of_mem_freeColumns hfree
    rw [mem_freeColumns_iff h.indices ha hc, hplaced hc] at hfree
    exact ⟨⟨c, hc, rfl⟩, hfree⟩
  · rintro ⟨⟨c, hc, rfl⟩, hfree⟩
    rw [← hplaced hc, ← mem_freeColumns_iff h.indices ha hc] at hfree
    exact ⟨c, hfree, rfl⟩

/-- The claims that stand, without the places of their columns, are those of highest rank. -/
theorem mem_map_standing_iff (h : Reordered columns columns') (hm : PropertiesApart t m)
    {z : Claim} :
    z ∈ (standing t m arguments columns).1.map Claim.unplaced ↔
      Claim.Tops (claim? t m arguments)
        ((freeColumns arguments columns).map Column.unplaced) z := by
  have hmem : ∀ {x}, x ∈ (standing t m arguments columns).1 ↔
      Claim.Tops (claim? t m arguments) (freeColumns arguments columns) x :=
    (contested_standing t m arguments columns).mem_iff_tops fun c hc d hd x y hx hy hf hr =>
      eq_of_rank_eq hm h.names (mem_of_mem_freeColumns hc) (mem_of_mem_freeColumns hd)
        (claim?_eq_some_iff.1 hx).1 (claim?_eq_some_iff.1 hy).1 hf hr
  rw [List.mem_map]
  constructor
  · rintro ⟨x, hx, rfl⟩
    obtain ⟨hfree, hown, htop⟩ := hmem.1 hx
    refine ⟨List.mem_map_of_mem hfree, ?_, fun c hc y hy hf => ?_⟩
    · show claim? t m arguments x.column.unplaced = some x.unplaced
      rw [claim?_unplaced, hown, Option.map_some]
    · obtain ⟨d, hd, rfl⟩ := List.mem_map.1 hc
      rw [claim?_unplaced, Option.map_eq_some_iff] at hy
      obtain ⟨y, hy, rfl⟩ := hy
      exact htop d hd y hy hf
  · rintro ⟨hfree, hown, htop⟩
    obtain ⟨c, hc, hcz⟩ := List.mem_map.1 hfree
    rw [← hcz, claim?_unplaced, Option.map_eq_some_iff] at hown
    obtain ⟨x, hx, rfl⟩ := hown
    have hxc : x.column = c := Claim.resolve_column (claim?_eq_some_iff.1 hx).1
    refine ⟨x, hmem.2 ⟨hxc ▸ hc, hxc ▸ hx, fun d hd y hy hf => ?_⟩, rfl⟩
    refine htop d.unplaced (List.mem_map_of_mem hd) y.unplaced ?_ hf
    rw [claim?_unplaced, hy, Option.map_some]

theorem nodup_map_standing :
    ((standing t m arguments columns).1.map Claim.unplaced).Nodup := by
  refine List.Nodup.of_map Claim.field ?_
  rw [List.map_map]
  exact (contested_standing t m arguments columns).fields

/-- The same claims stand. -/
theorem standing_perm (h : Reordered columns columns') (hm : PropertiesApart t m)
    (ha : ∀ b ∈ arguments, b.column ∈ columns) (ha' : ∀ b ∈ arguments', b.column ∈ columns')
    (he : arguments'.map Binding.unplaced = arguments.map Binding.unplaced) :
    ((standing t m arguments' columns').1.map Claim.unplaced).Perm
      ((standing t m arguments columns).1.map Claim.unplaced) := by
  rw [List.perm_ext_iff_of_nodup nodup_map_standing nodup_map_standing]
  intro z
  have hfree : ∀ u, u ∈ (freeColumns arguments' columns').map Column.unplaced ↔
      u ∈ (freeColumns arguments columns).map Column.unplaced := by
    intro u
    rw [mem_map_freeColumns_iff h.symm ha', mem_map_freeColumns_iff h ha, he, h.perm.mem_iff]
  rw [mem_map_standing_iff h.symm hm, mem_map_standing_iff h hm, claim?_congr he]
  simp only [Claim.Tops, hfree]

theorem map_unplaced_bind (t : Target ρ) (r : Registry) (xs : List Claim) :
    ((xs.filterMap (Draft.ofClaim? t)).map fun d => (d.bind r).map Binding.unplaced) =
      ((xs.map Claim.unplaced).filterMap (Draft.ofClaim? t)).map (Draft.bind r) := by
  rw [List.filterMap_map, List.map_filterMap, List.map_filterMap]
  refine List.filterMap_congr fun x _ => ?_
  show _ = ((t.field? x.field).map (Draft.ofField x.unplaced)).map (Draft.bind r)
  rw [Draft.ofClaim?, Option.map_map, Option.map_map]
  refine congrArg (fun f => Option.map f (t.field? x.field)) (funext fun f => ?_)
  exact (bind_unplaced r (.ofField x f)).symm

/-! ## Top theorems -/

/-- Where the columns have a plan, the same columns in another order have the same plan, but for
the indices of the columns and the order of the fields. -/
theorem IsPlan.exists_reorders (hp : IsPlan t columns m r p) (h : Reordered columns columns')
    (hm : PropertiesApart t m) : ∃ p', IsPlan t columns' m r p' ∧ p.Reorders p' := by
  have hargs : (((m.bind ResultMap.arguments).getD []).zipIdx.map fun a =>
      (argument t.name columns' r a).map Binding.unplaced) =
        ((m.bind ResultMap.arguments).getD []).zipIdx.map fun a =>
          (argument t.name columns r a).map Binding.unplaced :=
    List.map_congr_left fun a _ => map_unplaced_argument h t.name r a
  obtain ⟨arguments', harguments, hsame⟩ := exists_map_ok_of_eq hp.arguments hargs
  have hstanding := standing_perm h hm (fun _ => hp.mem_of_argument)
    (fun _ => mem_of_map_argument harguments) hsame
  have hdrafts : (((standing t m arguments' columns').1.filterMap (Draft.ofClaim? t)).map fun d =>
      (d.bind r).map Binding.unplaced).Perm
        (((standing t m p.arguments columns).1.filterMap (Draft.ofClaim? t)).map fun d =>
          (d.bind r).map Binding.unplaced) := by
    rw [map_unplaced_bind, map_unplaced_bind]
    exact (hstanding.filterMap _).map _
  obtain ⟨fields', hfields, hperm⟩ := exists_map_ok_of_perm hp.fields hdrafts
  refine ⟨⟨p.construction, arguments', fields', (standing t m arguments' columns').2.mergeSort
    fun a b => decide (a.index ≤ b.index)⟩, ⟨hp.construction, harguments, hfields, rfl⟩, ?_⟩
  exact ⟨rfl, hsame, hperm⟩

end Plan

end Hydration
