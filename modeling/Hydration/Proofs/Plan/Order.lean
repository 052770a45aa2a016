import Hydration.Proofs.Plan.Initialised
import Hydration.Proofs.Plan.Partition
import Hydration.Proofs.Plan.Selection

/-!
# The order of the fields

The field bindings of a plan come in the order in which their fields were opened, that is, first
resolved to by a column that feeds no argument.  A column that takes a field over later is written
in the place of the field.  So the bindings are in the order of their own columns unless a field
leaps: it is fed by a later column than another field that was opened after it.

    Opens t m columns i c      c is the first of the columns that resolve to the field at i
    b.Leaps t m columns b'     b was opened before b', and is fed after it
    fields_ordered_of_build    the order of the bindings, and when it is that of their columns
-/

namespace Hydration

variable {ρ : Type} {t : Target ρ} {m : Option ResultMap} {columns : List Column} {i : Nat}
  {c d : Column}

/-! ## Algorithm -/

/-- `c` is the first of the columns that resolve to the field at `i`. -/
def Opens (t : Target ρ) (m : Option ResultMap) (columns : List Column) (i : Nat) (c : Column) :
    Prop :=
  First (fun d => ∃ k, Resolves t m d k ∧ k.field = i) columns c

/-- `c` is the first of the columns that resolve to the field that the binding feeds. -/
def Binding.OpenedBy (t : Target ρ) (m : Option ResultMap) (columns : List Column) (b : Binding)
    (c : Column) : Prop :=
  ∃ i, b.destination = .field i ∧ Opens t m columns i c

/-- The field of `b` was opened before that of `b'`, and it is fed by a later column. -/
def Binding.Leaps (t : Target ρ) (m : Option ResultMap) (columns : List Column) (b b' : Binding) :
    Prop :=
  ∃ c c', b.OpenedBy t m columns c ∧ b'.OpenedBy t m columns c' ∧ c.index < c'.index ∧
    c'.index ≤ b'.column.index ∧ b'.column.index < b.column.index

/-! ## Lemmas -/

theorem Opens.index_le (h : Opens t m columns i c)
    (hc : columns.Pairwise fun a b => a.index < b.index) (hd : d ∈ columns) {k : Resolution}
    (hk : Resolves t m d k) (hi : k.field = i) : c.index ≤ d.index := by
  obtain ⟨-, before, after, rfl, hbefore⟩ := h
  rcases List.mem_append.1 hd with hd | hd
  · exact absurd ⟨k, hk, hi⟩ (hbefore d hd)
  · rcases List.mem_cons.1 hd with rfl | hd
    · exact Nat.le_refl _
    · have hlt := List.rel_of_pairwise_cons (List.pairwise_append.1 hc).2.1 hd
      exact Nat.le_of_lt hlt

/-- The columns of claims, in their order, are among the columns that made them. -/
theorem Claim.sublist_map_column {claim : Column → Option Claim}
    (hcol : ∀ c x, claim c = some x → x.column = c) (columns : List Column) :
    ((columns.filterMap claim).map Claim.column).Sublist columns := by
  induction columns with
  | nil => exact .slnil
  | cons c rest ih =>
    cases hc : claim c with
    | none =>
      rw [List.filterMap_cons_none hc]
      exact ih.cons c
    | some x =>
      rw [List.filterMap_cons_some hc, List.map_cons, hcol c x hc]
      exact ih.cons_cons c

namespace Plan

variable {r : Registry} {p : Plan} {arguments : List Binding}

/-- The first claim on a field is that of the column that opens it. -/
theorem opens_of_first {x : Claim}
    (h : First (fun y => y.field = x.field) (columns.filterMap (claim? t m arguments)) x) :
    Opens t m columns x.field x.column := by
  obtain ⟨-, before, after, hsplit, hbefore⟩ := h
  obtain ⟨front, back, rfl, hfront, hback⟩ := List.filterMap_eq_append_iff.1 hsplit
  obtain ⟨silent, c, rest, rfl, hsilent, hc, -⟩ := List.filterMap_eq_cons_iff.1 hback
  obtain ⟨hres, f, hf, hw, hfree⟩ := claim?_eq_some_iff.1 hc
  have hn : ∀ a ∈ arguments, a.name ≠ f.name := fun a ha he => hfree (he ▸ List.mem_map_of_mem ha)
  obtain ⟨k, hk, hkx⟩ := resolve_eq_some_iff.1 hres
  have hcol : x.column = c := Claim.resolve_column hres
  rw [hcol]
  refine ⟨⟨k, hk, by rw [← hkx]; rfl⟩, front ++ silent, rest, by simp, ?_⟩
  -- a column before it that resolves to the field would have claimed it
  rintro d hd ⟨l, hl, hi⟩
  obtain ⟨hclaim, hfield⟩ := (claim?_of_open (c := d) hf hw hn).2 ⟨l, hl, hi, rfl⟩
  rcases List.mem_append.1 hd with hd | hd
  · refine hbefore (l.claim d) ?_ hfield
    rw [← hfront]
    exact List.mem_filterMap.2 ⟨d, hd, hclaim⟩
  · rw [hsilent d hd] at hclaim
    cases hclaim

/-- The fields that are fed, in the order of the bindings, with the first claim on each. -/
theorem IsPlan.exists_opening (hp : IsPlan t columns m r p) :
    ∃ opening : List Claim,
      p.fields.map Binding.destination = opening.map (fun x => .field x.field) ∧
      (opening.map Claim.column).Sublist columns ∧
      ∀ x ∈ opening, Opens t m (freeColumns p.arguments columns) x.field x.column := by
  have hcol : ∀ c x, claim? t m p.arguments c = some x → x.column = c :=
    fun c x hx => Claim.resolve_column (claim?_eq_some_iff.1 hx).1
  obtain ⟨opening, hsub, hfields, hfirst⟩ := exists_firsts Claim.field
    ((freeColumns p.arguments columns).filterMap (claim? t m p.arguments))
  have hkept : (standing t m p.arguments columns).1.map Claim.field = opening.map Claim.field := by
    rw [hfields, ← Claim.map_field_kept, standing, Claim.contest_fst_eq_kept hcol]
  refine ⟨opening, ?_, ?_, fun x hx => opens_of_first (hfirst x hx)⟩
  · have hdest := congrArg (List.map Destination.field) hkept
    rw [List.map_map, List.map_map] at hdest
    exact hp.map_destination.trans hdest
  · exact ((hsub.map Claim.column).trans (Claim.sublist_map_column hcol _)).trans
      List.filter_sublist

/-- A binding's field was opened, at the latest by the binding's own column. -/
theorem IsPlan.exists_openedBy (hp : IsPlan t columns m r p)
    (hc : columns.Pairwise fun a b => a.index < b.index) {b : Binding} (hb : b ∈ p.fields) :
    ∃ c, b.OpenedBy t m (freeColumns p.arguments columns) c ∧ c.index ≤ b.column.index := by
  obtain ⟨opening, hdest, -, hopens⟩ := hp.exists_opening
  obtain ⟨y, hy, f, hfeeds⟩ := hp.exists_feeds hb
  have hmem : b.destination ∈ opening.map fun x => Destination.field x.field := by
    rw [← hdest]
    exact List.mem_map_of_mem hb
  obtain ⟨x, hx, hxb⟩ := List.mem_map.1 hmem
  have hxy : x.field = y.field := Destination.field.inj (hxb.trans hfeeds.destination)
  have hfree : b.column ∈ freeColumns p.arguments columns :=
    hp.free_perm.mem_iff.1 (List.mem_append_left _ (List.mem_map_of_mem hb))
  obtain ⟨k, hk, hky⟩ := resolve_eq_some_iff.1 (resolve_of_mem_standing hy)
  rw [← hfeeds.column] at hk
  have hkx : k.field = x.field := by
    rw [hxy, ← hky]
    rfl
  exact ⟨x.column, ⟨x.field, hxb.symm, hopens x hx⟩,
    (hopens x hx).index_le (hc.sublist List.filter_sublist) hfree hk hkx⟩

/-- The bindings come in the order in which their fields were opened. -/
theorem IsPlan.pairwise_openedBy (hp : IsPlan t columns m r p)
    (hc : columns.Pairwise fun a b => a.index < b.index) :
    p.fields.Pairwise fun b b' => ∀ c c', b.OpenedBy t m (freeColumns p.arguments columns) c →
      b'.OpenedBy t m (freeColumns p.arguments columns) c' → c.index < c'.index := by
  obtain ⟨opening, hdest, hsub, hopens⟩ := hp.exists_opening
  have hcolumns := hc.sublist hsub
  rw [List.pairwise_map] at hcolumns
  -- the order is one of destinations, which the bindings share with the opening claims
  have horder : (p.fields.map Binding.destination).Pairwise fun u v => ∀ i j c c', u = .field i →
      v = .field j → Opens t m (freeColumns p.arguments columns) i c →
      Opens t m (freeColumns p.arguments columns) j c' → c.index < c'.index := by
    rw [hdest, List.pairwise_map]
    refine hcolumns.imp_of_mem fun {x y} hx hy hxy i j c c' hi hj hco hco' => ?_
    cases hi
    cases hj
    rw [hco.unique (hopens x hx), hco'.unique (hopens y hy)]
    exact hxy
  refine (List.pairwise_map.1 horder).imp fun h c c' => ?_
  rintro ⟨i, hi, hco⟩ ⟨j, hj, hco'⟩
  exact h i j c c' hi hj hco hco'

/-- No two bindings are fed by columns of one index. -/
theorem IsPlan.pairwise_index_ne (hp : IsPlan t columns m r p)
    (hd : (columns.map Column.index).Nodup) :
    p.fields.Pairwise fun b b' => b.column.index ≠ b'.column.index := by
  have hnodup := hp.nodup_index hd
  rw [List.map_append, List.map_map] at hnodup
  exact List.pairwise_map.1 (List.nodup_append.1 hnodup).1

/-- The bindings are in the order of their columns exactly when no field leaps. -/
theorem IsPlan.pairwise_column_iff (hp : IsPlan t columns m r p)
    (hc : columns.Pairwise fun a b => a.index < b.index) :
    (p.fields.Pairwise fun b b' => b.column.index < b'.column.index) ↔
      ∀ b ∈ p.fields, ∀ b' ∈ p.fields,
        ¬b.Leaps t m (freeColumns p.arguments columns) b' := by
  have hopened := hp.pairwise_openedBy hc
  constructor
  · intro hordered b hb b' hb'
    have hself : ∀ u ∈ p.fields, ¬u.Leaps t m (freeColumns p.arguments columns) u := by
      rintro u - ⟨c, c', -, -, -, -, hleap⟩
      omega
    -- the first of two is fed by the earlier column
    have hforth : p.fields.Pairwise fun u v =>
        ¬u.Leaps t m (freeColumns p.arguments columns) v := by
      refine hordered.imp fun hlt => ?_
      rintro ⟨c, c', -, -, -, -, hleap⟩
      omega
    -- the second of two was opened later
    have hback : p.fields.Pairwise fun u v =>
        ¬v.Leaps t m (freeColumns p.arguments columns) u := by
      refine hopened.imp fun h => ?_
      rintro ⟨c, c', hv, hu, hlt, -, -⟩
      have hlt' := h c' c hu hv
      omega
    exact List.Pairwise.forall_of_forall_of_flip hself hforth hback hb hb'
  · intro hleaps
    have hd : (columns.map Column.index).Nodup :=
      List.pairwise_map.2 (hc.imp fun h => Nat.ne_of_lt h)
    refine (hopened.and (hp.pairwise_index_ne hd)).imp_of_mem fun {b b'} hb hb' h => ?_
    obtain ⟨c, hbc, -⟩ := hp.exists_openedBy hc hb
    obtain ⟨c', hbc', hle⟩ := hp.exists_openedBy hc hb'
    by_contra hnot
    have hleap : b'.column.index < b.column.index := by
      have hne := h.2
      omega
    exact hleaps b hb b' hb' ⟨c, c', hbc, hbc', h.1 c c' hbc hbc', hle, hleap⟩

/-! ## Top theorems -/

/-- The field bindings of a plan come in the order in which their fields were opened, each by the
first of the columns that feed no argument and resolve to it.  They are in the order of the columns
that feed them unless one leaps another. -/
theorem fields_ordered_of_build (t : Target ρ) (columns : List Column) (m : Option ResultMap)
    (r : Registry) (p : Plan) (hc : columns.Pairwise fun a b => a.index < b.index)
    (h : (build t columns m r).1 = .ok p) :
    (∀ b ∈ p.fields, ∃ c, b.OpenedBy t m (freeColumns p.arguments columns) c ∧
      c.index ≤ b.column.index) ∧
    (p.fields.Pairwise fun b b' => ∀ c c', b.OpenedBy t m (freeColumns p.arguments columns) c →
      b'.OpenedBy t m (freeColumns p.arguments columns) c' → c.index < c'.index) ∧
    ((p.fields.Pairwise fun b b' => b.column.index < b'.column.index) ↔
      ∀ b ∈ p.fields, ∀ b' ∈ p.fields,
        ¬b.Leaps t m (freeColumns p.arguments columns) b') := by
  have hp := build_fst_eq_ok_iff.1 h
  exact ⟨fun b hb => hp.exists_openedBy hc hb, hp.pairwise_openedBy hc, hp.pairwise_column_iff hc⟩

/-- Guests of a house. -/
def guestTarget : Target Value where
  name := "Guest"
  fields := .ofList [{ name := "name", kind := .text, setter := some fun v _ => (.ok (), v) },
    { name := "room", kind := .text, setter := some fun v _ => (.ok (), v) }]
  blank := some .null

/-- Two columns are called like the name, the first in capitals. -/
def guestColumns : List Column :=
  Column.number [("NAME", .text), ("room", .text), ("name", .text)]

def guestPlan : Plan where
  construction := .blank
  arguments := []
  fields := [⟨.field 0, "name", ⟨2, "name", .text⟩, .text, false, .directRead⟩,
    ⟨.field 1, "room", ⟨1, "room", .text⟩, .text, false, .directRead⟩]
  unmatched := [⟨0, "NAME", .text⟩]

/-- The name is opened before the room, so its binding comes first. -/
theorem fields_ordered_guestPlan :
    (guestColumns.Pairwise fun a b => a.index < b.index) ∧
      (build guestTarget guestColumns none {}).1 = .ok guestPlan ∧
      ∀ c c', Binding.OpenedBy guestTarget none guestColumns
          ⟨.field 0, "name", ⟨2, "name", .text⟩, .text, false, .directRead⟩ c →
        Binding.OpenedBy guestTarget none guestColumns
          ⟨.field 1, "room", ⟨1, "room", .text⟩, .text, false, .directRead⟩ c' →
        c.index < c'.index := by
  have hc : guestColumns.Pairwise fun a b => a.index < b.index := by decide
  have hbuild : (build guestTarget guestColumns none {}).1 = .ok guestPlan :=
    build_fst_eq_ok_iff.2 ⟨rfl, rfl, rfl, (List.mergeSort_of_pairwise (by decide)).symm⟩
  obtain ⟨-, hopened, -⟩ := fields_ordered_of_build guestTarget guestColumns none {} guestPlan
    hc hbuild
  exact ⟨hc, hbuild, List.rel_of_pairwise_cons hopened (List.mem_singleton.2 rfl)⟩

/-- The name keeps its place when the later of its columns takes it over, so it is written before
the room although the room's column comes first. -/
theorem taken_over_field_keeps_place :
    (guestColumns.Pairwise fun a b => a.index < b.index) ∧
      (build guestTarget guestColumns none {}).1 = .ok guestPlan ∧
      ¬guestPlan.fields.Pairwise fun b b' => b.column.index < b'.column.index := by
  refine ⟨by decide, build_fst_eq_ok_iff.2 ⟨rfl, rfl, rfl,
    (List.mergeSort_of_pairwise (by decide)).symm⟩, fun h => ?_⟩
  exact absurd (List.rel_of_pairwise_cons h (List.mem_singleton.2 rfl)) (by decide)

end Plan

end Hydration
