import Hydration.Proofs.Plan.Contest
import Hydration.Proofs.Plan.Draft

/-!
# The claims that stand

The field bindings of a plan are the claims that stand after the contest, in their order, and
every claim that stands is on a field that can be written and that no argument initialises.

    claim?_eq_some_iff      the claims that enter the contest
    IsPlan.map_fields       what the field bindings take from their claims
    IsPlan.exists_feeds     a field binding feeds its field from a standing claim's column
-/

namespace Hydration

open Traversal

variable {ρ : Type}

/-- The binding feeds the open field `f` from the column of the claim `x`. -/
structure Binding.Feeds (t : Target ρ) (arguments : List Binding) (r : Registry) (x : Claim)
    (f : Field ρ) (b : Binding) : Prop where
  field : t.field? x.field = some f
  writable : f.isWritable = true
  free : f.name ∉ arguments.map Binding.name
  destination : b.destination = .field x.field
  name : b.name = f.name
  column : b.column = x.column
  kind : b.kind = f.kind
  nullable : b.nullable = f.nullable
  coercion : (Coercion.resolve r f.kind f.nullable x.column.kind (x.handler <|> f.handler)).1 =
    .ok b.coercion

/-! ## Claims that enter the contest -/

theorem Claim.isOpen_iff {t : Target ρ} {taken : List String} {x : Claim} :
    x.isOpen t taken = true ↔
      ∃ f, t.field? x.field = some f ∧ f.isWritable = true ∧ f.name ∉ taken := by
  unfold Claim.isOpen
  cases t.field? x.field with
  | none => simp
  | some f => simp

namespace Plan

variable {t : Target ρ} {columns : List Column} {m : Option ResultMap} {r : Registry} {p : Plan}
  {arguments : List Binding}

theorem claim?_eq_some_iff {c : Column} {x : Claim} :
    claim? t m arguments c = some x ↔ Claim.resolve t m c = some x ∧
      ∃ f, t.field? x.field = some f ∧ f.isWritable = true ∧
        f.name ∉ arguments.map Binding.name := by
  rw [claim?, Option.filter_eq_some_iff, Claim.isOpen_iff]

theorem contested_standing (t : Target ρ) (m : Option ResultMap) (arguments : List Binding)
    (columns : List Column) :
    Claim.Contested (claim? t m arguments) (freeColumns arguments columns)
      (standing t m arguments columns) :=
  Claim.contested_contest (fun _ _ hx => Claim.resolve_column (claim?_eq_some_iff.1 hx).1) _

theorem mem_of_mem_freeColumns {c : Column} (h : c ∈ freeColumns arguments columns) :
    c ∈ columns :=
  (List.mem_filter.1 h).1

theorem column_of_mem_standing {x : Claim} (hx : x ∈ (standing t m arguments columns).1) :
    x.column ∈ columns := by
  obtain ⟨-, before, after, hsplit, -⟩ := (contested_standing t m arguments columns).wins x hx
  have hfree : x.column ∈ freeColumns arguments columns := by
    rw [hsplit]
    simp
  exact mem_of_mem_freeColumns hfree

theorem resolve_of_mem_standing {x : Claim} (hx : x ∈ (standing t m arguments columns).1) :
    Claim.resolve t m x.column = some x :=
  (claim?_eq_some_iff.1 ((contested_standing t m arguments columns).wins x hx).1).1

/-- A claim that stands is on a field that is open. -/
theorem field_of_mem_standing {x : Claim} (hx : x ∈ (standing t m arguments columns).1) :
    ∃ f, t.field? x.field = some f ∧ f.isWritable = true ∧
      f.name ∉ arguments.map Binding.name :=
  (claim?_eq_some_iff.1 ((contested_standing t m arguments columns).wins x hx).1).2

/-! ## Field bindings -/

/-- What every draft takes from its claim, the field bindings take from the standing claims. -/
theorem IsPlan.map_fields {γ : Type} (hp : IsPlan t columns m r p) (g : Binding → γ)
    (k : Draft → γ) (l : Claim → γ) (hg : ∀ d b, Draft.bind r d = .ok b → g b = k d)
    (hk : ∀ x (f : Field ρ), k (.ofField x f) = l x) :
    p.fields.map g = (standing t m p.arguments columns).1.map l := by
  rw [map_eq_of_map_ok hp.fields hg, List.map_filterMap, ← List.filterMap_eq_map']
  refine List.filterMap_congr fun x hx => ?_
  obtain ⟨f, hf, -⟩ := field_of_mem_standing hx
  rw [Draft.ofClaim?_of_field hf, Option.map_some, hk]

theorem IsPlan.map_destination (hp : IsPlan t columns m r p) :
    p.fields.map Binding.destination =
      (standing t m p.arguments columns).1.map fun x => .field x.field :=
  hp.map_fields Binding.destination Draft.destination _
    (fun _ _ h => (Draft.bind_eq_ok_iff.1 h).2.1.symm) fun _ _ => rfl

/-- No field is bound twice. -/
theorem IsPlan.nodup_destinations (hp : IsPlan t columns m r p) :
    (p.fields.map Binding.destination).Nodup := by
  have hfields := (contested_standing t m p.arguments columns).fields.map
    (f := Destination.field) fun _ _ h => Destination.field.inj h
  rw [List.map_map] at hfields
  rw [hp.map_destination]
  exact hfields

/-- Every field binding comes from a claim that stands. -/
theorem IsPlan.exists_feeds (hp : IsPlan t columns m r p) {b : Binding} (hb : b ∈ p.fields) :
    ∃ x ∈ (standing t m p.arguments columns).1, ∃ f, b.Feeds t p.arguments r x f := by
  obtain ⟨d, hd, hbind⟩ := exists_of_mem_of_map_ok hp.fields hb
  obtain ⟨x, hx, hxd⟩ := List.mem_filterMap.1 hd
  obtain ⟨f, hf, rfl⟩ := Option.map_eq_some_iff.1 hxd
  obtain ⟨g, hg, hw, hn⟩ := field_of_mem_standing hx
  rw [hf, Option.some.injEq] at hg
  subst hg
  obtain ⟨hres, hdest, hname, hcol, hkind, hnull⟩ := Draft.bind_eq_ok_iff.1 hbind
  exact ⟨x, hx, f, hf, hw, hn, hdest.symm, hname.symm, hcol.symm, hkind.symm, hnull.symm, hres⟩

end Plan

end Hydration
