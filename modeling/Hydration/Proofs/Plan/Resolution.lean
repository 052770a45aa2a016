import Hydration.Plan.Claim
import Hydration.Proofs.Text.Naming

/-!
# What a column resolves to

The rules by which a column resolves to a field, without a search: a configured property of the
column whose field exists, else the declared column, else the field's name.  Names are found
exactly before they are found in another case.  The search of the planner follows the rules.

    Claim.resolve t m c = some x  ↔  ∃ k, Resolves t m c k ∧ k.claim c = x   (resolve_eq_some_iff)
-/

namespace Hydration

open Text

variable {ρ : Type}

/-! ## Resolutions -/

/-- What a column resolves to: the field, on which basis, whether the field was found exactly,
and the handler that is configured. -/
structure Resolution where
  field : Nat
  basis : Basis
  exact : Bool
  handler : Option String

/-- The rank of a resolution: its basis first, then whether it is exact. -/
def Resolution.rank (k : Resolution) : Nat := 2 * k.basis.weight + if k.exact then 1 else 0

/-- A property of the column finds a field. -/
def Configures (t : Target ρ) (m : Option ResultMap) (c : Column) (p : Property) (i : Nat)
    (e : Bool) : Prop :=
  (∃ map, m = some map ∧ p ∈ map.properties.items) ∧ p.column = c.name ∧
    Finds (fun f : Field ρ => some f.name) t.fields.items p.field i e

/-- What a column resolves to. -/
inductive Resolves (t : Target ρ) (m : Option ResultMap) (c : Column) : Resolution → Prop
  | configured {p : Property} {i : Nat} {e : Bool} (h : Configures t m c p i e) :
    Resolves t m c ⟨i, .configured, e, p.handler⟩
  | declared {i : Nat} {e : Bool} (hc : ∀ p i e, ¬Configures t m c p i e)
    (h : Finds Field.column t.fields.items c.name i e) :
    Resolves t m c ⟨i, .declared, e, none⟩
  | name {i : Nat} {e : Bool} (hc : ∀ p i e, ¬Configures t m c p i e)
    (hd : ∀ i e, ¬Finds Field.column t.fields.items c.name i e)
    (h : Finds (fun f : Field ρ => some f.name) t.fields.items c.name i e) :
    Resolves t m c ⟨i, .name, e, none⟩

theorem Configures.unique {t : Target ρ} {m : Option ResultMap} {c : Column} {p q : Property}
    {i j : Nat} {e e' : Bool} (h : Configures t m c p i e) (h' : Configures t m c q j e') :
    p = q ∧ i = j ∧ e = e' := by
  obtain ⟨⟨map, rfl, hp⟩, hpc, hpf⟩ := h
  obtain ⟨⟨map', hm, hq⟩, hqc, hqf⟩ := h'
  cases hm
  have hfp := Roster.find?_eq_some_iff.2 ⟨hp, hpc⟩
  have hfq := Roster.find?_eq_some_iff.2 ⟨hq, hqc⟩
  rw [hfp, Option.some.injEq] at hfq
  subst hfq
  exact ⟨rfl, hpf.unique hqf⟩

/-- A column resolves in one way. -/
theorem Resolves.unique {t : Target ρ} {m : Option ResultMap} {c : Column} {k l : Resolution}
    (hk : Resolves t m c k) (hl : Resolves t m c l) : k = l := by
  cases hk with
  | configured h =>
    cases hl with
    | configured h' =>
      obtain ⟨rfl, rfl, rfl⟩ := h.unique h'
      rfl
    | declared hc => exact absurd h (hc _ _ _)
    | name hc => exact absurd h (hc _ _ _)
  | declared hc h =>
    cases hl with
    | configured h' => exact absurd h' (hc _ _ _)
    | declared _ h' =>
      obtain ⟨rfl, rfl⟩ := h.unique h'
      rfl
    | name _ hd => exact absurd h (hd _ _)
  | name hc hd h =>
    cases hl with
    | configured h' => exact absurd h' (hc _ _ _)
    | declared _ h' => exact absurd h' (hd _ _)
    | name _ _ h' =>
      obtain ⟨rfl, rfl⟩ := h.unique h'
      rfl

/-- The claim of a column that resolves so.  A configured claim counts as exact. -/
def Resolution.claim (k : Resolution) (c : Column) : Claim :=
  ⟨k.field, c, k.handler, k.basis, k.exact || decide (k.basis = .configured)⟩

variable {t : Target ρ} {m : Option ResultMap} {c : Column} {x : Claim}

theorem ofProperty?_eq_some_iff :
    Claim.ofProperty? t m c = some x ↔
      ∃ p i e, Configures t m c p i e ∧ x = ⟨i, c, p.handler, .configured, true⟩ := by
  unfold Claim.ofProperty? Configures
  constructor
  · intro h
    split at h
    · rename_i p hp
      obtain ⟨map, hm, hf⟩ := Option.bind_eq_some_iff.1 hp
      obtain ⟨hmem, hcol⟩ := Roster.find?_eq_some_iff.1 hf
      obtain ⟨i, hi, rfl⟩ := Option.map_eq_some_iff.1 h
      obtain ⟨e, he⟩ := locate_iff_finds.1 hi
      exact ⟨p, i, e, ⟨⟨map, hm, hmem⟩, hcol, he⟩, rfl⟩
    · cases h
  · rintro ⟨p, i, e, ⟨⟨map, rfl, hmem⟩, hcol, he⟩, rfl⟩
    have hf : map.properties.find? c.name = some p := Roster.find?_eq_some_iff.2 ⟨hmem, hcol⟩
    have hi : t.fieldIndex? p.field = some i := locate_iff_finds.2 ⟨e, he⟩
    simp only [Option.bind_some, hf, hi, Option.map_some]

theorem ofProperty?_eq_none_iff :
    Claim.ofProperty? t m c = none ↔ ∀ p i e, ¬Configures t m c p i e := by
  rw [Option.eq_none_iff_forall_ne_some]
  constructor
  · intro h p i e hc
    exact h _ (ofProperty?_eq_some_iff.2 ⟨p, i, e, hc, rfl⟩)
  · intro h x hx
    obtain ⟨p, i, e, hc, -⟩ := ofProperty?_eq_some_iff.1 hx
    exact h p i e hc

theorem ofDeclaration?_eq_some_iff :
    Claim.ofDeclaration? t c = some x ↔
      ∃ i e, Finds Field.column t.fields.items c.name i e ∧ x = ⟨i, c, none, .declared, e⟩ := by
  unfold Claim.ofDeclaration? Target.fieldIndexByColumn?
  rw [Option.map_eq_some_iff]
  constructor
  · rintro ⟨i, hi, rfl⟩
    obtain ⟨e, he⟩ := locate_iff_finds.1 hi
    refine ⟨i, e, he, ?_⟩
    rw [he.exact_iff]
    rfl
  · rintro ⟨i, e, he, rfl⟩
    refine ⟨i, locate_iff_finds.2 ⟨e, he⟩, ?_⟩
    rw [he.exact_iff]
    rfl

theorem ofName?_eq_some_iff :
    Claim.ofName? t c = some x ↔
      ∃ i e, Finds (fun f : Field ρ => some f.name) t.fields.items c.name i e ∧
        x = ⟨i, c, none, .name, e⟩ := by
  unfold Claim.ofName? Target.fieldIndex?
  rw [Option.map_eq_some_iff]
  have hmap : ∀ i, (t.field? i).map Field.name = (t.fields.items[i]?).bind fun f => some f.name :=
    fun i => Option.map_eq_bind
  constructor
  · rintro ⟨i, hi, rfl⟩
    obtain ⟨e, he⟩ := locate_iff_finds.1 hi
    refine ⟨i, e, he, ?_⟩
    rw [he.exact_iff, hmap]
  · rintro ⟨i, e, he, rfl⟩
    refine ⟨i, locate_iff_finds.2 ⟨e, he⟩, ?_⟩
    rw [he.exact_iff, hmap]

theorem ofDeclaration?_eq_none_iff :
    Claim.ofDeclaration? t c = none ↔
      ∀ i e, ¬Finds Field.column t.fields.items c.name i e := by
  unfold Claim.ofDeclaration? Target.fieldIndexByColumn?
  rw [Option.map_eq_none_iff, locate_eq_none_iff]

theorem resolve_eq_some_iff_or :
    Claim.resolve t m c = some x ↔ Claim.ofProperty? t m c = some x ∨
      Claim.ofProperty? t m c = none ∧ (Claim.ofDeclaration? t c = some x ∨
        Claim.ofDeclaration? t c = none ∧ Claim.ofName? t c = some x) := by
  unfold Claim.resolve
  cases Claim.ofProperty? t m c <;> cases Claim.ofDeclaration? t c <;> simp

/-! ## Top theorems -/

/-- A column's claim is what the column resolves to. -/
theorem resolve_eq_some_iff :
    Claim.resolve t m c = some x ↔ ∃ k, Resolves t m c k ∧ k.claim c = x := by
  rw [resolve_eq_some_iff_or, ofProperty?_eq_some_iff, ofProperty?_eq_none_iff,
    ofDeclaration?_eq_some_iff, ofDeclaration?_eq_none_iff, ofName?_eq_some_iff]
  have hclaim : ∀ i b e, b ≠ Basis.configured →
      Resolution.claim ⟨i, b, e, none⟩ c = ⟨i, c, none, b, e⟩ := by
    intro i b e hb
    rw [Resolution.claim, decide_eq_false hb, Bool.or_false]
  constructor
  · rintro (⟨p, i, e, hc, rfl⟩ | ⟨hc, ⟨i, e, he, rfl⟩ | ⟨hd, i, e, he, rfl⟩⟩)
    · exact ⟨_, .configured hc, by simp [Resolution.claim]⟩
    · exact ⟨_, .declared hc he, hclaim i _ e (by decide)⟩
    · exact ⟨_, .name hc hd he, hclaim i _ e (by decide)⟩
  · rintro ⟨_, hc | ⟨hc, he⟩ | ⟨hc, hd, he⟩, rfl⟩
    · exact .inl ⟨_, _, _, hc, by simp [Resolution.claim]⟩
    · exact .inr ⟨hc, .inl ⟨_, _, he, hclaim _ _ _ (by decide)⟩⟩
    · exact .inr ⟨hc, .inr ⟨hd, _, _, he, hclaim _ _ _ (by decide)⟩⟩

/-- The field that a column resolves to exists. -/
theorem exists_field_of_resolve (h : Claim.resolve t m c = some x) :
    ∃ f, t.field? x.field = some f := by
  rcases resolve_eq_some_iff_or.1 h with hp | ⟨-, hd | ⟨-, hn⟩⟩
  · obtain ⟨p, i, e, hc, rfl⟩ := ofProperty?_eq_some_iff.1 hp
    exact Target.field?_of_fieldIndex? (locate_iff_finds.2 ⟨e, hc.2.2⟩)
  · obtain ⟨i, e, he, rfl⟩ := ofDeclaration?_eq_some_iff.1 hd
    exact Target.field?_of_fieldIndexByColumn? (locate_iff_finds.2 ⟨e, he⟩)
  · obtain ⟨i, e, he, rfl⟩ := ofName?_eq_some_iff.1 hn
    exact Target.field?_of_fieldIndex? (locate_iff_finds.2 ⟨e, he⟩)

end Hydration
