import Hydration.Proofs.Mapper.Synthesis
import Hydration.Proofs.Plan.Winner

/-!
# Fields beside arguments

A field that an argument initialises is not written again.  Which fields arguments initialise goes
by their names, letter for letter: an argument that is called like a field in another case does
not keep the field, although every other search for a name would find it.

    a field is fed when it can be written, no argument is called exactly so, and some column that
    feeds no argument resolves to it                                 (IsPlan.exists_field_iff_open)
    what this means for the fields that arguments are called after   (initialised_of_build)
-/

namespace Hydration

open Text Traversal

variable {ρ : Type}

/-! ## Lemmas -/

/-- A field is held in the end when some column claims it. -/
theorem Claim.Contested.exists_held_iff {claim : Column → Option Claim} {seen : List Column}
    {s : List Claim × List Column} (h : Contested claim seen s) {i : Nat} :
    (∃ x ∈ s.1, x.field = i) ↔ ∃ c ∈ seen, ∃ x, claim c = some x ∧ x.field = i := by
  constructor
  · rintro ⟨x, hx, hi⟩
    obtain ⟨hclaim, before, after, rfl, -⟩ := h.wins x hx
    exact ⟨x.column, by simp, x, hclaim, hi⟩
  · rintro ⟨c, hc, x, hx, rfl⟩
    obtain ⟨y, hy, hf⟩ := List.mem_map.1 (h.held c hc x hx)
    exact ⟨y, hy, hf⟩

namespace Plan

variable {t : Target ρ} {columns : List Column} {m : Option ResultMap} {r : Registry} {p : Plan}
  {i : Nat} {f : Field ρ}

/-- A column claims a field when it resolves to it, the field can be written, and no argument is
called like it. -/
theorem exists_claim?_iff {arguments : List Binding} (hf : t.field? i = some f) (c : Column) :
    (∃ x, claim? t m arguments c = some x ∧ x.field = i) ↔
      f.isWritable = true ∧ (∀ a ∈ arguments, a.name ≠ f.name) ∧
        ∃ k, Resolves t m c k ∧ k.field = i := by
  constructor
  · rintro ⟨x, hx, hi⟩
    obtain ⟨-, g, hg, hw, hfree⟩ := claim?_eq_some_iff.1 hx
    obtain rfl : f = g := Option.some.inj (hf.symm.trans (hi ▸ hg))
    have hn : ∀ a ∈ arguments, a.name ≠ f.name :=
      fun a ha he => hfree (he ▸ List.mem_map_of_mem ha)
    obtain ⟨k, hk, hki, -⟩ := (claim?_of_open hf hw hn).1 ⟨hx, hi⟩
    exact ⟨hw, hn, k, hk, hki⟩
  · rintro ⟨hw, hn, k, hk, hki⟩
    exact ⟨k.claim c, (claim?_of_open hf hw hn).2 ⟨k, hk, hki, rfl⟩⟩

/-- Which fields a plan feeds. -/
theorem IsPlan.exists_field_iff_open (hp : IsPlan t columns m r p) (hf : t.field? i = some f) :
    (∃ b ∈ p.fields, b.destination = .field i) ↔
      f.isWritable = true ∧ (∀ a ∈ p.arguments, a.name ≠ f.name) ∧
        ∃ c ∈ freeColumns p.arguments columns, ∃ k, Resolves t m c k ∧ k.field = i := by
  rw [hp.exists_field_iff, (contested_standing t m p.arguments columns).exists_held_iff]
  simp only [exists_claim?_iff hf]
  constructor
  · rintro ⟨c, hc, hw, hn, hk⟩
    exact ⟨hw, hn, c, hc, hk⟩
  · rintro ⟨hw, hn, c, hc, hk⟩
    exact ⟨c, hc, hw, hn, hk⟩

/-- The arguments' bindings are called like the fields that the arguments are to initialise. -/
theorem IsPlan.names_arguments (hp : IsPlan t columns m r p) {args : List Argument}
    (hm : m.bind ResultMap.arguments = some args) :
    p.arguments.map Binding.name = args.map Argument.field := by
  have harguments := hp.arguments
  rw [hm, Option.getD_some] at harguments
  refine map_of_map_argument harguments fun a b hab => ?_
  obtain ⟨c, -, hbind⟩ := argument_eq_ok_iff.1 hab
  exact (Draft.bind_eq_ok_iff.1 hbind).2.2.1.symm

/-! ## Top theorems -/

/-- A field that an argument is called after, letter for letter, is not fed beside it.  A field
that an argument is called after in another case is fed like any other: when it can be written,
when no argument is called exactly so, and when a column that feeds no argument resolves to it. -/
theorem initialised_of_build (t : Target ρ) (columns : List Column) (m : Option ResultMap)
    (r : Registry) (p : Plan) (args : List Argument) (hm : m.bind ResultMap.arguments = some args)
    (h : (build t columns m r).1 = .ok p) :
    p.arguments.map Binding.name = args.map Argument.field ∧
    ∀ a ∈ p.arguments, ∀ i, t.fieldIndex? a.name = some i → ∃ f, t.field? i = some f ∧
      (a.name = f.name → ∀ b ∈ p.fields, b.destination ≠ .field i) ∧
      ((∃ b ∈ p.fields, b.destination = .field i) ↔
        f.isWritable = true ∧ (∀ a ∈ p.arguments, a.name ≠ f.name) ∧
          ∃ c ∈ freeColumns p.arguments columns, ∃ k, Resolves t m c k ∧ k.field = i) := by
  have hp := build_fst_eq_ok_iff.1 h
  refine ⟨hp.names_arguments hm, fun a ha i hi => ?_⟩
  obtain ⟨f, hf⟩ := Target.field?_of_fieldIndex? hi
  have hfed := hp.exists_field_iff_open hf
  exact ⟨f, hf, fun hname b hb hdest => (hfed.1 ⟨b, hb, hdest⟩).2.1 a ha hname, hfed⟩

/-- Members: a constructor takes the id and the name, and both can be written afterwards. -/
def memberTarget : Target (Value × Value) where
  name := "Member"
  fields := .ofList [
    { name := "id", kind := .text, setter := some fun v record => (.ok (), (v, record.2)) },
    { name := "name", kind := .text, setter := some fun v record => (.ok (), (record.1, v)) }]
  constructors := [⟨[.text, .text], fun values => .ok (values.headD .null, values.getLastD .null)⟩]

def memberColumns : List Column :=
  Column.number [("user_id", .text), ("full_name", .text), ("id", .text), ("name", .text)]

/-- The id is spelled in capitals. -/
def memberMap : ResultMap where
  arguments := some [{ column := "user_id", kind := .text, name := some "ID" },
    { column := "full_name", kind := .text, name := some "name" }]

def memberPlan : Plan where
  construction := .constructor 0
  arguments := [⟨.argument 0, "ID", ⟨0, "user_id", .text⟩, .text, false, .directRead⟩,
    ⟨.argument 1, "name", ⟨1, "full_name", .text⟩, .text, false, .directRead⟩]
  fields := [⟨.field 0, "id", ⟨2, "id", .text⟩, .text, false, .directRead⟩]
  unmatched := [⟨3, "name", .text⟩]

theorem isPlan_memberPlan : IsPlan memberTarget memberColumns (some memberMap) {} memberPlan :=
  ⟨rfl, rfl, rfl, (List.mergeSort_of_pairwise (by decide)).symm⟩

/-- The column of the name is left over beside the argument of that name. -/
theorem initialised_memberPlan :
    (some memberMap).bind ResultMap.arguments = memberMap.arguments ∧
      (build memberTarget memberColumns (some memberMap) {}).1 = .ok memberPlan ∧
      memberTarget.fieldIndex? "name" = some 1 ∧
      ∀ b ∈ memberPlan.fields, b.destination ≠ .field 1 := by
  have hbuild := build_fst_eq_ok_iff.2 isPlan_memberPlan
  have hi : memberTarget.fieldIndex? "name" = some 1 := by decide
  obtain ⟨-, hall⟩ := initialised_of_build memberTarget memberColumns (some memberMap) {}
    memberPlan _ rfl hbuild
  obtain ⟨f, hf, hexact, -⟩ := hall _ (List.mem_cons_of_mem _ (List.mem_singleton.2 rfl)) 1 hi
  cases hf
  exact ⟨rfl, hbuild, hi, hexact rfl⟩

/-- The argument for the id is called after the field in another case.  The field is fed by the
column of its name all the same, and that column replaces the id that the record was built with. -/
theorem argument_in_capitals_overwritten :
    (build memberTarget memberColumns (some memberMap) {}).1 = .ok memberPlan ∧
      (¬∀ a ∈ memberPlan.arguments, ∀ i, memberTarget.fieldIndex? a.name = some i →
        ∀ b ∈ memberPlan.fields, b.destination ≠ .field i) ∧
      ∃ mapper events,
        memberPlan.synthesize ⟨"Index:0_members", false, false⟩ memberTarget {} false =
          .ok (mapper, events) ∧
        (mapper.map ⟨memberColumns, some [.text "1", .text "Ann", .text "2", .text "Bob"]⟩).result =
          .ok (.text "2", .text "Ann") := by
  refine ⟨build_fst_eq_ok_iff.2 isPlan_memberPlan, fun h => ?_, _, _, rfl, rfl⟩
  exact h _ (List.mem_cons_self ..) 0 (by decide) _ (List.mem_singleton.2 rfl) rfl

end Plan

end Hydration
