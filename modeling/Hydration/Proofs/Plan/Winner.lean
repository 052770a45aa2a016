import Hydration.Proofs.Plan.Resolution
import Hydration.Proofs.Plan.Standing

/-!
# Which column wins a field

A field is fed when some column that feeds no argument resolves to it, and then by the earliest
of those whose rank is highest.  Configured properties rank alike, however their fields were
found, so the winner has the highest rank of all unless an earlier property found the field in
another case and a later one found it exactly.

    Leads rank t m columns i c k   c is that column of `columns`, and k what it resolves to
    leads_rank_iff                 when ranking configured properties alike makes no difference
    winner_of_build                who wins a field that is open, and how it is read
-/

namespace Hydration

open Text

variable {ρ : Type} {t : Target ρ} {m : Option ResultMap} {columns : List Column} {i : Nat}
  {c : Column} {k : Resolution}

/-! ## Algorithm -/

/-- The rank by which claims are compared: configured properties rank alike. -/
def Resolution.settledRank (k : Resolution) : Nat :=
  2 * k.basis.weight + if k.exact || decide (k.basis = .configured) then 1 else 0

/-- `c` resolves to the field at `i` by `k`, and it is the earliest of the columns that do with
the highest rank. -/
def Leads (rank : Resolution → Nat) (t : Target ρ) (m : Option ResultMap) (columns : List Column)
    (i : Nat) (c : Column) (k : Resolution) : Prop :=
  Resolves t m c k ∧ k.field = i ∧ ∃ before after, columns = before ++ c :: after ∧
    (∀ d ∈ before, ∀ l, Resolves t m d l → l.field = i → rank l < rank k) ∧
    ∀ d ∈ after, ∀ l, Resolves t m d l → l.field = i → rank l ≤ rank k

/-- `k` found its field in another case, and some column's property finds the field exactly. -/
def Overlooks (t : Target ρ) (m : Option ResultMap) (columns : List Column) (k : Resolution) :
    Prop :=
  k.basis = .configured ∧ k.exact = false ∧ ∃ d ∈ columns, ∃ l, Resolves t m d l ∧
    l.field = k.field ∧ l.basis = .configured ∧ l.exact = true

/-! ## Lemmas -/

theorem Resolution.rank_claim (k : Resolution) (c : Column) :
    (k.claim c).rank = k.settledRank := rfl

/-- The two ranks differ for properties that find their field in another case, and by one. -/
theorem Resolution.rank_cases (k : Resolution) :
    k.basis = .configured ∧ k.exact = false ∧ k.rank = 4 ∧ k.settledRank = 5 ∨
    k.basis = .configured ∧ k.exact = true ∧ k.rank = 5 ∧ k.settledRank = 5 ∨
    k.basis ≠ .configured ∧ k.rank = k.settledRank ∧ k.rank < 4 := by
  obtain ⟨i, basis, exact, handler⟩ := k
  unfold Resolution.rank Resolution.settledRank
  cases basis <;> cases exact <;> simp [Basis.weight]

theorem Leads.rank_le {rank : Resolution → Nat} (h : Leads rank t m columns i c k) {d : Column}
    {l : Resolution} (hd : d ∈ columns) (hl : Resolves t m d l) (hf : l.field = i) :
    rank l ≤ rank k := by
  obtain ⟨hk, -, before, after, rfl, hb, ha⟩ := h
  rcases List.mem_append.1 hd with hd | hd
  · have hlt := hb d hd l hl hf
    omega
  · rcases List.mem_cons.1 hd with rfl | hd
    · exact Nat.le_of_eq (congrArg rank (hl.unique hk))
    · exact ha d hd l hl hf

/-- The winner has the highest rank unless it overlooks a property that finds the field exactly. -/
theorem leads_rank_iff (h : Leads Resolution.settledRank t m columns i c k) :
    Leads Resolution.rank t m columns i c k ↔ ¬Overlooks t m columns k := by
  constructor
  · rintro hlead ⟨hb, he, d, hd, l, hl, hlf, hlb, hle⟩
    have hrank := hlead.rank_le hd hl (hlf.trans h.2.1)
    have hk4 : k.rank = 4 := by simp [Resolution.rank, hb, he, Basis.weight]
    have hl5 : l.rank = 5 := by simp [Resolution.rank, hlb, hle, Basis.weight]
    omega
  · intro hno
    have hexact : ∀ d ∈ columns, ∀ l, Resolves t m d l → l.field = i → k.basis = .configured →
        k.exact = false → l.basis = .configured → l.exact = false := by
      intro d hd l hl hf hb he hlb
      refine eq_false_of_ne_true fun hle => hno ⟨hb, he, d, hd, l, hl, ?_, hlb, hle⟩
      exact hf.trans h.2.1.symm
    have hkc := k.rank_cases
    obtain ⟨hk, hi, before, after, rfl, hb, ha⟩ := h
    refine ⟨hk, hi, before, after, rfl, fun d hd l hl hf => ?_, fun d hd l hl hf => ?_⟩
    · have hlt := hb d hd l hl hf
      have hlc := l.rank_cases
      omega
    · have hle := ha d hd l hl hf
      have hlc := l.rank_cases
      have hx := hexact d (by simp [hd]) l hl hf
      rcases hkc with ⟨h1, h2, h3, h4⟩ | ⟨h1, h2, h3, h4⟩ | ⟨h1, h2, h3⟩
      · rcases hlc with ⟨g1, g2, g3, g4⟩ | ⟨g1, g2, g3, g4⟩ | ⟨g1, g2, g3⟩
        · omega
        · rw [hx h1 h2 g1] at g2
          cases g2
        · omega
      · omega
      · omega

namespace Plan

variable {r : Registry} {p : Plan} {f : Field ρ}

/-- A claim on a field that is open enters the contest. -/
theorem claim?_of_open {arguments : List Binding} (hf : t.field? i = some f)
    (hw : f.isWritable = true) (hn : ∀ a ∈ arguments, a.name ≠ f.name) {x : Claim} :
    claim? t m arguments c = some x ∧ x.field = i ↔
      ∃ k, Resolves t m c k ∧ k.field = i ∧ k.claim c = x := by
  rw [claim?_eq_some_iff, resolve_eq_some_iff]
  constructor
  · rintro ⟨⟨⟨k, hk, rfl⟩, -⟩, hi⟩
    exact ⟨k, hk, hi, rfl⟩
  · rintro ⟨k, hk, rfl, rfl⟩
    refine ⟨⟨⟨k, hk, rfl⟩, f, hf, hw, fun h => ?_⟩, rfl⟩
    obtain ⟨a, ha, he⟩ := List.mem_map.1 h
    exact hn a ha he

/-- The claim that stands on an open field is that of the column that leads. -/
theorem leads_of_mem_standing {arguments : List Binding} (hf : t.field? i = some f)
    (hw : f.isWritable = true) (hn : ∀ a ∈ arguments, a.name ≠ f.name) {x : Claim}
    (hx : x ∈ (standing t m arguments columns).1) (hi : x.field = i) :
    ∃ k, k.claim x.column = x ∧
      Leads Resolution.settledRank t m (freeColumns arguments columns) i x.column k := by
  obtain ⟨hown, before, after, hsplit, hb, ha⟩ :=
    (contested_standing t m arguments columns).wins x hx
  obtain ⟨k, hk, hki, hkx⟩ := (claim?_of_open hf hw hn).1 ⟨hown, hi⟩
  have hrank : x.rank = k.settledRank := by rw [← hkx, Resolution.rank_claim]
  have hclaim : ∀ d l, Resolves t m d l → l.field = i →
      claim? t m arguments d = some (l.claim d) ∧ (l.claim d).field = i := fun d l hl hli =>
    (claim?_of_open hf hw hn).2 ⟨l, hl, hli, rfl⟩
  refine ⟨k, hkx, hk, hki, before, after, hsplit, fun d hd l hl hli => ?_,
    fun d hd l hl hli => ?_⟩
  · have hlt := hb d hd _ (hclaim d l hl hli).1 ((hclaim d l hl hli).2.trans hi.symm)
    rw [hrank, Resolution.rank_claim] at hlt
    exact hlt
  · have hle := ha d hd _ (hclaim d l hl hli).1 ((hclaim d l hl hli).2.trans hi.symm)
    rw [hrank, Resolution.rank_claim] at hle
    exact hle

theorem IsPlan.exists_field_iff (hp : IsPlan t columns m r p) :
    (∃ b ∈ p.fields, b.destination = .field i) ↔
      ∃ x ∈ (standing t m p.arguments columns).1, x.field = i := by
  have hmem : Destination.field i ∈ p.fields.map Binding.destination ↔
      Destination.field i ∈ (standing t m p.arguments columns).1.map fun x => .field x.field := by
    rw [hp.map_destination]
  simpa only [List.mem_map, Destination.field.injEq] using hmem

/-! ## Top theorems -/

/-- A field that can be written and that no argument initialises is fed when a column that feeds no
argument resolves to it, by the leading column, through the coercion for the handler that its
property or else the field names.  The leading column has the highest rank of all unless it
overlooks a property that finds the field exactly. -/
theorem winner_of_build (t : Target ρ) (columns : List Column) (m : Option ResultMap)
    (r : Registry) (p : Plan) (h : (build t columns m r).1 = .ok p) (i : Nat) (f : Field ρ)
    (hf : t.field? i = some f) (hw : f.isWritable = true)
    (hn : ∀ a ∈ p.arguments, a.name ≠ f.name) :
    ((∃ b ∈ p.fields, b.destination = .field i) ↔
      ∃ c ∈ freeColumns p.arguments columns, ∃ k, Resolves t m c k ∧ k.field = i) ∧
    ∀ b ∈ p.fields, b.destination = .field i → ∃ k,
      Leads Resolution.settledRank t m (freeColumns p.arguments columns) i b.column k ∧
      (Leads Resolution.rank t m (freeColumns p.arguments columns) i b.column k ↔
        ¬Overlooks t m (freeColumns p.arguments columns) k) ∧
      (Coercion.resolve r f.kind f.nullable b.column.kind (k.handler <|> f.handler)).1 =
        .ok b.coercion := by
  have hp := build_fst_eq_ok_iff.1 h
  have hcontest := contested_standing t m p.arguments columns
  constructor
  · rw [hp.exists_field_iff]
    constructor
    · rintro ⟨x, hx, hi⟩
      obtain ⟨k, -, hk, hki, before, after, hsplit, -⟩ := leads_of_mem_standing hf hw hn hx hi
      exact ⟨x.column, by rw [hsplit]; simp, k, hk, hki⟩
    · rintro ⟨c, hc, k, hk, hi⟩
      obtain ⟨hclaim, hki⟩ := (claim?_of_open hf hw hn).2 ⟨k, hk, hi, rfl⟩
      obtain ⟨x, hx, hxi⟩ := List.mem_map.1 (hcontest.held c hc _ hclaim)
      exact ⟨x, hx, hxi.trans hki⟩
  · intro b hb hi
    obtain ⟨x, hx, g, hb⟩ := hp.exists_feeds hb
    have hxi : x.field = i := Destination.field.inj (hb.destination.symm.trans hi)
    have hg := hb.field
    rw [hxi, hf, Option.some.injEq] at hg
    subst hg
    obtain ⟨k, hkx, hlead⟩ := leads_of_mem_standing hf hw hn hx hxi
    have hhandler : x.handler = k.handler := by rw [← hkx]; rfl
    rw [hb.column]
    refine ⟨k, hlead, leads_rank_iff hlead, ?_⟩
    rw [← hhandler]
    exact hb.coercion

/-- Contacts: the address is declared to be stored in a column of its own. -/
def contactTarget : Target Value where
  name := "Contact"
  fields := .ofList [{ name := "name", kind := .text, setter := some fun v _ => (.ok (), v) },
    { name := "mail", kind := .text, column := some "box", nullable := true,
      setter := some fun v _ => (.ok (), v) }]
  blank := some .null

def contactColumns : List Column :=
  Column.number [("mail", .text), ("BOX", .text), ("Box", .text)]

def contactPlan : Plan where
  construction := .blank
  arguments := []
  fields := [⟨.field 1, "mail", ⟨1, "BOX", .text⟩, .text, true, .nullableUnwrap⟩]
  unmatched := [⟨0, "mail", .text⟩, ⟨2, "Box", .text⟩]

/-- The declared column wins over the column that is called like the field, and the earlier of two
in another case over the later. -/
theorem winner_contactPlan :
    (build contactTarget contactColumns none {}).1 = .ok contactPlan ∧
    ∃ f, contactTarget.field? 1 = some f ∧ f.isWritable = true ∧
      (∀ a ∈ contactPlan.arguments, a.name ≠ f.name) ∧
      ∃ k, Leads Resolution.settledRank contactTarget none
        (freeColumns contactPlan.arguments contactColumns) 1 ⟨1, "BOX", .text⟩ k := by
  have hbuild : (build contactTarget contactColumns none {}).1 = .ok contactPlan :=
    build_fst_eq_ok_iff.2 ⟨rfl, rfl, rfl, (List.mergeSort_of_pairwise (by decide)).symm⟩
  refine ⟨hbuild, _, rfl, rfl, fun _ h => absurd h List.not_mem_nil, ?_⟩
  obtain ⟨-, h⟩ := winner_of_build contactTarget contactColumns none {} contactPlan hbuild 1 _
    rfl rfl (fun _ h => absurd h List.not_mem_nil)
  obtain ⟨k, hk, -⟩ := h _ (List.mem_singleton.2 rfl) rfl
  exact ⟨k, hk⟩

/-- Two columns are mapped to the name, the first in another case. -/
def renamedMap : ResultMap := (({} : ResultMap).property "a" "NAME").property "b" "name"

def renamedColumns : List Column := Column.number [("a", .text), ("b", .text)]

def renamedPlan : Plan where
  construction := .blank
  arguments := []
  fields := [⟨.field 0, "name", ⟨0, "a", .text⟩, .text, false, .directRead⟩]
  unmatched := [⟨1, "b", .text⟩]

theorem resolves_renamed_folded :
    Resolves contactTarget (some renamedMap) ⟨0, "a", .text⟩ ⟨0, .configured, false, none⟩ := by
  refine .configured (p := ⟨"a", "NAME", none⟩) ⟨⟨_, rfl, by decide⟩, rfl, .folded ?_ ?_⟩
  · exact by decide
  · exact ⟨⟨_, rfl, _, rfl, by decide⟩, fun _ h => absurd h (Nat.not_lt_zero _)⟩

theorem resolves_renamed_exact :
    Resolves contactTarget (some renamedMap) ⟨1, "b", .text⟩ ⟨0, .configured, true, none⟩ :=
  .configured (p := ⟨"b", "name", none⟩) ⟨⟨_, rfl, by decide⟩, rfl,
    .exact ⟨⟨_, rfl, rfl⟩, fun _ h => absurd h (Nat.not_lt_zero _)⟩⟩

/-- The first column wins the name although the second is mapped to it exactly. -/
theorem renamed_overlooks_exact :
    (build contactTarget renamedColumns (some renamedMap) {}).1 = .ok renamedPlan ∧
      ∀ b ∈ renamedPlan.fields, b.destination = .field 0 → ∀ k,
        ¬Leads Resolution.rank contactTarget (some renamedMap)
          (freeColumns renamedPlan.arguments renamedColumns) 0 b.column k := by
  refine ⟨build_fst_eq_ok_iff.2 ⟨rfl, rfl, rfl, (List.mergeSort_of_pairwise (by decide)).symm⟩,
    fun b hb _ k hk => ?_⟩
  cases List.mem_singleton.1 hb
  have hrank := hk.rank_le (d := ⟨1, "b", .text⟩) (by decide) resolves_renamed_exact rfl
  rw [hk.1.unique resolves_renamed_folded] at hrank
  exact absurd hrank (by decide)

end Plan

end Hydration
