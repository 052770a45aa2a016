import Hydration.Proofs.Plan.Standing

/-!
# Every column has one use

A plan divides the columns: a column feeds arguments, or one field, or nothing, and then it is
listed once.  No field is fed twice, no field is fed that cannot be written, and none that an
argument initialises.

    (p.fields.map column ++ p.unmatched).Perm (freeColumns p.arguments columns)  (IsPlan.free_perm)
    a built plan divides columns of distinct indices                             (divides_of_build)
-/

namespace Hydration

open Traversal

variable {ρ : Type}

namespace Plan

/-! ## Algorithm -/

/-- How often a column feeds an argument, feeds a field, and is left over. -/
def uses (p : Plan) (c : Column) : Nat × Nat × Nat :=
  ((p.arguments.map Binding.column).count c, (p.fields.map Binding.column).count c,
    p.unmatched.count c)

/-- The plan gives every column one use, and feeds every field at most once. -/
structure Divides (t : Target ρ) (columns : List Column) (p : Plan) : Prop where
  /-- A column feeds at least one argument, or one field, or it is left over once. -/
  uses : ∀ c ∈ columns, (∃ n, p.uses c = (n + 1, 0, 0)) ∨ p.uses c = (0, 1, 0) ∨
    p.uses c = (0, 0, 1)
  bound : ∀ b ∈ p.arguments ++ p.fields, b.column ∈ columns
  unmatched : ∀ c ∈ p.unmatched, c ∈ columns
  increasing : p.unmatched.Pairwise fun a b => a.index < b.index
  destinations : (p.fields.map Binding.destination).Nodup
  writable : ∀ b ∈ p.fields, ∃ i f, b.destination = .field i ∧ t.field? i = some f ∧
    f.isWritable = true
  names : ∀ b ∈ p.fields, ∀ a ∈ p.arguments, b.name ≠ a.name

/-! ## Lemmas -/

variable {t : Target ρ} {columns : List Column} {m : Option ResultMap} {r : Registry} {p : Plan}

theorem mem_of_column? {name : String} {c : Column} (h : column? columns name = some c) :
    c ∈ columns := by
  obtain ⟨i, -, hi⟩ := Option.bind_eq_some_iff.1 h
  exact List.mem_of_getElem? hi

theorem mem_of_map_argument {args : List (Argument × Nat)} {arguments : List Binding}
    {target : String} (h : args.map (argument target columns r) = arguments.map .ok) {b : Binding}
    (hb : b ∈ arguments) : b.column ∈ columns := by
  obtain ⟨a, -, ha⟩ := exists_of_mem_of_map_ok h hb
  obtain ⟨c, hc, hbind⟩ := argument_eq_ok_iff.1 ha
  have hcol : c = b.column := (Draft.bind_eq_ok_iff.1 hbind).2.2.2.1
  rw [← hcol]
  exact mem_of_column? hc

theorem IsPlan.mem_of_argument (hp : IsPlan t columns m r p) {b : Binding}
    (hb : b ∈ p.arguments) : b.column ∈ columns :=
  mem_of_map_argument hp.arguments hb

/-- The columns that feed no argument feed one field each or are left over. -/
theorem IsPlan.free_perm (hp : IsPlan t columns m r p) :
    (p.fields.map Binding.column ++ p.unmatched).Perm (freeColumns p.arguments columns) := by
  rw [hp.map_fields Binding.column Draft.column Claim.column
      (fun d b h => (Draft.bind_eq_ok_iff.1 h).2.2.2.1.symm) (fun _ _ => rfl), hp.unmatched]
  exact ((List.mergeSort_perm _ _).append_left _).trans
    (contested_standing t m p.arguments columns).columns

theorem IsPlan.mem_of_binding (hp : IsPlan t columns m r p) {b : Binding}
    (hb : b ∈ p.arguments ++ p.fields) : b.column ∈ columns := by
  rcases List.mem_append.1 hb with hb | hb
  · exact hp.mem_of_argument hb
  · have hb := List.mem_append_left p.unmatched (List.mem_map_of_mem (f := Binding.column) hb)
    exact mem_of_mem_freeColumns (hp.free_perm.mem_iff.1 hb)

/-- Columns of distinct indices are told apart by their indices. -/
theorem mem_freeColumns_iff {arguments : List Binding} (hd : (columns.map Column.index).Nodup)
    (ha : ∀ b ∈ arguments, b.column ∈ columns) {c : Column} (hc : c ∈ columns) :
    c ∈ freeColumns arguments columns ↔ c ∉ arguments.map Binding.column := by
  rw [freeColumns, List.mem_filter, Bool.not_eq_true', List.any_eq_false]
  simp only [beq_iff_eq, List.mem_map, not_exists, not_and, hc, true_and]
  constructor
  · intro h b hb hbc
    exact h b hb (by rw [hbc])
  · intro h b hb hbc
    exact h b hb (List.inj_on_of_nodup_map hd (ha b hb) hc hbc)

/-- The columns that feed fields or nothing have distinct indices. -/
theorem IsPlan.nodup_index (hp : IsPlan t columns m r p)
    (hd : (columns.map Column.index).Nodup) :
    ((p.fields.map Binding.column ++ p.unmatched).map Column.index).Nodup := by
  have hfree : ((freeColumns p.arguments columns).map Column.index).Nodup :=
    hd.sublist (List.filter_sublist.map _)
  exact (hp.free_perm.map Column.index).nodup_iff.2 hfree

theorem IsPlan.increasing (hp : IsPlan t columns m r p)
    (hd : (columns.map Column.index).Nodup) :
    p.unmatched.Pairwise fun a b => a.index < b.index := by
  have hsub : (p.unmatched.map Column.index).Nodup := by
    have happ := hp.nodup_index hd
    rw [List.map_append] at happ
    exact (List.nodup_append.1 happ).2.1
  have hle : p.unmatched.Pairwise fun a b => a.index ≤ b.index := by
    rw [hp.unmatched]
    refine (List.pairwise_mergeSort ?_ ?_ _).imp fun h => of_decide_eq_true h
    · intro a b c hab hbc
      have hab := of_decide_eq_true hab
      have hbc := of_decide_eq_true hbc
      exact decide_eq_true (by omega)
    · intro a b
      rw [Bool.or_eq_true, decide_eq_true_eq, decide_eq_true_eq]
      omega
  refine hle.imp₂ (fun a b h h' => ?_) (List.pairwise_map.1 hsub)
  omega

theorem IsPlan.uses_cases (hp : IsPlan t columns m r p)
    (hd : (columns.map Column.index).Nodup) {c : Column} (hc : c ∈ columns) :
    (∃ n, p.uses c = (n + 1, 0, 0)) ∨ p.uses c = (0, 1, 0) ∨ p.uses c = (0, 0, 1) := by
  have hsum := hp.free_perm.count_eq c
  rw [List.count_append] at hsum
  have hfree := mem_freeColumns_iff hd (fun _ => hp.mem_of_argument) hc
  unfold Plan.uses
  by_cases ha : c ∈ p.arguments.map Binding.column
  · rw [List.count_eq_zero.2 (fun h => hfree.1 h ha)] at hsum
    have hpos := List.count_pos_iff.2 ha
    refine .inl ⟨(p.arguments.map Binding.column).count c - 1, ?_⟩
    rw [Prod.mk.injEq, Prod.mk.injEq]
    omega
  · have hone : (freeColumns p.arguments columns).count c = 1 :=
      List.count_eq_one_of_mem ((hd.of_map _).filter _) (hfree.2 ha)
    have hzero := List.count_eq_zero.2 ha
    simp only [Prod.mk.injEq]
    omega

/-! ## Top theorems -/

/-- A plan divides columns of distinct indices. -/
theorem divides_of_build (t : Target ρ) (columns : List Column) (m : Option ResultMap)
    (r : Registry) (p : Plan) (hd : (columns.map Column.index).Nodup)
    (h : (build t columns m r).1 = .ok p) : Divides t columns p := by
  have hp := build_fst_eq_ok_iff.1 h
  have hfree : ∀ c ∈ p.fields.map Binding.column ++ p.unmatched, c ∈ columns :=
    fun c hc => mem_of_mem_freeColumns (hp.free_perm.mem_iff.1 hc)
  refine ⟨fun c hc => hp.uses_cases hd hc, fun b hb => ?_, fun c hc => ?_, hp.increasing hd,
    hp.nodup_destinations, fun b hb => ?_, fun b hb a ha he => ?_⟩
  · rcases List.mem_append.1 hb with hb | hb
    · exact hp.mem_of_argument hb
    · exact hfree _ (List.mem_append_left _ (List.mem_map_of_mem hb))
  · exact hfree c (List.mem_append_right _ hc)
  · obtain ⟨x, -, f, hb⟩ := hp.exists_feeds hb
    exact ⟨x.field, f, hb.destination, hb.field, hb.writable⟩
  · obtain ⟨x, -, f, hb⟩ := hp.exists_feeds hb
    have hf : f.name ∈ p.arguments.map Binding.name := by
      rw [← hb.name, he]
      exact List.mem_map_of_mem ha
    exact hb.free hf

/-- Accounts: the id is an argument, and two columns compete for the tag. -/
def accountTarget : Target Value where
  name := "Account"
  fields := .ofList [{ name := "id", kind := .bytes, setter := some fun v _ => (.ok (), v) },
    { name := "tag", kind := .text, setter := some fun v _ => (.ok (), v) },
    { name := "seal", kind := .bytes }]
  constructors := [⟨[.bytes], fun _ => .ok .null⟩]

def accountColumns : List Column :=
  Column.number [("ID", .bytes), ("TAG", .text), ("tag", .text), ("seal", .bytes)]

def accountMap : ResultMap := { arguments := some [{ column := "id", kind := .bytes }] }

def accountPlan : Plan where
  construction := .constructor 0
  arguments := [⟨.argument 0, "id", ⟨0, "ID", .bytes⟩, .bytes, false, .directRead⟩]
  fields := [⟨.field 1, "tag", ⟨2, "tag", .text⟩, .text, false, .directRead⟩]
  unmatched := [⟨1, "TAG", .text⟩, ⟨3, "seal", .bytes⟩]

theorem divides_accountPlan :
    (accountColumns.map Column.index).Nodup ∧
      (build accountTarget accountColumns (some accountMap) {}).1 = .ok accountPlan ∧
      Divides accountTarget accountColumns accountPlan := by
  have hd : (accountColumns.map Column.index).Nodup := by decide
  have h : (build accountTarget accountColumns (some accountMap) {}).1 = .ok accountPlan :=
    build_fst_eq_ok_iff.2 ⟨rfl, rfl, rfl, (List.mergeSort_of_pairwise (by decide)).symm⟩
  exact ⟨hd, h, divides_of_build _ _ _ _ _ hd h⟩

end Plan

end Hydration
