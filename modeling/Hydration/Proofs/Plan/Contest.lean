import Hydration.Plan.Claim
import Mathlib.Data.List.Nodup

/-!
# The contest for the fields

Columns come forward one after the other.  A column that claims nothing is left over, and so
is the loser of two claims on one field.  `Contested claim seen s` is what is known of the state
`s` after the columns `seen`: no column is lost or counted twice, a claimed field is held once,
and it is held by the earliest of the columns that claim it with the highest rank.

    offer claim c s       one column's turn                       (contest_cons)
    enter_cases           a claim is added, takes over or fails
    Contested.offer       each turn keeps the invariant
    contested_contest     what holds after all columns
-/

namespace Hydration

namespace Claim

/-! ## Algorithm -/

/-- The state after a column's turn. -/
def offer (claim : Column → Option Claim) (c : Column) (s : List Claim × List Column) :
    List Claim × List Column :=
  match claim c with
  | none => (s.1, s.2 ++ [c])
  | some x => ((enter x s.1).1, s.2 ++ (enter x s.1).2.toList)

/-- `x` is the claim of the earliest of the columns that claim its field with the highest rank. -/
def Wins (claim : Column → Option Claim) (columns : List Column) (x : Claim) : Prop :=
  claim x.column = some x ∧ ∃ before after, columns = before ++ x.column :: after ∧
    (∀ c ∈ before, ∀ y, claim c = some y → y.field = x.field → y.rank < x.rank) ∧
    ∀ c ∈ after, ∀ y, claim c = some y → y.field = x.field → y.rank ≤ x.rank

/-- What is known of the state after the columns `seen`. -/
structure Contested (claim : Column → Option Claim) (seen : List Column)
    (s : List Claim × List Column) : Prop where
  columns : (s.1.map column ++ s.2).Perm seen
  fields : (s.1.map field).Nodup
  wins : ∀ x ∈ s.1, Wins claim seen x
  held : ∀ c ∈ seen, ∀ y, claim c = some y → y.field ∈ s.1.map field

/-! ## Lemmas -/

section
variable {claim : Column → Option Claim} {columns seen : List Column} {c : Column} {x y : Claim}
  {s : List Claim × List Column}

theorem contest_cons (claim : Column → Option Claim) (c : Column) (rest : List Column)
    (s : List Claim × List Column) :
    contest claim (c :: rest) s = contest claim rest (offer claim c s) := by
  obtain ⟨held, unmatched⟩ := s
  rw [contest, offer]
  cases claim c <;> rfl

/-- A claim on a field that nobody holds is added at the end; a claim on a field that is held
takes the place of a lower one, and fails against any other. -/
theorem enter_cases (x : Claim) (held : List Claim) :
    (x.field ∉ held.map field ∧ enter x held = (held ++ [x], none)) ∨
    ∃ before old after, held = before ++ old :: after ∧ old.field = x.field ∧
      (old.rank < x.rank ∧ enter x held = (before ++ x :: after, some old.column) ∨
        x.rank ≤ old.rank ∧ enter x held = (held, some x.column)) := by
  induction held with
  | nil => exact .inl ⟨List.not_mem_nil, rfl⟩
  | cons h rest ih =>
    by_cases hf : h.field = x.field
    · refine .inr ⟨[], h, rest, rfl, hf, ?_⟩
      by_cases hr : h.rank < x.rank
      · exact .inl ⟨hr, by rw [enter, if_pos hf, if_pos hr]; rfl⟩
      · exact .inr ⟨by omega, by rw [enter, if_pos hf, if_neg hr]⟩
    · have he : enter x (h :: rest) = (h :: (enter x rest).1, (enter x rest).2) := by
        rw [enter, if_neg hf]
      rcases ih with ⟨hx, hi⟩ | ⟨before, old, after, rfl, hold, ⟨hr, hi⟩ | ⟨hr, hi⟩⟩
      · refine .inl ⟨?_, by rw [he, hi]; rfl⟩
        rw [List.map_cons, List.mem_cons]
        rintro (h' | h')
        · exact hf h'.symm
        · exact hx h'
      · exact .inr ⟨h :: before, old, after, rfl, hold, .inl ⟨hr, by rw [he, hi]; rfl⟩⟩
      · exact .inr ⟨h :: before, old, after, rfl, hold, .inr ⟨hr, by rw [he, hi]⟩⟩

theorem Wins.rank_le (h : Wins claim columns x) (hc : c ∈ columns) (hy : claim c = some y)
    (hf : y.field = x.field) : y.rank ≤ x.rank := by
  obtain ⟨hx, before, after, rfl, hb, ha⟩ := h
  rcases List.mem_append.1 hc with hc | hc
  · exact Nat.le_of_lt (hb c hc y hy hf)
  · rcases List.mem_cons.1 hc with rfl | hc
    · have hyx : y = x := Option.some.inj (hy.symm.trans hx)
      exact Nat.le_of_eq (congrArg rank hyx)
    · exact ha c hc y hy hf

/-- A later column of no higher rank changes nothing. -/
theorem Wins.snoc (h : Wins claim seen x)
    (hc : ∀ y, claim c = some y → y.field = x.field → y.rank ≤ x.rank) :
    Wins claim (seen ++ [c]) x := by
  obtain ⟨hx, before, after, rfl, hb, ha⟩ := h
  refine ⟨hx, before, after ++ [c], by simp, hb, fun d hd => ?_⟩
  rcases List.mem_append.1 hd with hd | hd
  · exact ha d hd
  · rw [List.mem_singleton.1 hd]
    exact hc

/-- A later column of a rank that none before it reaches wins. -/
theorem wins_snoc_self (hx : claim c = some x) (hcol : x.column = c)
    (h : ∀ d ∈ seen, ∀ y, claim d = some y → y.field = x.field → y.rank < x.rank) :
    Wins claim (seen ++ [c]) x := by
  subst hcol
  exact ⟨hx, seen, [], rfl, h, fun d hd => absurd hd List.not_mem_nil⟩

theorem contested_nil (claim : Column → Option Claim) : Contested claim [] ([], []) :=
  ⟨.refl _, List.nodup_nil, fun _ h => absurd h List.not_mem_nil,
    fun _ h => absurd h List.not_mem_nil⟩

/-- A column that claims nothing, or no more than what is held, is left over. -/
theorem Contested.pass (h : Contested claim seen s) (hc : ∀ y, claim c = some y →
    ∃ old ∈ s.1, old.field = y.field ∧ y.rank ≤ old.rank) :
    Contested claim (seen ++ [c]) (s.1, s.2 ++ [c]) := by
  refine ⟨?_, h.fields, fun x hx => (h.wins x hx).snoc fun y hy hf => ?_, fun d hd y hy => ?_⟩
  · rw [← List.append_assoc]
    exact h.columns.append_right [c]
  · obtain ⟨old, hold, hof, hr⟩ := hc y hy
    rw [List.inj_on_of_nodup_map h.fields hx hold (hf.symm.trans hof.symm)]
    exact hr
  · rcases List.mem_append.1 hd with hd | hd
    · exact h.held d hd y hy
    · rw [List.mem_singleton.1 hd] at hy
      obtain ⟨old, hold, hof, -⟩ := hc y hy
      exact List.mem_map.2 ⟨old, hold, hof⟩

/-- A claim on a field that nobody holds is added. -/
theorem Contested.add (h : Contested claim seen s) (hx : claim c = some x) (hcol : x.column = c)
    (hf : x.field ∉ s.1.map field) : Contested claim (seen ++ [c]) (s.1 ++ [x], s.2) := by
  have hlt : ∀ d ∈ seen, ∀ y, claim d = some y → y.field = x.field → y.rank < x.rank :=
    fun d hd y hy he => absurd (he ▸ h.held d hd y hy) hf
  refine ⟨?_, ?_, fun z hz => ?_, fun d hd y hy => ?_⟩
  · have hp := h.columns.append_right [c]
    rw [List.append_assoc] at hp
    simp only [List.map_append, List.map_cons, List.map_nil, hcol, List.append_assoc]
    exact (List.perm_append_comm.append_left _).trans hp
  · rw [List.map_append, List.nodup_append]
    refine ⟨h.fields, by simp, fun a ha b hb hab => hf ?_⟩
    rw [List.map_cons, List.map_nil, List.mem_singleton] at hb
    rw [← hb, ← hab]
    exact ha
  · rcases List.mem_append.1 hz with hz | hz
    · refine (h.wins z hz).snoc fun y hy he => absurd ?_ hf
      rw [hx, Option.some.injEq] at hy
      rw [hy, he]
      exact List.mem_map_of_mem hz
    · rw [List.mem_singleton.1 hz]
      exact wins_snoc_self hx hcol hlt
  · rw [List.map_append]
    rcases List.mem_append.1 hd with hd | hd
    · exact List.mem_append_left _ (h.held d hd y hy)
    · rw [List.mem_singleton.1 hd, hx, Option.some.injEq] at hy
      rw [← hy]
      exact List.mem_append_right _ (by simp)

/-- A claim takes the place of a lower one on the same field. -/
theorem Contested.replace {before after : List Claim} {old : Claim}
    {unmatched : List Column} (h : Contested claim seen (before ++ old :: after, unmatched))
    (hx : claim c = some x)
    (hcol : x.column = c) (hf : old.field = x.field) (hr : old.rank < x.rank) :
    Contested claim (seen ++ [c]) (before ++ x :: after, unmatched ++ [old.column]) := by
  have hmap : (before ++ x :: after).map field = (before ++ old :: after).map field := by
    simp [hf]
  have hold : old ∈ before ++ old :: after := by simp
  have hlt : ∀ d ∈ seen, ∀ y, claim d = some y → y.field = x.field → y.rank < x.rank :=
    fun d hd y hy he => Nat.lt_of_le_of_lt ((h.wins old hold).rank_le hd hy (he.trans hf.symm)) hr
  have hne : ∀ z ∈ before ++ after, z.field ≠ x.field := by
    have hd := h.fields
    rw [List.map_append, List.map_cons, List.nodup_middle, ← List.map_append, hf,
      List.nodup_cons] at hd
    exact fun z hz he => hd.1 (he ▸ List.mem_map_of_mem hz)
  refine ⟨?_, ?_, fun z hz => ?_, fun d hd y hy => ?_⟩
  · refine List.Perm.trans ?_ (h.columns.append_right [c])
    refine List.perm_iff_count.2 fun d => ?_
    simp only [List.map_append, List.map_cons, List.count_append, List.count_cons, hcol]
    omega
  · rw [hmap]
    exact h.fields
  · rcases List.mem_cons.1 (List.perm_middle.mem_iff.1 hz) with rfl | hz
    · exact wins_snoc_self hx hcol hlt
    · refine (h.wins z (List.perm_middle.mem_iff.2 (List.mem_cons_of_mem _ hz))).snoc
        fun y hy he => absurd he.symm ?_
      rw [hx, Option.some.injEq] at hy
      rw [← hy]
      exact hne z hz
  · rw [hmap]
    rcases List.mem_append.1 hd with hd | hd
    · exact h.held d hd y hy
    · rw [List.mem_singleton.1 hd, hx, Option.some.injEq] at hy
      rw [← hy, ← hf]
      exact List.mem_map_of_mem hold

/-- Each turn keeps the invariant. -/
theorem Contested.offer (hcol : ∀ c x, claim c = some x → x.column = c)
    (h : Contested claim seen s) (c : Column) :
    Contested claim (seen ++ [c]) (offer claim c s) := by
  obtain ⟨held, unmatched⟩ := s
  unfold Claim.offer
  cases hx : claim c with
  | none => exact h.pass fun y hy => by rw [hx] at hy; cases hy
  | some x =>
    rcases enter_cases x held with ⟨hf, he⟩ | ⟨before, old, after, rfl, hf, ⟨hr, he⟩ | ⟨hr, he⟩⟩
    · simp only [he, Option.toList_none, List.append_nil]
      exact h.add hx (hcol c x hx) hf
    · simp only [he, Option.toList_some]
      exact h.replace hx (hcol c x hx) hf hr
    · simp only [he, Option.toList_some, hcol c x hx]
      refine h.pass fun y hy => ⟨old, by simp, ?_⟩
      rw [hx, Option.some.injEq] at hy
      rw [← hy]
      exact ⟨hf, hr⟩

/-- The invariant holds after all columns. -/
theorem Contested.contest (hcol : ∀ c x, claim c = some x → x.column = c)
    (h : Contested claim seen s) (columns : List Column) :
    Contested claim (seen ++ columns) (contest claim columns s) := by
  induction columns generalizing seen s with
  | nil => rw [List.append_nil, Claim.contest]; exact h
  | cons c rest ih =>
    rw [contest_cons, List.append_cons]
    exact ih (h.offer hcol c)

end

/-! ## Top theorems -/

theorem contested_contest {claim : Column → Option Claim}
    (hcol : ∀ c x, claim c = some x → x.column = c) (columns : List Column) :
    Contested claim columns (contest claim columns ([], [])) :=
  (contested_nil claim).contest hcol columns

end Claim

end Hydration
