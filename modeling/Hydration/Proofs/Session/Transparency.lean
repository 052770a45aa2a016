import Hydration.Proofs.Session.Basic
import Hydration.Source.Memory

/-!
# The cache cannot be noticed

A run is consistent when its calls with equal keys and targets present the same columns
and the same result map.  After any part of a consistent run a call finds what it would
have built itself: every entry of the cache is what planning gives, by the handlers that
were registered when the run began, for each call that can find it.  The enumerations
registered meanwhile change no plan, and a failed build leaves nothing else behind.

    perform c (run targets before w)  and  perform c { registry := w.registry }
      give the same result and leave the source in the same state   (perform_run_eq_perform_fresh)
-/

namespace Hydration

open Traversal

variable {ι : Type} {E : ι → Type}

/-! ## Algorithm -/

/-- Calls of equal keys and targets present the same columns and the same result map. -/
def Consistent (ops : List (Operation ι)) : Prop :=
  ∀ c d, .call c ∈ ops → .call d ∈ ops → c.key = d.key → c.target = d.target →
    c.columns = d.columns ∧ c.resultMap = d.resultMap

/-- Every entry of the cache is what each call that finds it would build by the handlers of `r`. -/
structure Sound (targets : (i : ι) → Target (E i)) [DecidableEq ι] (ops : List (Operation ι))
    (r : Registry) (w : Workspace E) : Prop where
  registry : r.Extends w.registry
  cache : ∀ k i stored, w.cache.find? k i = some stored →
    ∀ c, .call c ∈ ops → c.key = k → c.target = i →
      mapperFor targets r k i c.columns c.resultMap = .ok stored.mapper

/-! ## Lemmas -/

section
variable [DecidableEq ι] {targets : (i : ι) → Target (E i)} {ops : List (Operation ι)}
  {r : Registry} {w : Workspace E} {c : Call ι}

theorem Sound.store {m : Mapper (E c.target)} (h : Sound targets ops r w) (hops : Consistent ops)
    (hc : .call c ∈ ops)
    (hm : mapperFor targets r c.key c.target c.columns c.resultMap = .ok m) :
    Sound targets ops r { w with cache := (w.cache.store c.key c.target m).2 } := by
  refine ⟨h.registry, fun k i stored hs d hd hk hi => ?_⟩
  by_cases hki : (k, i) = (c.key, c.target)
  · -- the stored mapper serves every call of the run with this key and target
    obtain ⟨hcol, hmap⟩ := hops d c hd hc (hk.trans (congrArg Prod.fst hki))
      (hi.trans (congrArg Prod.snd hki))
    rw [hcol, hmap]
    cases hki
    rw [MapperCache.find?_store_self] at hs
    cases hs
    exact hm
  · rw [MapperCache.find?_store_of_ne hki] at hs
    exact h.cache k i stored hs d hd hk hi

/-- A call finds or builds the mapper that it would have built at the start, and what it stores
is sound. -/
theorem Sound.getOrBuild (h : Sound targets ops r w) (hops : Consistent ops)
    (hc : .call c ∈ ops) :
    (Workspace.getOrBuild c.key c.target (c.build targets) w).1.map Stored.mapper =
        mapperFor targets r c.key c.target c.columns c.resultMap ∧
      Sound targets ops r (Workspace.getOrBuild c.key c.target (c.build targets) w).2 := by
  cases hf : w.cache.find? c.key c.target with
  | some stored =>
    rw [Workspace.getOrBuild_of_hit hf]
    exact ⟨(h.cache _ _ _ hf c hc rfl rfl).symm, h.registry, h.cache⟩
  | none =>
    have hfst := (c.build_fst targets w).trans (mapperFor_of_extends h.registry ..)
    have hcache := c.build_cache targets w
    have hreg := h.registry.trans (c.extends_build targets w)
    rcases hb : c.build targets w with ⟨e | m, w'⟩
    all_goals
      rw [hb] at hfst hcache hreg
      have hw' : Sound targets ops r w' := ⟨hreg, hcache ▸ h.cache⟩
    · rw [Workspace.getOrBuild_of_error hf hb]
      exact ⟨hfst, hw'⟩
    · rw [Workspace.getOrBuild_of_ok hf hb, Workspace.keep_of_none (hcache ▸ hf)]
      exact ⟨hfst, hw'.store hops hc hfst.symm⟩

theorem Sound.apply (h : Sound targets ops r w) (hops : Consistent ops) {op : Operation ι}
    (hop : op ∈ ops) : Sound targets ops r (op.apply targets w) := by
  cases op with
  | call c =>
    simp only [Operation.apply, Call.perform_workspace]
    split
    · exact (h.getOrBuild hops hop).2
    · exact h
  | clear =>
    refine ⟨h.registry, fun k i stored hs => ?_⟩
    cases (MapperCache.find?_clear w.cache k i).symm.trans hs

theorem Sound.run (h : Sound targets ops r w) (hops : Consistent ops)
    {before : List (Operation ι)} (hb : ∀ op ∈ before, op ∈ ops) :
    Sound targets ops r (run targets before w) := by
  induction before generalizing w with
  | nil => exact h
  | cons op rest ih =>
    exact ih (h.apply hops (hb op List.mem_cons_self)) fun o ho => hb o (List.mem_cons_of_mem _ ho)

/-- A workspace whose cache is empty is sound. -/
theorem sound_of_empty (targets : (i : ι) → Target (E i)) (ops : List (Operation ι))
    (hw : w.cache.entries = []) : Sound targets ops w.registry w := by
  refine ⟨.refl _ _, fun k i stored hs => ?_⟩
  rw [MapperCache.find?_of_entries_nil hw] at hs
  cases hs

end

/-! ## Top theorems -/

/-- Every call of a consistent run gives what it gives on an empty cache and the handlers that
were registered when the run began, and leaves its source in the same state. -/
theorem perform_run_eq_perform_fresh [DecidableEq ι] (targets : (i : ι) → Target (E i))
    (ops : List (Operation ι)) (hops : Consistent ops) (w : Workspace E)
    (hw : w.cache.entries = []) (before after : List (Operation ι)) (c : Call ι)
    (h : ops = before ++ .call c :: after) :
    (c.perform targets (run targets before w)).result =
        (c.perform targets { registry := w.registry }).result ∧
      (c.perform targets (run targets before w)).source =
        (c.perform targets { registry := w.registry }).source := by
  have hc : .call c ∈ ops := by rw [h]; simp
  have hb : ∀ op ∈ before, op ∈ ops := fun op ho => by rw [h]; exact List.mem_append_left _ ho
  have hrun := ((sound_of_empty targets ops hw).run hops hb).getOrBuild hops hc
  have hfresh := (sound_of_empty (w := { registry := w.registry }) targets ops rfl).getOrBuild
    hops hc
  exact c.perform_congr targets (hrun.1.trans hfresh.1.symm)

/-- Records of one cell. -/
def cellTarget : Target Value where
  name := "Cell"
  fields := Roster.empty.put { name := "x", kind := .bool, setter := some fun v _ => (.ok (), v) }
  blank := some .null

/-- Reads cells from rows of one column. -/
def cellCall (settings : Settings) (extent : Extent) (rows : List (List Value)) : Call Unit where
  settings := settings
  target := ()
  request := { statement := .sql "select x" }
  extent := extent
  pace := .blocking
  Source := MemoryRows
  rows := inferInstance
  source := .ofRows [⟨0, "x", .bool⟩] rows

/-- Two calls share a mapper, a third has its own, and the last finds the cache cleared. -/
def cellRun : List (Operation Unit) :=
  [.call (cellCall {} .one [[.bool true]]), .call (cellCall ⟨true⟩ .all [[.null]]),
    .call (cellCall {} .all [[.null], [.bool true]]), .clear, .call (cellCall {} .one [[.null]])]

theorem consistent_cellRun : Consistent cellRun := by
  intro c d hc hd
  simp only [cellRun, List.mem_cons, Operation.call.injEq, reduceCtorEq, List.not_mem_nil,
    or_false, false_or] at hc hd
  rcases hc with rfl | rfl | rfl | rfl <;> rcases hd with rfl | rfl | rfl | rfl <;>
    exact fun _ _ => ⟨rfl, rfl⟩

theorem perform_cellRun_eq :
    Consistent cellRun ∧
      ((run (fun _ => cellTarget) (cellRun.take 2) {}).cache.find?
        (cellCall {} .all [[.null], [.bool true]]).key ()).isSome = true ∧
      ((cellCall {} .all [[.null], [.bool true]]).perform (fun _ => cellTarget)
          (run (fun _ => cellTarget) (cellRun.take 2) {})).result =
        ((cellCall {} .all [[.null], [.bool true]]).perform (fun _ => cellTarget) {}).result :=
  ⟨consistent_cellRun, by decide,
    (perform_run_eq_perform_fresh (fun _ => cellTarget) cellRun consistent_cellRun {} rfl
      (cellRun.take 2) (cellRun.drop 3) _ rfl).1⟩

end Hydration
