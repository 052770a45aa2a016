import Hydration.Handler.Stock
import Hydration.Proofs.Session.Transparency
import Mathlib.Logic.Function.Basic

/-!
# Registries that share a cache

Those who share a cache may hold registries of their own, but the key of a mapper says nothing of
the registry that it was built by.  Who builds a mapper first, since the cache was last cleared, is
its founder, and the mapper serves everybody by the handlers of its founder.  A registry is asked
for handlers only by its holder's own builds: neither a handler that it holds, nor one that it
lacks, is noticed in a mapper that somebody else has founded.

    founder targets registries turns k i    who founded the mapper in the cache
    Founded.apply                           each turn keeps mappers those of their founders
    perform_shared_eq_founder               a call is served by the handlers of its founder
    shared_mapper_lacks_handler             the own registry may lack a handler that is used
-/

namespace Hydration

open Traversal

variable {ι κ : Type} {E : ι → Type}

/-! ## Algorithm -/

/-- A cache, and the registries of those who share it. -/
structure Shared (κ : Type) (E : ι → Type) where
  cache : MapperCache E := .empty
  registries : κ → Registry

/-- What one of the holders does. -/
structure Turn (κ ι : Type) where
  holder : κ
  operation : Operation ι

/-- What a holder works on. -/
def Shared.workspace (s : Shared κ E) (holder : κ) : Workspace E :=
  { cache := s.cache, registry := s.registries holder }

section
variable [DecidableEq ι] [DecidableEq κ]

def Turn.apply (targets : (i : ι) → Target (E i)) (s : Shared κ E) (x : Turn κ ι) : Shared κ E :=
  let w := x.operation.apply targets (s.workspace x.holder)
  ⟨w.cache, Function.update s.registries x.holder w.registry⟩

/-- What is shared after turns. -/
def Shared.run (targets : (i : ι) → Target (E i)) (turns : List (Turn κ ι)) (s : Shared κ E) :
    Shared κ E :=
  turns.foldl (Turn.apply targets) s

end

/-- The call comes to build its mapper by the handlers of a registry, if it finds none. -/
def Call.founds (targets : (i : ι) → Target (E i)) (c : Call ι) (r : Registry) : Bool :=
  RowSource.hasRows c.source &&
    (mapperFor targets r c.key c.target c.columns c.resultMap).toBool

/-- The founder of the mapper for a key and a target after a turn. -/
def Turn.founder [DecidableEq ι] (targets : (i : ι) → Target (E i)) (registries : κ → Registry)
    (k : CacheKey) (i : ι) (founder : Option κ) (x : Turn κ ι) : Option κ :=
  match x.operation, founder with
  | .clear, _ => none
  | .call _, some f => some f
  | .call c, none =>
    if c.key = k ∧ c.target = i ∧ c.founds targets (registries x.holder) then some x.holder
    else none

/-- Who first built the mapper for a key and a target since the cache was last cleared. -/
def founder [DecidableEq ι] (targets : (i : ι) → Target (E i)) (registries : κ → Registry)
    (turns : List (Turn κ ι)) (k : CacheKey) (i : ι) : Option κ :=
  turns.foldl (Turn.founder targets registries k i) none

/-- Every mapper in the cache is the one that its founder would build for each call that can find
it, and there are no others. -/
structure Founded (targets : (i : ι) → Target (E i)) [DecidableEq ι] (ops : List (Operation ι))
    (registries : κ → Registry) (founder : CacheKey → ι → Option κ) (s : Shared κ E) : Prop where
  grown : ∀ holder, (registries holder).Extends (s.registries holder)
  absent : ∀ k i, founder k i = none → s.cache.find? k i = none
  present : ∀ k i f, founder k i = some f → ∃ stored, s.cache.find? k i = some stored ∧
    ∀ c, .call c ∈ ops → c.key = k → c.target = i →
      mapperFor targets (registries f) k i c.columns c.resultMap = .ok stored.mapper

/-! ## Lemmas -/

section
variable [DecidableEq ι] {targets : (i : ι) → Target (E i)} {ops : List (Operation ι)}
  {registries : κ → Registry} {who : CacheKey → ι → Option κ} {s : Shared κ E} {c : Call ι}
  {holder : κ}

theorem Founded.founder_eq_none (h : Founded targets ops registries who s) {k : CacheKey} {i : ι}
    (hf : s.cache.find? k i = none) : who k i = none := by
  cases hwho : who k i with
  | none => rfl
  | some f =>
    obtain ⟨stored, hs, -⟩ := h.present k i f hwho
    rw [hf] at hs
    cases hs

theorem Founded.exists_founder (h : Founded targets ops registries who s) (hc : .call c ∈ ops)
    {stored : Stored (E c.target)} (hf : s.cache.find? c.key c.target = some stored) :
    ∃ f, who c.key c.target = some f ∧
      mapperFor targets (registries f) c.key c.target c.columns c.resultMap = .ok stored.mapper := by
  cases hwho : who c.key c.target with
  | none =>
    rw [h.absent _ _ hwho] at hf
    cases hf
  | some f =>
    obtain ⟨found, hs, hm⟩ := h.present _ _ f hwho
    rw [hf, Option.some.injEq] at hs
    exact ⟨f, rfl, hs ▸ hm c hc rfl rfl⟩

/-- A call gets the mapper that its founder would build, or its own. -/
theorem Founded.getOrBuild_fst (h : Founded targets ops registries who s) (hc : .call c ∈ ops)
    (holder : κ) :
    (Workspace.getOrBuild c.key c.target (c.build targets) (s.workspace holder)).1.map
        Stored.mapper =
      mapperFor targets (registries ((who c.key c.target).getD holder)) c.key c.target c.columns
        c.resultMap := by
  have hmapper := mapperFor_of_extends (h.grown holder) targets c.key c.target c.columns c.resultMap
  rcases c.getOrBuild_cases targets (s.workspace holder) with
    ⟨stored, hf, hget⟩ | ⟨hf, r, -, ⟨e, log, hm, hget⟩ | ⟨m, log, hm, hget⟩⟩
  all_goals rw [hget]
  · obtain ⟨f, hwho, hm⟩ := h.exists_founder hc hf
    rw [hwho, Option.getD_some, hm]
    rfl
  all_goals
    rw [h.founder_eq_none hf, Option.getD_none, ← hmapper]
    exact hm.symm

/-- Who has founded a mapper remains its founder; else it is who founds it now. -/
theorem Turn.founder_call_eq_some_iff {k : CacheKey} {i : ι} {old : Option κ} {f : κ} :
    Turn.founder targets registries k i old ⟨holder, .call c⟩ = some f ↔ old = some f ∨
      old = none ∧ f = holder ∧ (c.key, c.target) = (k, i) ∧
        c.founds targets (registries holder) = true := by
  unfold Turn.founder
  cases old with
  | some g => simp
  | none =>
    simp only [reduceCtorEq, false_or, true_and]
    constructor
    · intro h
      split at h
      · rename_i hc
        exact ⟨(Option.some.inj h).symm, Prod.ext hc.1 hc.2.1, hc.2.2⟩
      · cases h
    · rintro ⟨rfl, hki, hc⟩
      cases hki
      exact if_pos ⟨rfl, rfl, hc⟩

/-- Registries grow where the cache and its founders stay. -/
theorem Founded.keep (h : Founded targets ops registries who s) {s' : Shared κ E}
    (hcache : s'.cache = s.cache) (hgrown : ∀ k, (registries k).Extends (s'.registries k))
    (hc : c.founds targets (registries holder) = false ∨ ∃ f, who c.key c.target = some f) :
    Founded targets ops registries
      (fun k i => Turn.founder targets registries k i (who k i) ⟨holder, .call c⟩) s' := by
  have hwho : ∀ k i, Turn.founder targets registries k i (who k i) ⟨holder, .call c⟩ =
      who k i := by
    intro k i
    refine Option.ext fun f => ?_
    rw [Turn.founder_call_eq_some_iff]
    constructor
    · rintro (hold | ⟨hnone, -, hki, hfounds⟩)
      · exact hold
      · cases hki
        rcases hc with hc | ⟨g, hg⟩
        · rw [hc] at hfounds
          cases hfounds
        · rw [hg] at hnone
          cases hnone
    · exact .inl
  simp only [hwho]
  exact ⟨hgrown, hcache ▸ h.absent, hcache ▸ h.present⟩

/-- A mapper that is stored has been founded by the holder that stores it. -/
theorem Founded.store (h : Founded targets ops registries who s) (hops : Consistent ops)
    (hc : .call c ∈ ops) (hwho : who c.key c.target = none)
    (hfounds : c.founds targets (registries holder) = true) {m : Mapper (E c.target)}
    (hm : mapperFor targets (registries holder) c.key c.target c.columns c.resultMap = .ok m)
    {s' : Shared κ E} (hcache : s'.cache = (s.cache.store c.key c.target m).2)
    (hgrown : ∀ k, (registries k).Extends (s'.registries k)) :
    Founded targets ops registries
      (fun k i => Turn.founder targets registries k i (who k i) ⟨holder, .call c⟩) s' := by
  refine ⟨hgrown, fun k i hnone => ?_, fun k i f hf => ?_⟩
  · have hnot := fun f => mt Turn.founder_call_eq_some_iff.2 (Option.eq_none_iff_forall_ne_some.1
      hnone f)
    have hki : (k, i) ≠ (c.key, c.target) := by
      rintro hki
      cases hki
      exact hnot holder (.inr ⟨hwho, rfl, rfl, hfounds⟩)
    rw [hcache, MapperCache.find?_store_of_ne hki]
    exact h.absent k i (Option.eq_none_iff_forall_ne_some.2 fun f hf => hnot f (.inl hf))
  · rw [hcache]
    rcases Turn.founder_call_eq_some_iff.1 hf with hf | ⟨-, rfl, hki, -⟩
    · have hki : (k, i) ≠ (c.key, c.target) := by
        rintro hki
        cases hki
        rw [hwho] at hf
        cases hf
      rw [MapperCache.find?_store_of_ne hki]
      exact h.present k i f hf
    · cases hki
      refine ⟨_, MapperCache.find?_store_self s.cache c.key c.target m, fun d hd hk hi => ?_⟩
      obtain ⟨hcol, hmap⟩ := hops d c hd hc hk hi
      rw [hcol, hmap]
      exact hm

section
variable [DecidableEq κ]

theorem Founded.grown_update (h : Founded targets ops registries who s) {r : Registry}
    (hr : (s.registries holder).Extends r) (k : κ) :
    (registries k).Extends (Function.update s.registries holder r k) := by
  by_cases hk : k = holder
  · subst hk
    rw [Function.update_self]
    exact (h.grown k).trans hr
  · rw [Function.update_of_ne hk]
    exact h.grown k

/-- Each turn keeps mappers those of their founders. -/
theorem Founded.apply (h : Founded targets ops registries who s) (hops : Consistent ops)
    {x : Turn κ ι} (hx : x.operation ∈ ops) :
    Founded targets ops registries
      (fun k i => Turn.founder targets registries k i (who k i) x) (x.apply targets s) := by
  obtain ⟨holder, c | _⟩ := x
  · have hgrown : ∀ r, (s.registries holder).Extends r → ∀ k,
        (registries k).Extends (Function.update s.registries holder r k) :=
      fun _ => h.grown_update
    simp only [Turn.apply, Operation.apply, Call.perform_workspace]
    by_cases hrows : RowSource.hasRows c.source = true
    · rw [if_pos hrows]
      have hmapper :=
        mapperFor_of_extends (h.grown holder) targets c.key c.target c.columns c.resultMap
      rcases c.getOrBuild_cases targets (s.workspace holder) with
        ⟨stored, hf, hget⟩ | ⟨hf, r, hr, ⟨e, log, hm, hget⟩ | ⟨m, log, hm, hget⟩⟩
      all_goals rw [hget]
      · obtain ⟨f, hwho, -⟩ := h.exists_founder hx hf
        exact h.keep rfl (hgrown _ (.refl _ _)) (.inr ⟨f, hwho⟩)
      · refine h.keep rfl (hgrown r hr) (.inl ?_)
        rw [Call.founds, ← hmapper, Bool.and_eq_false_iff]
        exact .inr (congrArg Except.toBool hm)
      · -- nobody has founded what the cache does not hold, so the caller founds it now
        refine h.store hops hx (h.founder_eq_none hf) ?_ (hmapper.symm.trans hm) rfl (hgrown r hr)
        rw [Call.founds, ← hmapper, Bool.and_eq_true]
        exact ⟨hrows, congrArg Except.toBool hm⟩
    · rw [if_neg hrows]
      refine h.keep rfl (hgrown _ (.refl _ _)) (.inl ?_)
      rw [Call.founds, Bool.and_eq_false_iff]
      exact .inl (eq_false_of_ne_true hrows)
  · refine ⟨h.grown_update (.refl _ _), fun k i _ => MapperCache.find?_clear _ k i, ?_⟩
    intro k i f hf
    cases hf

theorem Founded.run (h : Founded targets ops registries who s) (hops : Consistent ops)
    {turns : List (Turn κ ι)} (ht : ∀ x ∈ turns, x.operation ∈ ops) :
    Founded targets ops registries
      (fun k i => turns.foldl (Turn.founder targets registries k i) (who k i))
      (Shared.run targets turns s) := by
  induction turns generalizing who s with
  | nil => exact h
  | cons x rest ih =>
    exact ih (h.apply hops (ht x List.mem_cons_self)) fun y hy => ht y (List.mem_cons_of_mem _ hy)

end

/-- In an empty cache nobody has founded anything. -/
theorem founded_of_empty (targets : (i : ι) → Target (E i)) (ops : List (Operation ι))
    (registries : κ → Registry) :
    Founded targets ops registries (fun _ _ => none) { registries } :=
  ⟨fun _ => .refl _ _, fun k i _ => MapperCache.find?_of_entries_nil rfl k i, nofun⟩

end

/-! ## Top theorems -/

/-- Every call of a consistent run on a shared cache gives what it gives on an empty cache and the
handlers of its founder, who is the caller if nobody has founded its mapper before, and leaves its
source in the same state.  So the others are not noticed where the caller would have built the same
mapper. -/
theorem perform_shared_eq_founder [DecidableEq ι] [DecidableEq κ]
    (targets : (i : ι) → Target (E i)) (turns : List (Turn κ ι))
    (hturns : Consistent (turns.map Turn.operation)) (registries : κ → Registry)
    (before after : List (Turn κ ι)) (holder : κ) (c : Call ι)
    (h : turns = before ++ ⟨holder, .call c⟩ :: after) :
    let w := (Shared.run targets before { registries }).workspace holder
    let f := (founder targets registries before c.key c.target).getD holder
    ((c.perform targets w).result = (c.perform targets { registry := registries f }).result ∧
      (c.perform targets w).source = (c.perform targets { registry := registries f }).source) ∧
    (mapperFor targets (registries f) c.key c.target c.columns c.resultMap =
        mapperFor targets (registries holder) c.key c.target c.columns c.resultMap →
      (c.perform targets w).result =
          (c.perform targets { registry := registries holder }).result ∧
        (c.perform targets w).source =
          (c.perform targets { registry := registries holder }).source) := by
  intro w f
  have hc : .call c ∈ turns.map Turn.operation := by rw [h]; simp
  have hb : ∀ x ∈ before, x.operation ∈ turns.map Turn.operation := fun x hx =>
    List.mem_map_of_mem (by rw [h]; exact List.mem_append_left _ hx)
  have hrun := ((founded_of_empty targets (turns.map Turn.operation) registries).run hturns
    hb).getOrBuild_fst hc holder
  have hfresh : ∀ r, (Workspace.getOrBuild c.key c.target (c.build targets)
      { registry := r }).1.map Stored.mapper =
        mapperFor targets r c.key c.target c.columns c.resultMap := fun r =>
    (founded_of_empty targets (turns.map Turn.operation) fun _ : Unit => r).getOrBuild_fst hc ()
  exact ⟨c.perform_congr targets (hrun.trans (hfresh _).symm), fun hsame =>
    c.perform_congr targets ((hrun.trans hsame).trans (hfresh _).symm)⟩

/-- Labels, which are read by a handler in capitals. -/
def labelTarget : Target Value where
  name := "Label"
  fields := Roster.empty.put
    { name := "text", kind := .text, handler := some "upper",
      setter := some fun v _ => (.ok (), v) }
  blank := some .null

def labelCall : Call Unit where
  settings := {}
  target := ()
  request := { statement := .sql "select text" }
  extent := .one
  pace := .blocking
  Source := MemoryRows
  rows := inferInstance
  source := .ofRows [⟨0, "text", .text⟩] [[.text "a"]]

/-- The first holder has the handler of labels, the second has not. -/
def labelRegistries (first : Bool) : Registry :=
  if first then ({} : Registry).registerNamed "upper" (.upper "upper") else {}

def labelTurns : List (Turn Bool Unit) := [⟨true, .call labelCall⟩, ⟨false, .call labelCall⟩]

/-- The second holder is served by the handler of the first. -/
theorem perform_labelTurns_eq :
    Consistent (labelTurns.map Turn.operation) ∧
      founder (fun _ => labelTarget) labelRegistries (labelTurns.take 1) labelCall.key () =
        some true ∧
      (labelCall.perform (fun _ => labelTarget) ((Shared.run (fun _ => labelTarget)
          (labelTurns.take 1) { registries := labelRegistries }).workspace false)).result =
        (labelCall.perform (fun _ => labelTarget) { registry := labelRegistries true }).result := by
  have hconsistent : Consistent (labelTurns.map Turn.operation) := by
    intro c d hc hd
    simp only [labelTurns, List.map_cons, List.map_nil, List.mem_cons, Operation.call.injEq,
      List.not_mem_nil, or_false, or_self] at hc hd
    subst hc hd
    exact fun _ _ => ⟨rfl, rfl⟩
  exact ⟨hconsistent, rfl, (perform_shared_eq_founder (fun _ => labelTarget) labelTurns
    hconsistent labelRegistries (labelTurns.take 1) [] false labelCall rfl).1.1⟩

/-- The second holder, whose registry lacks the handler, is told so unless the first has mapped
before: then the label is mapped in capitals. -/
theorem shared_mapper_lacks_handler :
    (labelCall.perform (fun _ => labelTarget) ((Shared.run (fun _ => labelTarget) []
        { registries := labelRegistries }).workspace false)).result =
      .error (.of (.unknownHandler "upper")) ∧
    (labelCall.perform (fun _ => labelTarget) ((Shared.run (fun _ => labelTarget)
        [⟨true, .call labelCall⟩] { registries := labelRegistries }).workspace false)).result =
      .ok (some (.text "A")) := by
  constructor
  · rfl
  · rfl

end Hydration
