import Hydration.Proofs.Cache.Script
import Hydration.Proofs.Session.Basic
import Mathlib.Data.Finset.Card

/-!
# Callers of a cache converge

The first mapper that is stored for a key and a target is the one that every caller gets until
the cache is cleared, however look-ups, builds, failures and clears are nested.  `Keeps past w`
is the invariant: the cache of `w` holds what was stored since it was last cleared, one mapper for
each key and target, and each moment of the past is what the moments before it call for.

    Keeps past w → Keeps (past ++ p.history w) (p.run w).2                       (Keeps.run)
    Keeps past w → Converges past                                                (Keeps.converges)
-/

namespace Hydration

variable {ι : Type} {E : ι → Type} [DecidableEq ι]

/-! ## Algorithm -/

/-- The moment is what the moments before it call for. -/
def Moment.Fits (past : List (Moment E)) : Moment E → Prop
  | found key target answer => answer = first? past key target
  | built _ _ _ => True
  | stored key target s =>
    -- the first for its key and target, built just now, and never stored before
    first? past key target = none ∧
      (∃ earlier, past = earlier ++ [.built key target (.ok s.mapper)]) ∧
      ∀ k i s', .stored k i s' ∈ past → s'.serial ≠ s.serial
  | given key target (.ok s) => first? past key target = some s
  | given key target (.error e) => ∃ earlier, past = earlier ++ [.built key target (.error e)]
  | counted n => n = (pairs past).toFinset.card
  | cleared => True

/-- What the cache holds is what was stored since it was last cleared. -/
structure Keeps (past : List (Moment E)) (w : Workspace E) : Prop where
  fits : ∀ before m after, past = before ++ m :: after → m.Fits before
  find?_eq : ∀ k i, w.cache.find? k i = first? past k i
  size_eq : w.cache.size = (pairs past).length
  nodup : (pairs past).Nodup
  issued : ∀ k i s, .stored k i s ∈ past → s.serial < w.cache.issued

/-- What callers learn from a cache. -/
structure Converges (history : List (Moment E)) : Prop where
  /-- Every moment is what the moments before it call for. -/
  fits : ∀ before m after, history = before ++ m :: after → m.Fits before
  /-- Until the cache is cleared, one mapper is given for a key and a target. -/
  same : ∀ before between after k i s s', history = before ++ .given k i (.ok s) ::
    (between ++ .given k i (.ok s') :: after) → .cleared ∉ between → s' = s
  /-- A mapper is found and given for the key and the target it was stored for only. -/
  own : ∀ k i s k' i' s', (.given k i (.ok s) ∈ history ∨ .found k i (some s) ∈ history) →
    .stored k' i' s' ∈ history → s'.serial = s.serial → k' = k ∧ i' = i

/-! ## Lemmas -/

variable {past : List (Moment E)} {w w' : Workspace E} {k : CacheKey} {i : ι}

namespace Keeps

theorem empty (r : Registry) (log : List Event) : Keeps (E := E) [] ⟨.empty, r, log⟩ where
  fits before m after h := by cases before <;> cases h
  find?_eq _ _ := rfl
  size_eq := rfl
  nodup := List.nodup_nil
  issued _ _ _ h := nomatch h

theorem fits_snoc (h : Keeps past w) {m : Moment E} (hm : m.Fits past) :
    ∀ before x after, past ++ [m] = before ++ x :: after → x.Fits before := by
  intro before x after heq
  rcases List.eq_nil_or_concat after with rfl | ⟨after, y, rfl⟩
  · obtain ⟨rfl, hx⟩ := List.append_inj' heq rfl
    cases hx
    exact hm
  · rw [List.concat_eq_append, ← List.cons_append, ← List.append_assoc] at heq
    exact h.fits before x after (List.append_inj' heq rfl).1

/-- A moment at which nothing is stored and nothing is forgotten. -/
theorem quiet (h : Keeps past w) {m : Moment E} (hm : m.Fits past) (hclear : m.isClear = false)
    (hpair : m.pair? = none) (hw : w'.cache = w.cache) : Keeps (past ++ [m]) w' := by
  have hstored : ∀ k i, m.storedFor? k i = none := by
    intro k i
    cases m <;> first | rfl | cases hpair
  have hpairs : pairs (past ++ [m]) = pairs past := by
    rw [pairs_snoc hclear, hpair, Option.toList_none, List.append_nil]
  refine ⟨h.fits_snoc hm, fun k i => ?_, ?_, ?_, fun k i s hs => ?_⟩
  · rw [hw, h.find?_eq, first?_snoc hclear, hstored, Option.or_none]
  · rw [hw, h.size_eq, hpairs]
  · rw [hpairs]
    exact h.nodup
  · rw [hw]
    rcases List.mem_append.1 hs with hs | hs
    · exact h.issued k i s hs
    · rw [← List.mem_singleton.1 hs] at hpair
      cases hpair

/-- A step that leaves the cache alone. -/
theorem of_cache_eq (h : Keeps past w) (hw : w'.cache = w.cache) : Keeps past w' :=
  ⟨h.fits, by rw [hw]; exact h.find?_eq, by rw [hw]; exact h.size_eq, h.nodup,
    by rw [hw]; exact h.issued⟩

theorem clear (h : Keeps past w) :
    Keeps (past ++ [.cleared]) { w with cache := w.cache.clear } where
  fits := h.fits_snoc trivial
  find?_eq k i := by rw [first?_cleared, MapperCache.find?_clear]
  size_eq := by rw [pairs_cleared]; rfl
  nodup := by rw [pairs_cleared]; exact List.nodup_nil
  issued k i s hs := h.issued k i s ((List.mem_append.1 hs).resolve_right (by simp))

/-- A mapper that was just built is stored for a key and a target that had none. -/
theorem store (h : Keeps past w) {m : Mapper (E i)}
    (hbuilt : ∃ earlier, past = earlier ++ [.built k i (.ok m)])
    (hnone : w.cache.find? k i = none) :
    Keeps (past ++ [.stored k i (w.cache.store k i m).1])
      { w with cache := (w.cache.store k i m).2 } := by
  have hfirst : first? past k i = none := by rw [← h.find?_eq, hnone]
  have hpairs : pairs (past ++ [.stored k i (w.cache.store k i m).1]) = pairs past ++ [(k, i)] :=
    pairs_snoc rfl
  refine ⟨h.fits_snoc ⟨hfirst, hbuilt, fun k' j s hs => ?_⟩, fun k' j => ?_, ?_, ?_, ?_⟩
  · exact Nat.ne_of_lt (h.issued k' j s hs)
  · rw [first?_snoc rfl]
    by_cases hne : (k', j) = (k, i)
    · cases hne
      rw [MapperCache.find?_store_self, hfirst, storedFor?_self, Option.none_or]
    · rw [MapperCache.find?_store_of_ne hne, h.find?_eq, storedFor?_of_ne hne, Option.or_none]
  · rw [hpairs, List.length_append, ← h.size_eq]
    rfl
  · rw [hpairs, List.nodup_append]
    refine ⟨h.nodup, List.nodup_singleton _, fun a ha b hb => ?_⟩
    rw [List.mem_singleton.1 hb]
    rintro rfl
    exact first?_eq_none_iff.1 hfirst ha
  · intro k' j s hs
    rcases List.mem_append.1 hs with hs | hs
    · exact Nat.lt_succ_of_lt (h.issued k' j s hs)
    · cases List.mem_singleton.1 hs
      exact Nat.lt_succ_self _

/-- A mapper was just built and is stored, unless there is one already; that one is given. -/
theorem keep (h : Keeps past w) {m : Mapper (E i)}
    (hbuilt : ∃ earlier, past = earlier ++ [.built k i (.ok m)]) :
    Keeps (past ++ Script.storing k i (.ok m, w) ++ [.given k i (Workspace.keep k i m w).1])
      (Workspace.keep k i m w).2 := by
  cases hfind : w.cache.find? k i with
  | some s =>
    have hstoring : Script.storing k i (.ok m, w) = [] := by rw [Script.storing, hfind]
    rw [hstoring, List.append_nil, Workspace.keep_of_some hfind]
    exact h.quiet ((h.find?_eq k i).symm.trans hfind) rfl rfl rfl
  | none =>
    have hstoring : Script.storing k i (.ok m, w) = [.stored k i (w.cache.store k i m).1] := by
      rw [Script.storing, hfind]
    rw [hstoring, Workspace.keep_of_none hfind]
    refine (h.store hbuilt hfind).quiet ?_ rfl rfl rfl
    show first? _ k i = some _
    rw [first?_snoc rfl, ← h.find?_eq, hfind, storedFor?_self, Option.none_or]

/-- A mapper is found, or else built; `hbuild` is what holds once it is built. -/
theorem getOrBuild (h : Keeps past w) {build : Script E (Except Error (Mapper (E i)))}
    (hbuild : Keeps (past ++ build.history w) (build.run w).2) :
    Keeps (past ++ Script.onMiss k i w (build.history w) (build.run w) ++
        [.given k i (Workspace.getOrBuild k i build.run w).1])
      (Workspace.getOrBuild k i build.run w).2 := by
  cases hfind : w.cache.find? k i with
  | some s =>
    rw [Script.onMiss, hfind, List.append_nil, Workspace.getOrBuild_of_hit hfind]
    exact h.quiet ((h.find?_eq k i).symm.trans hfind) rfl rfl rfl
  | none =>
    rw [Script.onMiss, hfind]
    rcases hrun : build.run w with ⟨e | m, w'⟩ <;> rw [hrun] at hbuild
    · rw [Workspace.getOrBuild_of_error hfind hrun]
      have hended := hbuild.quiet (m := .built k i (.error e)) trivial rfl rfl rfl
      rw [List.append_assoc] at hended
      exact hended.quiet ⟨_, (List.append_assoc ..).symm⟩ rfl rfl rfl
    · rw [Workspace.getOrBuild_of_ok hfind hrun]
      have hended := hbuild.quiet (m := .built k i (.ok m)) trivial rfl rfl rfl
      have := hended.keep ⟨_, rfl⟩
      simpa only [List.append_assoc, List.singleton_append] using this

/-- What a whole run of a script keeps, whatever it and the scripts in it do. -/
theorem run {α : Type} (p : Script E α) : ∀ {past : List (Moment E)} {w : Workspace E},
    Keeps past w → Keeps (past ++ p.history w) (p.run w).2 := by
  induction p with
  | done a =>
    intro past w h
    rw [Script.history, List.append_nil]
    exact h
  | find key target next ih =>
    intro past w h
    rw [Script.history, List.append_cons]
    exact ih _ (h.quiet (h.find?_eq key target) rfl rfl rfl)
  | getOrBuild key target build next ihBuild ihNext =>
    intro past w h
    have hgiven := h.getOrBuild (k := key) (ihBuild h)
    have hnext := ihNext (Workspace.getOrBuild key target build.run w).1 hgiven
    rw [List.append_assoc, List.append_assoc] at hnext
    exact hnext
  | count next ih =>
    intro past w h
    have hn : w.cache.size = (pairs past).toFinset.card := by
      rw [h.size_eq, List.toFinset_card_of_nodup h.nodup]
    rw [Script.history, List.append_cons]
    exact ih _ (h.quiet hn rfl rfl rfl)
  | clear next ih =>
    intro past w h
    rw [Script.history, List.append_cons]
    exact ih h.clear
  | other step cache_step next ih =>
    intro past w h
    exact ih _ (h.of_cache_eq (cache_step w))

/-- No two mappers that are stored have one serial number. -/
theorem stored_unique (h : Keeps past w) {s : Stored (E i)} {k' : CacheKey} {i' : ι}
    {s' : Stored (E i')} (hs : .stored k i s ∈ past) (hs' : .stored k' i' s' ∈ past)
    (hserial : s'.serial = s.serial) : k' = k ∧ i' = i := by
  obtain ⟨before, after, rfl⟩ := List.append_of_mem hs
  rcases List.mem_append.1 hs' with hs' | hs'
  · exact absurd hserial ((h.fits before _ after rfl).2.2 _ _ _ hs')
  · rcases List.mem_cons.1 hs' with heq | hs'
    · cases heq
      exact ⟨rfl, rfl⟩
    · obtain ⟨between, after, rfl⟩ := List.append_of_mem hs'
      have hfits := h.fits (before ++ .stored k i s :: between) (.stored k' i' s') after (by simp)
      exact absurd hserial.symm (hfits.2.2 k i s (by simp))

theorem converges (h : Keeps past w) : Converges past where
  fits := h.fits
  same before between after k i s s' heq hclear := by
    have hs : first? before k i = some s := h.fits _ _ _ heq
    have hs' : first? (before ++ .given k i (.ok s) :: between) k i = some s' := by
      refine h.fits _ (.given k i (.ok s')) after ?_
      rw [heq, List.append_assoc, List.cons_append]
    rw [first?_append_of_some hs (by simpa using hclear)] at hs'
    exact (Option.some.inj hs').symm
  own k i s k' i' s' hgiven hstored hserial := by
    obtain ⟨before, m, after, heq, hs⟩ :
        ∃ before m after, past = before ++ m :: after ∧ first? before k i = some s := by
      rcases hgiven with hgiven | hfound
      · obtain ⟨before, after, heq⟩ := List.append_of_mem hgiven
        exact ⟨before, _, after, heq, h.fits _ _ _ heq⟩
      · obtain ⟨before, after, heq⟩ := List.append_of_mem hfound
        exact ⟨before, _, after, heq, (h.fits _ _ _ heq).symm⟩
    refine h.stored_unique ?_ hstored hserial
    rw [heq]
    exact List.mem_append_left _ (stored_mem_of_first? hs)

end Keeps

namespace Workspace

/-- A built mapper is always kept or gives way to another: no mapper has another type. -/
theorem exists_keep_eq_ok (k : CacheKey) (i : ι) (m : Mapper (E i)) (w : Workspace E) :
    ∃ s w', Workspace.keep k i m w = (.ok s, w') := by
  cases hfind : w.cache.find? k i with
  | some s => exact ⟨s, _, keep_of_some hfind⟩
  | none => exact ⟨_, _, keep_of_none hfind⟩

/-- Only what builds a mapper fails, and nothing is stored in its place. -/
theorem eq_of_getOrBuild_eq_error {k : CacheKey} {i : ι} {build : Task E (Mapper (E i))}
    {w w' : Workspace E} {e : Error} (h : Workspace.getOrBuild k i build w = (.error e, w')) :
    build w = (.error e, w') := by
  cases hfind : w.cache.find? k i with
  | some s => simp [getOrBuild_of_hit hfind] at h
  | none =>
    rcases hb : build w with ⟨e' | m, v⟩
    · rw [getOrBuild_of_error hfind hb] at h
      cases h
      rfl
    · obtain ⟨s, v', hkeep⟩ := exists_keep_eq_ok k i m v
      rw [getOrBuild_of_ok hfind hb, hkeep] at h
      cases h

end Workspace

/-! ## Top theorems -/

/-- Whatever a script does on a new cache, its callers converge, and the cache ends up with what
was stored since it was last cleared.  Storing a mapper never fails, and a failing build stores
nothing of its own. -/
theorem callers_converge {α : Type} (p : Script E α) (r : Registry) (log : List Event) :
    Converges (p.history ⟨.empty, r, log⟩) ∧
      (∀ k i, (p.run ⟨.empty, r, log⟩).2.cache.find? k i =
        first? (p.history ⟨.empty, r, log⟩) k i) ∧
      (p.run ⟨.empty, r, log⟩).2.cache.size =
        (pairs (p.history ⟨.empty, r, log⟩)).toFinset.card ∧
      (∀ k (i : ι) m (w : Workspace E), ∃ s w', Workspace.keep k i m w = (.ok s, w')) ∧
      ∀ k (i : ι) build (w : Workspace E) e w',
        Workspace.getOrBuild k i build w = (.error e, w') → build w = (.error e, w') := by
  have h : Keeps (p.history ⟨.empty, r, log⟩) (p.run ⟨.empty, r, log⟩).2 :=
    (Keeps.empty r log).run p
  have hsize := h.size_eq
  rw [← List.toFinset_card_of_nodup h.nodup] at hsize
  exact ⟨h.converges, h.find?_eq, hsize, Workspace.exists_keep_eq_ok,
    fun _ _ _ _ _ _ => Workspace.eq_of_getOrBuild_eq_error⟩

/-- What builds a mapper builds one for the same key first, and its own is dropped. -/
example : let k : CacheKey := ⟨"x", false, false⟩
    let m : Mapper Unit := ⟨k, fun _ => .ofResult (.ok ())⟩
    let late : Script (fun _ : Unit => Unit) Unit :=
      .getOrBuild k () (.getOrBuild k () (.done (.ok m)) fun _ => .done (.ok m)) fun _ => .done ()
    late.history {} = [.built k () (.ok m), .stored k () ⟨0, m⟩, .given k () (.ok ⟨0, m⟩),
      .built k () (.ok m), .given k () (.ok ⟨0, m⟩)] := rfl

end Hydration
