import Hydration.Proofs.Plan.Draft

/-!
# Registries over a history of plans

Planning writes to a registry that others use, and when it fails it leaves behind what it wrote.
All that it ever writes are handlers of enumerations that it wants, and those make no difference to
anybody: whatever is registered and planned, plans come out as if nothing else had been planned.

    p.Wants r e                    planning `p` needs the handler of `e`, with none named
    Planning.extends_after         what planning adds to a registry
    Extends.apply                  registrations keep registries apart by enumerations only
    extends_after_registrations    a registry is that of its registrations, but for enumerations
    plans_undisturbed              the frame of one planning, and of all plannings for each other
-/

namespace Hydration

/-! ## Algorithm -/

/-- What the planner is asked for. -/
structure Planning where
  Record : Type
  target : Target Record
  columns : List Column
  map : Option ResultMap

namespace Planning

/-- The plan, or why there is none. -/
def outcome (p : Planning) (r : Registry) : Except Error Plan :=
  (Plan.build p.target p.columns p.map r).1

/-- The registry after planning, also when there is no plan. -/
def after (p : Planning) (r : Registry) : Registry := (Plan.build p.target p.columns p.map r).2

/-- The arguments of the constructor, with their positions. -/
def arguments (p : Planning) : List (Argument × Nat) :=
  ((p.map.bind ResultMap.arguments).getD []).zipIdx

/-- `e` is the kind of an argument, or of the field of a claim that stands, and no handler is
named for it. -/
inductive Wants (p : Planning) (r : Registry) (e : Enumeration) : Prop
  | argument {a : Argument × Nat} (ha : a ∈ p.arguments) (hh : a.1.handler = none)
    (hk : a.1.kind = .enum e)
  | field {bindings : List Binding} {x : Claim} {f : Field p.Record}
    (hb : p.arguments.mapM (Plan.argument p.target.name p.columns r) = .ok bindings)
    (hx : x ∈ (Plan.standing p.target p.map bindings p.columns).1)
    (hf : p.target.field? x.field = some f) (hh : (x.handler <|> f.handler) = none)
    (hk : f.kind = .enum e)

end Planning

namespace Registry

/-- What is done with a registry. -/
inductive Use where
  | register (wanted column : Kind) (h : Handler)
  | registerNamed (name : String) (h : Handler)
  | forEnumeration (e : Enumeration)
  | plan (p : Planning)

/-- All uses but planning. -/
def Use.isRegistration : Use → Bool
  | plan _ => false
  | _ => true

/-- The registry after a use. -/
def apply (r : Registry) : Use → Registry
  | .register wanted column h => r.register wanted column h
  | .registerNamed name h => r.registerNamed name h
  | .forEnumeration e => (r.forEnumeration e).2
  | .plan p => p.after r

/-- The registry after uses one after the other. -/
def after (r : Registry) (uses : List Use) : Registry := uses.foldl apply r

/-! ## Lemmas -/

variable {r s : Registry} {P Q : Enumeration → Prop}

namespace Extends

theorem mono (h : r.Extends s P) (hPQ : ∀ e, P e → Q e) : r.Extends s Q := by
  refine ⟨h.named, fun k c => (h.find? k c).imp_right ?_⟩
  rintro ⟨e, he, hrest⟩
  exact ⟨e, hPQ e he, hrest⟩

theorem find?_of_some (h : r.Extends s P) {k c : Kind} {x : Handler} (hr : r.find? k c = some x) :
    s.find? k c = some x := by
  rcases h.find? k c with hs | ⟨e, -, -, -, hnone, -⟩
  · rw [hs, hr]
  · rw [hr] at hnone
    cases hnone

theorem exists_of_find?_none (h : r.Extends s P) {k c : Kind} {x : Handler}
    (hr : r.find? k c = none) (hs : s.find? k c = some x) :
    ∃ e, P e ∧ k = .enum e ∧ c = .any ∧ x = .ofEnumeration e := by
  rcases h.find? k c with h | ⟨e, he, hk, hc, -, hx⟩
  · rw [h, hr] at hs
    cases hs
  · exact ⟨e, he, hk, hc, Option.some.inj (hs.symm.trans hx)⟩

theorem register (h : r.Extends s) (wanted column : Kind) (x : Handler) :
    (r.register wanted column x).Extends (s.register wanted column x) := by
  refine ⟨h.named, fun k c => ?_⟩
  by_cases hkc : (k, c) = (wanted, column)
  · cases hkc
    exact .inl (by rw [find?_register_self, find?_register_self])
  · rw [find?_register_of_ne hkc, find?_register_of_ne hkc]
    exact h.find? k c

theorem registerNamed (h : r.Extends s) (name : String) (x : Handler) :
    (r.registerNamed name x).Extends (s.registerNamed name x) :=
  ⟨congrArg (List.cons (name, x)) h.named, h.find?⟩

/-- The handler of an enumeration is registered in both, or it is there already. -/
theorem forEnumeration_snd (h : r.Extends s) (e : Enumeration) :
    (r.forEnumeration e).2.Extends (s.forEnumeration e).2 := by
  unfold Registry.forEnumeration
  cases hr : r.find? (.enum e) .any with
  | some x =>
    rw [h.find?_of_some hr]
    exact h
  | none =>
    cases hs : s.find? (.enum e) .any with
    | none => exact h.register _ _ _
    | some x =>
      obtain ⟨e', -, hk, -, rfl⟩ := h.exists_of_find?_none hr hs
      cases hk
      refine ⟨h.named, fun k c => ?_⟩
      by_cases hkc : (k, c) = (.enum e, .any)
      · cases hkc
        exact .inl (by rw [find?_register_self, hs])
      · rw [find?_register_of_ne hkc]
        exact h.find? k c

/-- A registration keeps registries apart by handlers of enumerations only. -/
theorem apply (h : r.Extends s) {use : Use} (hu : use.isRegistration = true) :
    (r.apply use).Extends (s.apply use) := by
  cases use with
  | register wanted column x => exact h.register wanted column x
  | registerNamed name x => exact h.registerNamed name x
  | forEnumeration e => exact h.forEnumeration_snd e
  | plan p => cases hu

end Extends

end Registry

namespace Planning

variable {r s : Registry}

/-- Planning adds the handlers that it wants, at most, also when it fails. -/
theorem extends_after (p : Planning) (r : Registry) : r.Extends (p.after r) (p.Wants r) := by
  refine Plan.extends_build p.target p.columns p.map r (fun a ha e hh hk => ?_)
    fun bindings hb x hx f e hf hh hk => .field hb hx hf hh hk
  obtain ⟨i, hi⟩ := List.mem_iff_getElem?.1 ha
  exact .argument (List.mk_mem_zipIdx_iff_getElem?.2 hi) hh hk

theorem outcome_of_extends (h : r.Extends s) (p : Planning) : p.outcome s = p.outcome r :=
  Plan.build_fst_of_extends h p.target p.columns p.map

end Planning

namespace Registry

/-- A registry is that of its registrations alone, but for handlers of enumerations. -/
theorem extends_after_registrations {r s : Registry} (h : r.Extends s) (uses : List Use) :
    (r.after (uses.filter Use.isRegistration)).Extends (s.after uses) := by
  induction uses generalizing r s with
  | nil => exact h
  | cons use rest ih =>
    rw [List.filter_cons]
    split
    · exact ih (h.apply ‹_›)
    · cases use with
      -- `r` stands still while `s` is planned with
      | plan p => exact ih (h.trans ((p.extends_after s).mono fun _ _ => trivial))
      | _ => exact absurd rfl ‹_›

end Registry

/-! ## Top theorems -/

/-- Whatever a registry has been used for, planning changes none of its handlers, and adds handlers
of enumerations that it wants only.  The plan is the same, or the same error, after any number of
other plans, and as if nothing had been planned before. -/
theorem plans_undisturbed (uses : List Registry.Use) (p : Planning) (between : List Planning) :
    let r := Registry.after {} uses
    (∀ name, (p.after r).findNamed name = r.findNamed name) ∧
    (∀ k c x, r.find? k c = some x → (p.after r).find? k c = some x) ∧
    (∀ k c x, r.find? k c = none → (p.after r).find? k c = some x →
      ∃ e, p.Wants r e ∧ k = .enum e ∧ c = .any ∧ x = .ofEnumeration e) ∧
    p.outcome (r.after (between.map .plan)) = p.outcome r ∧
    p.outcome r = p.outcome (Registry.after {} (uses.filter Registry.Use.isRegistration)) := by
  intro r
  have hafter := p.extends_after r
  have hbetween := Registry.extends_after_registrations (.refl r _) (between.map .plan)
  have hnone : (between.map Registry.Use.plan).filter Registry.Use.isRegistration = [] := by
    rw [List.filter_eq_nil_iff]
    intro use huse
    obtain ⟨q, -, rfl⟩ := List.mem_map.1 huse
    exact Bool.false_ne_true
  rw [hnone] at hbetween
  exact ⟨hafter.findNamed, fun k c x => hafter.find?_of_some, fun k c x =>
    hafter.exists_of_find?_none, Planning.outcome_of_extends hbetween p,
    Planning.outcome_of_extends (Registry.extends_after_registrations (.refl {} _) uses) p⟩

/-- Parcels: the state is an enumeration, and the label needs a handler. -/
def parcelTarget : Target Value where
  name := "Parcel"
  fields := .ofList [
    { name := "state", kind := .enum ⟨"State", ["Sent", "Here"]⟩,
      setter := some fun v _ => (.ok (), v) },
    { name := "label", kind := .text, handler := some "Label",
      setter := some fun v _ => (.ok (), v) }]
  blank := some .null

def parcelPlanning : Planning where
  Record := Value
  target := parcelTarget
  columns := Column.number [("state", .text), ("label", .text)]
  map := none

/-- Planning that fails at the label has registered the handler of the state by then. -/
example : parcelPlanning.outcome {} = .error (.of (.unknownHandler "Label")) ∧
    (parcelPlanning.after {}).find? (.enum ⟨"State", ["Sent", "Here"]⟩) .any =
      some (.ofEnumeration ⟨"State", ["Sent", "Here"]⟩) :=
  ⟨rfl, rfl⟩

end Hydration
