import Hydration.Proofs.Conversion
import Hydration.Proofs.Roster
import Hydration.Record

/-!
# What setters do

Setters are framed when each of them writes its own field only, and separate when none of them looks
at another field either.  A setter converts when it keeps what its field's kind makes of a value,
and refuses the value when the kind does.  Dynamic records have separate setters, and setters that
convert where the fields are stored by their kinds.

    t.Framed view         every setter writes its own field only
    t.Separate view       and looks at no other                        RecordSpec.separate
    t.Converts view       every setter converts                        RecordSpec.converts
    t.HookSuits view hook the hook keeps what fields may hold          RecordSpec.hookSuits
-/

namespace Hydration

variable {ρ α : Type}

/-! ## Algorithm -/

/-- Every setter writes its own field only; it may look at the others.  `view i` is what a record
holds in the field at `i`. -/
structure Target.Framed (t : Target ρ) (view : Nat → ρ → α) : Prop where
  frame : ∀ i f setter v record, t.field? i = some f → f.setter = some setter →
    (setter v record).1 = .ok () → ∀ j, j ≠ i → view j (setter v record).2 = view j record

/-- Every setter writes its own field only and looks at no other: whether it takes a value, and what
it then stores, depends on what its own field holds alone. -/
structure Target.Separate (t : Target ρ) (view : Nat → ρ → α) : Prop extends t.Framed view where
  own : ∀ i f setter v record other, t.field? i = some f → f.setter = some setter →
    (setter v record).1 = .ok () → view i other = view i record →
      (setter v other).1 = .ok () ∧ view i (setter v other).2 = view i (setter v record).2

/-- What the setter of a field makes of a value. -/
def Field.converted (f : Field ρ) (v : Value) : Except Error Value :=
  if f.nullable && v.isNull then .ok .null else f.kind.convert v

/-- Every setter converts to the kind of its field, and writes that field only.  `view i` is what a
record holds in the field at `i`. -/
structure Target.Converts (t : Target ρ) (view : Nat → ρ → Value) : Prop where
  stores : ∀ i f setter v x record, t.field? i = some f → f.setter = some setter →
    f.converted v = .ok x → (setter v record).1 = .ok () ∧ view i (setter v record).2 = x ∧
      ∀ j, j ≠ i → view j (setter v record).2 = view j record
  refuses : ∀ i f setter v e record, t.field? i = some f → f.setter = some setter →
    f.converted v = .error e → (setter v record).1 = .error e

/-- What a field may hold, it may hold after the hook too. -/
def Target.HookSuits (t : Target ρ) (view : Nat → ρ → Value) (hook : ρ → ρ) : Prop :=
  ∀ i f record, t.field? i = some f → f.kind.Suits f.nullable (view i record) →
    f.kind.Suits f.nullable (view i (hook record))

/-- What a dynamic record holds in the field at an index. -/
def RecordSpec.view (s : RecordSpec) (i : Nat) (r : Record) : Value :=
  ((s.target.field? i).bind fun f => r.get? f.name).getD .null

/-! ## Lemmas -/

/-- A field keeps the values that it may hold as they are. -/
theorem Field.converted_of_suits {f : Field ρ} {v : Value} (h : f.kind.Suits f.nullable v) :
    f.converted v = .ok v := by
  unfold Field.converted
  by_cases hn : v = .null
  · rcases h with ⟨-, hnull | hany⟩ | ⟨hv, -⟩
    · simp [hn, hnull, Value.isNull]
    · rw [hany, hn]
      cases f.nullable <;> rfl
    · exact absurd hn hv
  · rcases h with ⟨hv, -⟩ | ⟨-, hi⟩
    · exact absurd hv hn
    · have hnull : ¬(f.nullable && v.isNull) = true := by
        rw [Bool.and_eq_true, Value.isNull_iff]
        exact fun h => hn h.2
      rw [if_neg hnull]
      exact Kind.convert_of_inhabits hi hn

/-- Fields at different indices have different names. -/
theorem Target.name_ne_of_index_ne {t : Target ρ} {i j : Nat} {f g : Field ρ}
    (hf : t.field? i = some f) (hg : t.field? j = some g) (h : j ≠ i) : f.name ≠ g.name := by
  intro hn
  have hd := t.fields.distinct
  have hi : (t.fields.items.map Field.name)[i]? = some f.name := by
    rw [List.getElem?_map, show t.fields.items[i]? = some f from hf, Option.map_some]
  have hj : (t.fields.items.map Field.name)[j]? = some f.name := by
    rw [List.getElem?_map, show t.fields.items[j]? = some g from hg, Option.map_some, hn]
  have hlt := (List.getElem?_eq_some_iff.1 hi).1
  exact h ((List.getElem?_inj hlt hd).1 (hi.trans hj.symm)).symm

namespace Record

theorem get?_put_self (r : Record) (name : String) (v : Value) :
    (r.put name v).get? name = some v := by
  unfold get? put
  rw [show (r.entries.put ⟨name, v⟩).find? name = some ⟨name, v⟩ from
    Roster.find?_put_self r.entries ⟨name, v⟩]
  rfl

theorem get?_put_of_ne {r : Record} {name other : String} {v : Value} (h : name ≠ other) :
    (r.put name v).get? other = r.get? other := by
  unfold get? put
  rw [Roster.find?_put_of_ne h]

end Record

namespace RecordSpec

variable {s : RecordSpec} {i j : Nat} {f : Field Record} {setter : Setter Record}

theorem view_put_self (hf : s.target.field? i = some f) (v : Value) (r : Record) :
    s.view i (r.put f.name v) = v := by
  unfold view
  rw [hf, Option.bind_some, Record.get?_put_self]
  rfl

theorem view_put_of_ne (hf : s.target.field? i = some f) (v : Value) (r : Record) (h : j ≠ i) :
    s.view j (r.put f.name v) = s.view j r := by
  unfold view
  cases hg : s.target.field? j with
  | none => rfl
  | some g =>
    rw [Option.bind_some, Option.bind_some,
      Record.get?_put_of_ne (s.target.name_ne_of_index_ne hf hg h)]

/-- A setter puts the value that the field's storage accepts under the field's name. -/
theorem exists_setter (hf : s.target.field? i = some f) (hs : f.setter = some setter) :
    ∃ spec ∈ s.fields, f = spec.field ∧ setter = spec.setter := by
  obtain ⟨spec, hspec, rfl⟩ := List.mem_map.1 (Roster.mem_of_mem_ofList (List.mem_of_getElem? hf))
  refine ⟨spec, hspec, rfl, ?_⟩
  unfold FieldSpec.field at hs
  split at hs
  · cases hs
  · exact (Option.some.inj hs).symm

end RecordSpec

theorem FieldSpec.setter_of_ok {f : FieldSpec} {v x : Value}
    (h : Storage.accept f.nullable f.storage v = .ok x) (r : Record) :
    f.setter v r = (.ok (), r.put f.name x) := by
  rw [FieldSpec.setter, h]

theorem FieldSpec.setter_of_error {f : FieldSpec} {v : Value} {e : Error}
    (h : Storage.accept f.nullable f.storage v = .error e) (r : Record) :
    f.setter v r = (.error e, r) := by
  rw [FieldSpec.setter, h]

/-! ## Top theorems -/

/-- The setters of dynamic records are separate. -/
theorem RecordSpec.separate (s : RecordSpec) : s.target.Separate s.view := by
  have hset : ∀ {i f setter}, s.target.field? i = some f → f.setter = some setter → ∀ v r,
      (setter v r).1 = .ok () → ∃ x, ∀ r, setter v r = (.ok (), r.put f.name x) := by
    intro i f setter hf hs v r hok
    obtain ⟨spec, -, rfl, rfl⟩ := exists_setter hf hs
    cases ha : Storage.accept spec.nullable spec.storage v with
    | ok x => exact ⟨x, spec.setter_of_ok ha⟩
    | error e =>
      rw [spec.setter_of_error ha] at hok
      cases hok
  refine ⟨⟨fun i f setter v r hf hs hok j hj => ?_⟩, fun i f setter v r other hf hs hok _ => ?_⟩
  · obtain ⟨x, hx⟩ := hset hf hs v r hok
    rw [hx]
    exact view_put_of_ne hf x r hj
  · obtain ⟨x, hx⟩ := hset hf hs v r hok
    rw [hx, hx]
    exact ⟨rfl, (view_put_self hf x other).trans (view_put_self hf x r).symm⟩

/-- Dynamic records whose fields are stored by their kinds have setters that convert. -/
theorem RecordSpec.converts (s : RecordSpec) (h : ∀ f ∈ s.fields, f.storage = .kind f.kind) :
    s.target.Converts s.view := by
  have haccept : ∀ spec ∈ s.fields, ∀ v,
      Storage.accept spec.nullable spec.storage v = spec.field.converted v := by
    intro spec hspec v
    rw [h spec hspec]
    rfl
  refine ⟨fun i f setter v x r hf hs hx => ?_, fun i f setter v e r hf hs he => ?_⟩
  · obtain ⟨spec, hspec, rfl, rfl⟩ := exists_setter hf hs
    rw [spec.setter_of_ok ((haccept spec hspec v).trans hx)]
    exact ⟨rfl, view_put_self hf x r, fun j hj => view_put_of_ne hf x r hj⟩
  · obtain ⟨spec, hspec, rfl, rfl⟩ := exists_setter hf hs
    rw [spec.setter_of_error ((haccept spec hspec v).trans he)]

/-- The hook of dynamic records changes no field. -/
theorem RecordSpec.hookSuits (s : RecordSpec) {hook : Record → Record}
    (h : s.target.trackingHook = some hook) : s.target.HookSuits s.view hook := by
  have hhook : s.target.trackingHook =
      if s.hook then some fun r => { r with hooked := true } else none := rfl
  rw [hhook] at h
  split at h
  · cases h
    exact fun _ _ _ _ hsuits => hsuits
  · cases h

end Hydration
