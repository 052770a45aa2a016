import Hydration.Proofs.Conversion
import Hydration.Proofs.Text.Naming
import Hydration.Proofs.Text.Trimming

/-!
# Conversion to a variant

Every value stands for at most one variant of an enumeration: a text for the one that it names
between blanks, an integer for the one at that ordinal, and a variant of any enumeration for the
one that has its name or, where none has it, its ordinal.  A name is looked for exactly before it
is looked for in another case.

    e.convert v = .ok w  ↔  v and w are null, or v stands for the variant w    (convert_eq_ok_iff)
    e.convert v = .error _  ↔  v is not null and stands for no variant      (convert_eq_error_iff)

A variant stands for itself when no other has its name, and so does its name as a text when no
blank begins or ends it.
-/

namespace Hydration.Enumeration

/-! ## Algorithm -/

/-- The variant at `i` is the one that a name finds: the first of exactly that name, or, where none
is called so, the first of that name in another case. -/
inductive Named (e : Enumeration) (name : String) (i : Nat) : Prop
  | exact (first : Text.FirstAt (fun l => l = name) e.variants i)
  | folded (unknown : name ∉ e.variants)
    (first : Text.FirstAt (fun l => Text.sameFolded l name = true) e.variants i)

/-- A value stands for the variant at an ordinal. -/
inductive StandsFor (e : Enumeration) : Value → Nat → Prop
  | text {s core : String} {i : Nat} (trims : Text.Trims s.toList core.toList)
      (named : e.Named core i) : StandsFor e (.text s) i
  | int {n : SizedInt} {i : Nat} (value : n.value = i) (lt : i < e.variants.length) :
      StandsFor e (.int n) i
  | named {x : Variant} {i : Nat} (named : e.Named x.name i) : StandsFor e (.enum x) i
  | placed {x : Variant} (unnamed : ∀ i, ¬e.Named x.name i)
      (lt : x.ordinal < e.variants.length) : StandsFor e (.enum x) x.ordinal

/-! ## Lemmas -/

variable {e : Enumeration} {name : String} {i : Nat} {v w : Value} {x : Variant} {err : Error}

theorem ordinalOf?_eq_some_iff : e.ordinalOf? name = some i ↔ e.Named name i := by
  unfold ordinalOf?
  rw [Text.locate_eq_some_iff, Text.findIdx?_eq_some_iff_firstAt,
    Text.findIdx?_eq_some_iff_firstAt, List.findIdx?_eq_none_iff]
  simp only [beq_iff_eq, Option.some.injEq, Option.any_some, beq_eq_false_iff_ne, ne_eq]
  constructor
  · rintro (h | ⟨hnone, h⟩)
    · exact .exact h
    · exact .folded (fun hname => hnone name hname rfl) h
  · rintro (h | ⟨hunknown, h⟩)
    · exact .inl h
    · refine .inr ⟨fun l hl hname => hunknown ?_, h⟩
      rw [← hname]
      exact hl

theorem ordinalOf?_eq_none_iff : e.ordinalOf? name = none ↔ ∀ i, ¬e.Named name i := by
  rw [Option.eq_none_iff_forall_ne_some]
  simp only [ne_eq, ordinalOf?_eq_some_iff]

theorem Named.lt (h : e.Named name i) : i < e.variants.length :=
  Text.locate_lt (ordinalOf?_eq_some_iff.2 h)

/-- A name finds a variant when one has it, be it in another case. -/
theorem exists_named_iff :
    (∃ i, e.Named name i) ↔ ∃ l ∈ e.variants, Text.sameFolded l name = true := by
  constructor
  · rintro ⟨i, ⟨⟨l, hl, rfl⟩, -⟩ | ⟨-, ⟨l, hl, hfold⟩, -⟩⟩
    · exact ⟨l, List.mem_of_getElem? hl, Text.sameFolded_self l⟩
    · exact ⟨l, List.mem_of_getElem? hl, hfold⟩
  · rintro ⟨l, hl, hfold⟩
    have hfound : ∃ i, e.ordinalOf? name = some i :=
      Text.exists_locate hl rfl (beq_iff_eq.1 hfold)
    obtain ⟨i, hi⟩ := hfound
    exact ⟨i, ordinalOf?_eq_some_iff.1 hi⟩

/-- There is a variant at the ordinal that a value stands for. -/
theorem StandsFor.lt (h : e.StandsFor v i) : i < e.variants.length := by
  cases h with
  | text _ named => exact named.lt
  | int _ lt => exact lt
  | named named => exact named.lt
  | placed _ lt => exact lt

/-- What is looked up for a text is what is between its blanks. -/
theorem ordinalFor?_text_eq_some_iff {s : String} :
    e.ordinalFor? (.text s) = some i ↔ e.StandsFor (.text s) i := by
  show e.ordinalOf? (String.ofList (Text.trim s.toList)) = some i ↔ _
  rw [ordinalOf?_eq_some_iff]
  constructor
  · intro h
    refine .text ?_ h
    rw [String.toList_ofList]
    exact Text.trims_trim s.toList
  · intro h
    cases h with
    | text trims named =>
      rw [Text.trim_eq_iff.2 trims, String.ofList_toList]
      exact named

/-- What is looked up for an integer may be out of range. -/
theorem ordinalFor?_int_eq_some_iff {n : SizedInt} :
    e.ordinalFor? (.int n) = some i ↔ n.value = i := by
  simp only [ordinalFor?, Option.ite_none_right_eq_some, Option.some.injEq]
  omega

/-- A variant of any enumeration goes by its name before it goes by its ordinal. -/
theorem ordinalFor?_enum_eq_some_iff :
    e.ordinalFor? (.enum x) = some i ↔ e.StandsFor (.enum x) i := by
  cases hname : e.ordinalOf? x.name with
  | some j =>
    have hnamed : e.Named x.name j := ordinalOf?_eq_some_iff.1 hname
    have hlookup : e.ordinalFor? (.enum x) = some j := by simp only [ordinalFor?, hname]
    rw [hlookup, Option.some.injEq]
    constructor
    · rintro rfl
      exact .named hnamed
    · intro h
      cases h with
      | named named => exact Option.some.inj (hname.symm.trans (ordinalOf?_eq_some_iff.2 named))
      | placed unnamed => exact absurd hnamed (unnamed j)
  | none =>
    have hunnamed := ordinalOf?_eq_none_iff.1 hname
    have hlookup : e.ordinalFor? (.enum x) = some i ↔
        x.ordinal < e.variants.length ∧ x.ordinal = i := by
      simp only [ordinalFor?, hname, Option.ite_none_right_eq_some, Option.some.injEq]
    rw [hlookup]
    constructor
    · rintro ⟨lt, rfl⟩
      exact .placed hunnamed lt
    · intro h
      cases h with
      | named named => exact absurd named (hunnamed i)
      | placed _ lt => exact ⟨lt, rfl⟩

/-- A value stands for the ordinal that is looked up for it, if there is a variant at it. -/
theorem standsFor_iff :
    e.StandsFor v i ↔ e.ordinalFor? v = some i ∧ i < e.variants.length := by
  cases v with
  | text s =>
    rw [ordinalFor?_text_eq_some_iff, iff_self_and]
    exact StandsFor.lt
  | int n =>
    rw [ordinalFor?_int_eq_some_iff]
    constructor
    · intro h
      cases h with
      | int value lt => exact ⟨value, lt⟩
    · rintro ⟨value, lt⟩
      exact .int value lt
  | enum x =>
    rw [ordinalFor?_enum_eq_some_iff, iff_self_and]
    exact StandsFor.lt
  | _ =>
    constructor
    · intro h
      cases h
    · rintro ⟨⟨⟩, -⟩

/-- The variant that is converted to is the one that the value stands for. -/
theorem bind_variant?_eq_some_iff :
    (e.ordinalFor? v).bind e.variant? = some x ↔
      e.StandsFor v x.ordinal ∧ e.variants[x.ordinal]? = some x.name := by
  simp only [Option.bind_eq_some_iff, variant?_eq_some_iff, standsFor_iff]
  constructor
  · rintro ⟨i, hi, rfl, hx⟩
    obtain ⟨hlt, -⟩ := List.getElem?_eq_some_iff.1 hx
    exact ⟨⟨hi, hlt⟩, hx⟩
  · rintro ⟨⟨hi, -⟩, hx⟩
    exact ⟨x.ordinal, hi, rfl, hx⟩

theorem StandsFor.exists_variant (h : e.StandsFor v i) :
    ∃ x, (e.ordinalFor? v).bind e.variant? = some x := by
  obtain ⟨hi, hlt⟩ := standsFor_iff.1 h
  rw [hi, Option.bind_some]
  exact Option.isSome_iff_exists.1 (isSome_variant?.2 hlt)

theorem convert_of_ne_null (hv : v ≠ .null) :
    e.convert v = v.orElse e.name (((e.ordinalFor? v).bind e.variant?).map .enum) :=
  if_neg fun hnull => hv (Value.isNull_iff.1 hnull)

/-- A conversion keeps an empty cell and gives the variant that any other value stands for. -/
theorem convert_eq_ok_iff :
    e.convert v = .ok w ↔ v = .null ∧ w = .null ∨
      ∃ x, e.StandsFor v x.ordinal ∧ e.variants[x.ordinal]? = some x.name ∧ w = .enum x := by
  by_cases hv : v = .null
  · subst hv
    constructor
    · intro h
      exact .inl ⟨rfl, (Except.ok.inj h).symm⟩
    · rintro (⟨-, rfl⟩ | ⟨x, ⟨⟩, -⟩)
      rfl
  · rw [convert_of_ne_null hv, Value.orElse_eq_ok_iff, Option.map_eq_some_iff]
    simp only [bind_variant?_eq_some_iff, hv, false_and, false_or]
    refine exists_congr fun x => ?_
    rw [and_assoc, eq_comm (a := w)]

/-- A conversion fails when the value stands for no variant. -/
theorem convert_eq_error_iff :
    e.convert v = .error err ↔
      v ≠ .null ∧ (∀ i, ¬e.StandsFor v i) ∧ err = .conversion v e.name := by
  constructor
  · intro h
    have hv : v ≠ .null := by
      rintro rfl
      cases h
    rw [convert_of_ne_null hv, Value.orElse_eq_error_iff, Option.map_eq_none_iff] at h
    refine ⟨hv, fun i hi => ?_, h.2⟩
    obtain ⟨x, hx⟩ := hi.exists_variant
    rw [h.1] at hx
    cases hx
  · rintro ⟨hv, hnone, rfl⟩
    rw [convert_of_ne_null hv, Value.orElse_eq_error_iff, Option.map_eq_none_iff]
    refine ⟨Option.eq_none_iff_forall_ne_some.2 fun x hx => ?_, rfl⟩
    exact hnone x.ordinal (bind_variant?_eq_some_iff.1 hx).1

/-- A text is converted when it names a variant between blanks, be it in another case. -/
theorem exists_convert_text_iff {s : String} :
    (∃ w, e.convert (.text s) = .ok w) ↔
      ∃ core : String, Text.Trims s.toList core.toList ∧
        ∃ l ∈ e.variants, Text.sameFolded l core = true := by
  constructor
  · rintro ⟨w, hw⟩
    rcases convert_eq_ok_iff.1 hw with ⟨⟨⟩, -⟩ | ⟨x, hx, -⟩
    cases hx with
    | text trims named => exact ⟨_, trims, exists_named_iff.1 ⟨_, named⟩⟩
  · rintro ⟨core, trims, hcore⟩
    obtain ⟨i, named⟩ := exists_named_iff.2 hcore
    have hstands : e.StandsFor (.text s) i := .text trims named
    cases h : e.convert (.text s) with
    | ok w => exact ⟨w, rfl⟩
    | error err => exact absurd hstands ((convert_eq_error_iff.1 h).2.1 i)

/-- A variant whose name no other has and no blank begins or ends is found by its name as a text,
even where other names differ from it in case only. -/
theorem convert_text_name (hd : e.variants.Nodup) (hx : e.variant? x.ordinal = some x)
    (hbare : Text.Bare x.name.toList) : e.convert (.text x.name) = .ok (.enum x) := by
  have hnamed : e.Named x.name x.ordinal := ordinalOf?_eq_some_iff.1 (ordinalOf?_name hd hx)
  have hstands : e.StandsFor (.text x.name) x.ordinal := .text hbare.trims hnamed
  exact convert_eq_ok_iff.2 (.inr ⟨x, hstands, (variant?_eq_some_iff.1 hx).2, rfl⟩)

/-- A second conversion keeps what the first gave. -/
theorem convert_of_convert (hd : e.variants.Nodup) (h : e.convert v = .ok w) :
    e.convert w = .ok w := by
  by_cases hv : v = .null
  · subst hv
    cases h
    rfl
  · exact convert_of_inhabits hd (inhabits_of_convert h hv).2

/-! ## Top theorems -/

/-- A value is converted exactly when it is null or stands for a variant, and then to null or to
that variant; otherwise the value could not be converted.  A text stands for a variant exactly when
some variant is called as the text between its blanks, at least when case is ignored.  Where the
variants have distinct names, a second conversion changes nothing; where no blank begins or ends
them either, a variant that was cast to a text is converted back to itself. -/
theorem convert_exact (e : Enumeration) :
    (∀ v w, e.convert v = .ok w ↔ v = .null ∧ w = .null ∨
      ∃ x, e.StandsFor v x.ordinal ∧ e.variants[x.ordinal]? = some x.name ∧ w = .enum x) ∧
    (∀ v err, e.convert v = .error err ↔
      v ≠ .null ∧ (∀ i, ¬e.StandsFor v i) ∧ err = .conversion v e.name) ∧
    (∀ s, (∃ w, e.convert (.text s) = .ok w) ↔
      ∃ core : String, Text.Trims s.toList core.toList ∧
        ∃ l ∈ e.variants, Text.sameFolded l core = true) ∧
    (e.variants.Nodup → ∀ v w, e.convert v = .ok w → e.convert w = .ok w) ∧
    (e.variants.Nodup → (∀ l ∈ e.variants, Text.Bare l.toList) →
      ∀ i x, e.variant? i = some x →
        ∃ s, Kind.text.cast (.enum x) = .ok s ∧ e.convert s = .ok (.enum x)) := by
  refine ⟨fun _ _ => convert_eq_ok_iff, fun _ _ => convert_eq_error_iff,
    fun _ => exists_convert_text_iff, fun hd _ _ => convert_of_convert hd,
    fun hd hbare i x hx => ?_⟩
  obtain ⟨rfl, hname⟩ := variant?_eq_some_iff.1 hx
  have hmem : x.name ∈ e.variants := List.mem_of_getElem? hname
  exact ⟨.text x.name, rfl, convert_text_name hd hx (hbare x.name hmem)⟩

/-- Sizes that differ in case only. -/
def sizes : Enumeration := ⟨"Size", ["xl", "XL", "m"]⟩

/-- A text of neither case finds the first size, which is kept; the second size goes through a text
although the first differs from it in case only. -/
theorem convert_exact_sizes :
    sizes.variants.Nodup ∧ (∀ l ∈ sizes.variants, Text.Bare l.toList) ∧
      (sizes.convert (.text " Xl") = .ok (.enum ⟨0, "xl"⟩) ∧
        sizes.convert (.enum ⟨0, "xl"⟩) = .ok (.enum ⟨0, "xl"⟩)) ∧
      sizes.variant? 1 = some ⟨1, "XL"⟩ ∧
      ∃ s, Kind.text.cast (.enum ⟨1, "XL"⟩) = .ok s ∧ sizes.convert s = .ok (.enum ⟨1, "XL"⟩) := by
  have hd : sizes.variants.Nodup := by decide
  have hbare : ∀ l ∈ sizes.variants, Text.Bare l.toList := by decide
  have hfirst : sizes.convert (.text " Xl") = .ok (.enum ⟨0, "xl"⟩) := by decide
  have hx : sizes.variant? 1 = some ⟨1, "XL"⟩ := by decide
  obtain ⟨-, -, -, hkept, hback⟩ := convert_exact sizes
  exact ⟨hd, hbare, ⟨hfirst, hkept hd _ _ hfirst⟩, hx, hback hd hbare 1 _ hx⟩

end Hydration.Enumeration
