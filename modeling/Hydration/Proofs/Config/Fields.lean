import Hydration.Config
import Mathlib.Data.List.Forall2
import Mathlib.Data.List.Nodup
import Mathlib.Data.List.Perm.Basic

/-!
# Documents of structures

Which documents write a structure with given fields, said without the reader: an object with the
fields that are given, in any order and among other members, or an array of the first fields.  A
field that is not given is left out.

    fields? names j = some vs  ↔  vs are values for the names, and HasFields (names.zip vs) j
                                                                        (fields?_eq_some_iff)
    HasFields fields j  →  (Holds (names of fields) name v j  ↔  (name, some v) ∈ fields)
                                                                        (HasFields.holds_iff)

A reader reads exactly one way of writing when it gives a value for the documents that write it and
refuses all others.  That is kept by `optional`, `list?`, `required` and `withDefault`.  Such a
reader gives every value when every value is written by some document.
-/

namespace Hydration.Config

/-! ## Algorithm -/

/-- The fields of a structure in the order of their declaration, each with the document that is
given for it, if any. -/
abbrev FieldList := List (String × Option Json)

/-- The member for a field, if it is given. -/
def asMember (field : String × Option Json) : List (Option String × Json) :=
  field.2.toList.map fun j => (some field.1, j)

/-- The members for the fields that are given. -/
def givenMembers (fields : FieldList) : List (Option String × Json) := fields.flatMap asMember

/-- A document writes a structure with these fields. -/
inductive HasFields (fields : FieldList) : Json → Prop
  /-- An object of the fields that are given, in any order and among members of other names. -/
  | object {members others : List (Option String × Json)}
    (unknown : ∀ m ∈ others, ∃ k, m.1 = some k ∧ k ∉ fields.map Prod.fst)
    (perm : members.Perm (givenMembers fields ++ others)) : HasFields fields (.object members)
  /-- An array of the first fields; the other ones are not given. -/
  | array {items : List Json} {n : Nat}
    (values : fields.map Prod.snd = items.map some ++ List.replicate n none) :
    HasFields fields (.array items)

/-- Of the members with the name of a field there is just the one that is given, or none. -/
def Sole (members : List (Option String × Json)) (field : String × Option Json) : Prop :=
  members.filter (fun m => m.1 == some field.1) = asMember field

/-- A document of a structure with fields of these names holds `v` for the field `name`. -/
inductive Holds (names : List String) (name : String) (v : Json) : Json → Prop
  | member {members : List (Option String × Json)} (mem : (some name, v) ∈ members) :
    Holds names name v (.object members)
  | item {items : List Json} {i : Nat} (declared : names[i]? = some name)
    (item : items[i]? = some v) : Holds names name v (.array items)

/-- Nothing is held for the field. -/
def Lacks (names : List String) (name : String) (j : Json) : Prop := ∀ v, ¬Holds names name v j

/-- A reader gives a value for the documents that write it and refuses all others. -/
def Reads {δ α : Type} (read : δ → Option α) (Writes : δ → α → Prop) : Prop :=
  ∀ d a, read d = some a ↔ Writes d a

/-- Every value is written by some document. -/
def Expresses {α : Type} (Writes : Json → α → Prop) : Prop := ∀ a, ∃ j, Writes j a

/-! ### Ways of writing -/

def WritesText (j : Json) (s : String) : Prop := j = .string (some s)

def WritesFlag (j : Json) (b : Bool) : Prop := j = .bool b

/-- A value that may be absent, which null writes. -/
inductive WritesOptional {α : Type} (Writes : Json → α → Prop) : Json → Option α → Prop
  | null : WritesOptional Writes .null none
  | value {j : Json} {a : α} (writes : Writes j a) : WritesOptional Writes j (some a)

inductive WritesList {α : Type} (Writes : Json → α → Prop) : Json → List α → Prop
  | array {js : List Json} {as : List α} (items : List.Forall₂ Writes js as) :
    WritesList Writes (.array js) as

/-- A field that has to be given. -/
inductive WritesRequired {α : Type} (Writes : Json → α → Prop) : Option Json → α → Prop
  | given {j : Json} {a : α} (writes : Writes j a) : WritesRequired Writes (some j) a

/-- A field that may be left out when it has its default. -/
inductive WritesDefaulted {α : Type} (default : α) (Writes : Json → α → Prop) :
    Option Json → α → Prop
  | given {j : Json} {a : α} (writes : Writes j a) : WritesDefaulted default Writes (some j) a
  | leftOut : WritesDefaulted default Writes none default

/-! ## Lemmas -/

variable {fields : FieldList} {names : List String} {name : String} {j v : Json}
variable {members : List (Option String × Json)} {items : List Json} {vs : List (Option Json)}

theorem mem_givenMembers_iff {m : Option String × Json} :
    m ∈ givenMembers fields ↔ ∃ k, m.1 = some k ∧ (k, some m.2) ∈ fields := by
  obtain ⟨key, v⟩ := m
  simp only [givenMembers, asMember, List.mem_flatMap, List.mem_map, Option.mem_toList,
    Prod.exists, Prod.mk.injEq]
  constructor
  · rintro ⟨k, o, hmem, v', rfl, rfl, rfl⟩
    exact ⟨k, rfl, hmem⟩
  · rintro ⟨k, rfl, hmem⟩
    exact ⟨k, some v, hmem, v, rfl, rfl, rfl⟩

/-- The given fields in any order. -/
theorem HasFields.of_perm (h : members.Perm (givenMembers fields)) :
    HasFields fields (.object members) :=
  @HasFields.object fields members [] nofun (by rwa [List.append_nil])

theorem sole_iff {f : String × Option Json} :
    Sole members f ↔
      members.countP (fun m => m.1 == some f.1) ≤ 1 ∧ members.lookup (some f.1) = f.2 := by
  obtain ⟨k, o⟩ := f
  unfold Sole asMember
  induction members with
  | nil => cases o <;> simp
  | cons m ms ih =>
    obtain ⟨key, v⟩ := m
    by_cases hkey : key = some k
    · subst hkey
      rw [List.filter_cons_of_pos (by simp), List.countP_cons_of_pos (by simp),
        List.lookup_cons_self, List.countP_eq_length_filter]
      cases o with
      | none => simp
      | some j => simp [and_comm]
    · have hne : (some k == key) = false := beq_false_of_ne fun h => hkey h.symm
      rw [List.filter_cons_of_neg (by simpa using hkey),
        List.countP_cons_of_neg (by simpa using hkey), List.lookup_cons, hne]
      exact ih

theorem fieldsOfMembers_eq_some_iff :
    fieldsOfMembers (fields.map Prod.fst) members = some (fields.map Prod.snd) ↔
      (∀ m ∈ members, m.1.isSome = true) ∧ ∀ f ∈ fields, Sole members f := by
  simp only [fieldsOfMembers, Option.ite_none_right_eq_some, Bool.and_eq_true, List.all_eq_true,
    List.forall_mem_map, decide_eq_true_eq, Option.some.injEq, List.map_map, List.map_inj_left,
    Function.comp, and_assoc, sole_iff, forall_and]

theorem sole_asMember (f : String × Option Json) : Sole (asMember f) f := by
  simp [Sole, asMember]

theorem Sole.append_of_ne {others : List (Option String × Json)} {f : String × Option Json}
    (h : Sole members f) (hothers : ∀ m ∈ others, m.1 ≠ some f.1) :
    Sole (members ++ others) f := by
  have hnone : others.filter (fun m => m.1 == some f.1) = [] :=
    List.filter_eq_nil_iff.2 fun m hm hkey => hothers m hm (beq_iff_eq.1 hkey)
  rw [Sole, List.filter_append, h, hnone, List.append_nil]

/-- Fields of distinct names are given by one member each. -/
theorem sole_givenMembers (hnames : (fields.map Prod.fst).Nodup) {f : String × Option Json}
    (hf : f ∈ fields) : Sole (givenMembers fields) f := by
  induction fields with
  | nil => exact absurd hf List.not_mem_nil
  | cons g rest ih =>
    rw [List.map_cons, List.nodup_cons] at hnames
    rw [givenMembers, List.flatMap_cons]
    rcases List.mem_cons.1 hf with rfl | hf
    · refine (sole_asMember f).append_of_ne fun m hm he => ?_
      obtain ⟨k, hk, hmem⟩ := mem_givenMembers_iff.1 hm
      have hkf : k = f.1 := Option.some.inj (hk.symm.trans he)
      exact hnames.1 (hkf ▸ List.mem_map_of_mem hmem)
    · have hne : g.1 ≠ f.1 := fun h => hnames.1 (h ▸ List.mem_map_of_mem hf)
      have hnone : (asMember g).filter (fun m => m.1 == some f.1) = [] := by
        simp [asMember, hne]
      rw [Sole, List.filter_append, hnone]
      exact ih hnames.2 hf

theorem Sole.of_perm {members' : List (Option String × Json)} {f : String × Option Json}
    (hperm : members.Perm members') (h : Sole members' f) : Sole members f := by
  have hfilter := hperm.filter fun m => m.1 == some f.1
  rw [h] at hfilter
  obtain ⟨k, o⟩ := f
  cases o with
  | none => exact hfilter.eq_nil
  | some j => exact hfilter.eq_singleton

/-- Where each field has its sole member, all other members have other names. -/
theorem exists_others (hnames : (fields.map Prod.fst).Nodup)
    (hsole : ∀ f ∈ fields, Sole members f) :
    ∃ others, (∀ m ∈ others, ∀ f ∈ fields, m.1 ≠ some f.1) ∧
      members.Perm (givenMembers fields ++ others) := by
  -- The first field's member is taken out; what is left still has the members of the later fields.
  induction fields generalizing members with
  | nil => exact ⟨members, fun _ _ _ h => absurd h List.not_mem_nil, .refl _⟩
  | cons g rest ih =>
    rw [List.map_cons, List.nodup_cons] at hnames
    have hrest : ∀ f ∈ rest, Sole (members.filter fun m => !(m.1 == some g.1)) f := by
      intro f hf
      have hne : f.1 ≠ g.1 := fun h => hnames.1 (h ▸ List.mem_map_of_mem hf)
      rw [Sole, List.filter_filter, ← hsole f (List.mem_cons_of_mem _ hf)]
      refine List.filter_congr fun m _ => ?_
      by_cases hm : m.1 = some f.1
      · simp [hm, hne]
      · simp [hm]
    obtain ⟨others, hother, hperm⟩ := ih hnames.2 hrest
    refine ⟨others, ?_, ?_⟩
    · intro m hm f hf
      rcases List.mem_cons.1 hf with rfl | hf
      · have hmem := hperm.mem_iff.2 (List.mem_append_right _ hm)
        simpa using (List.mem_filter.1 hmem).2
      · exact hother m hm f hf
    · have hsplit := List.filter_append_perm (fun m => m.1 == some g.1) members
      rw [hsole g List.mem_cons_self] at hsplit
      rw [givenMembers, List.flatMap_cons, List.append_assoc]
      exact hsplit.symm.trans (hperm.append_left _)

theorem hasFields_object_iff (hnames : (fields.map Prod.fst).Nodup) :
    HasFields fields (.object members) ↔
      (∀ m ∈ members, m.1.isSome = true) ∧ ∀ f ∈ fields, Sole members f := by
  constructor
  · rintro (⟨unknown, perm⟩ | _)
    refine ⟨fun m hm => ?_, fun f hf => ?_⟩
    · rcases List.mem_append.1 (perm.mem_iff.1 hm) with hm | hm
      · obtain ⟨k, hk, -⟩ := mem_givenMembers_iff.1 hm
        rw [hk, Option.isSome_some]
      · obtain ⟨k, hk, -⟩ := unknown m hm
        rw [hk, Option.isSome_some]
    · refine Sole.of_perm perm ((sole_givenMembers hnames hf).append_of_ne fun m hm he => ?_)
      obtain ⟨k, hk, hnew⟩ := unknown m hm
      have hkf : k = f.1 := Option.some.inj (hk.symm.trans he)
      exact hnew (hkf ▸ List.mem_map_of_mem hf)
  · rintro ⟨hkeys, hsole⟩
    obtain ⟨others, hother, hperm⟩ := exists_others hnames hsole
    refine .object (fun m hm => ?_) hperm
    obtain ⟨k, hk⟩ := Option.isSome_iff_exists.1
      (hkeys m (hperm.mem_iff.2 (List.mem_append_right _ hm)))
    refine ⟨k, hk, fun hmem => ?_⟩
    obtain ⟨f, hf, rfl⟩ := List.mem_map.1 hmem
    exact hother m hm f hf hk

/-- The slots of an array are its items, and nothing where they end. -/
theorem map_zipIdx_getElem? (h : items.length ≤ names.length) :
    (names.zipIdx.map fun (_, i) => items[i]?) =
      items.map some ++ List.replicate (names.length - items.length) none := by
  apply List.ext_getElem?
  intro i
  simp only [List.getElem?_map, List.getElem?_zipIdx, List.getElem?_append, List.length_map,
    List.getElem?_replicate]
  grind

theorem fieldsOfItems_eq_some_iff :
    fieldsOfItems (fields.map Prod.fst) items = some (fields.map Prod.snd) ↔
      ∃ n, fields.map Prod.snd = items.map some ++ List.replicate n none := by
  unfold fieldsOfItems
  rw [Option.ite_none_right_eq_some, Option.some.injEq]
  constructor
  · rintro ⟨hlength, hslots⟩
    exact ⟨_, hslots.symm.trans (map_zipIdx_getElem? hlength)⟩
  · rintro ⟨n, hvalues⟩
    have hlength : fields.length = items.length + n := by
      simpa using congrArg List.length hvalues
    have hle : items.length ≤ (fields.map Prod.fst).length := by
      rw [List.length_map]
      omega
    have hn : (fields.map Prod.fst).length - items.length = n := by
      rw [List.length_map]
      omega
    exact ⟨hle, by rw [map_zipIdx_getElem? hle, hn, hvalues]⟩

/-- The values that are read of a document are those of the fields that it writes. -/
theorem fields?_eq_some_iff (hnames : names.Nodup) (hlength : vs.length = names.length) :
    fields? names j = some vs ↔ HasFields (names.zip vs) j := by
  have hfst : (names.zip vs).map Prod.fst = names := List.map_fst_zip (Nat.le_of_eq hlength.symm)
  have hsnd : (names.zip vs).map Prod.snd = vs := List.map_snd_zip (Nat.le_of_eq hlength)
  cases j with
  | object members =>
    rw [hasFields_object_iff (by rwa [hfst]), ← fieldsOfMembers_eq_some_iff, hfst, hsnd]
    rfl
  | array items =>
    have hitems : HasFields (names.zip vs) (.array items) ↔
        ∃ n, (names.zip vs).map Prod.snd = items.map some ++ List.replicate n none :=
      ⟨fun | .array hvalues => ⟨_, hvalues⟩, fun ⟨_, hvalues⟩ => .array hvalues⟩
    rw [hitems, ← fieldsOfItems_eq_some_iff, hfst, hsnd]
    rfl
  | null | bool _ | number _ | string _ =>
    constructor
    · intro h
      cases h
    · intro h
      cases h

theorem getElem?_slots {n i : Nat} :
    (items.map some ++ List.replicate n none)[i]? = some (some v) ↔ items[i]? = some v := by
  by_cases hi : i < items.length
  · rw [List.getElem?_append_left (by rwa [List.length_map]), List.getElem?_map]
    simp
  · rw [List.getElem?_append_right (by rw [List.length_map]; omega), List.getElem?_replicate,
      List.getElem?_eq_none (by omega)]
    simp

/-- What a document holds for a field is what is given for it.  Under a name that is no field, an
object may hold anything. -/
theorem HasFields.holds_iff (h : HasFields fields j) (hname : name ∈ fields.map Prod.fst) :
    Holds (fields.map Prod.fst) name v j ↔ (name, some v) ∈ fields := by
  cases h with
  | object unknown perm =>
    constructor
    · rintro (⟨mem⟩ | _)
      rcases List.mem_append.1 (perm.mem_iff.1 mem) with hgiven | hother
      · obtain ⟨k, hk, hmem⟩ := mem_givenMembers_iff.1 hgiven
        cases hk
        exact hmem
      · obtain ⟨k, hk, hnew⟩ := unknown _ hother
        cases hk
        exact absurd hname hnew
    · intro hmem
      have hgiven : (some name, v) ∈ givenMembers fields :=
        mem_givenMembers_iff.2 ⟨name, rfl, hmem⟩
      exact .member (perm.mem_iff.2 (List.mem_append_left _ hgiven))
  | @array items n values =>
    -- Names and values are two lists; an index ties them together.
    have hslot : ∀ i : Nat, (fields.map Prod.snd)[i]? = some (some v) ↔ items[i]? = some v := by
      intro i
      rw [values, getElem?_slots]
    simp only [List.getElem?_map, Option.map_eq_some_iff] at hslot
    constructor
    · rintro (_ | ⟨declared, item⟩)
      rename_i i
      obtain ⟨f, hf, hvalue⟩ := (hslot i).2 item
      rw [List.getElem?_map, hf, Option.map_some, Option.some.injEq] at declared
      rw [← declared, ← hvalue]
      exact List.mem_of_getElem? hf
    · intro hmem
      obtain ⟨i, hi⟩ := List.mem_iff_getElem?.1 hmem
      exact .item (by rw [List.getElem?_map, hi, Option.map_some]) ((hslot i).1 ⟨_, hi, rfl⟩)

theorem HasFields.eq_of_holds (h : HasFields fields j) (hnames : (fields.map Prod.fst).Nodup)
    {o : Option Json} (hmem : (name, o) ∈ fields) (hholds : Holds (fields.map Prod.fst) name v j) :
    o = some v := by
  have hgiven := (h.holds_iff (List.mem_map_of_mem hmem)).1 hholds
  exact congrArg Prod.snd (List.inj_on_of_nodup_map hnames hmem hgiven rfl)

/-- A field that has to be given is held. -/
theorem HasFields.not_lacks {α : Type} {Writes : Json → α → Prop} {o : Option Json} {a : α}
    (h : HasFields fields j) (hmem : (name, o) ∈ fields) (hwrites : WritesRequired Writes o a) :
    ¬Lacks (fields.map Prod.fst) name j := by
  cases hwrites with
  | given writes => exact fun lacks => lacks _ ((h.holds_iff (List.mem_map_of_mem hmem)).2 hmem)

theorem not_hasFields_null : ¬HasFields fields .null := nofun

theorem exists_of_forall₂ {α β : Type} {R : α → β → Prop} {xs : List α} {ys : List β} {x : α}
    (h : List.Forall₂ R xs ys) (hx : x ∈ xs) : ∃ y, R x y := by
  induction h with
  | nil => cases hx
  | cons hxy _ ih =>
    cases hx with
    | head => exact ⟨_, hxy⟩
    | tail _ hx => exact ih hx

/-! ### Readers -/

section Readers

variable {α : Type} {read : Json → Option α} {Writes : Json → α → Prop}

theorem reads_text : Reads text? WritesText := by
  intro j s
  cases j <;> simp [text?, WritesText]

theorem reads_flag : Reads bool? WritesFlag := by
  intro j b
  cases j <;> simp [bool?, WritesFlag]

theorem Reads.optional (h : Reads read Writes) (hnull : ∀ a, ¬Writes .null a) :
    Reads (Config.optional read) (WritesOptional Writes) := by
  intro j o
  constructor
  · intro hread
    cases o with
    | none =>
      cases j with
      | null => exact .null
      | _ => simp [Config.optional] at hread
    | some a =>
      cases j with
      | null => simp [Config.optional] at hread
      | _ => exact .value ((h _ a).1 (by simpa [Config.optional] using hread))
  · rintro (_ | hwrites)
    · rfl
    · rename_i a
      have hread := (h j a).2 hwrites
      cases j with
      | null => exact absurd hwrites (hnull a)
      | _ => simp [Config.optional, hread]

theorem Reads.each_eq_some_iff (h : Reads read Writes) {js : List Json} {as : List α} :
    each read js = some as ↔ List.Forall₂ Writes js as := by
  induction js generalizing as with
  | nil => cases as <;> simp [each]
  | cons j js ih =>
    constructor
    · intro hread
      rw [each] at hread
      split at hread
      · rename_i a as' ha has
        cases hread
        exact .cons ((h j a).1 ha) (ih.1 has)
      · cases hread
    · rintro (_ | ⟨hwrites, hrest⟩)
      rw [each, (h _ _).2 hwrites, ih.2 hrest]

theorem Reads.list (h : Reads read Writes) : Reads (list? read) (WritesList Writes) := by
  intro j as
  constructor
  · intro hread
    cases j with
    | array js => exact .array (h.each_eq_some_iff.1 hread)
    | _ => cases hread
  · rintro ⟨items⟩
    exact h.each_eq_some_iff.2 items

theorem Reads.required (h : Reads read Writes) :
    Reads (Config.required read) (WritesRequired Writes) := by
  intro o a
  constructor
  · intro hread
    cases o with
    | none => cases hread
    | some j => exact .given ((h j a).1 hread)
  · rintro ⟨writes⟩
    exact (h _ a).2 writes

theorem Reads.withDefault (h : Reads read Writes) (default : α) :
    Reads (Config.withDefault default read) (WritesDefaulted default Writes) := by
  intro o a
  constructor
  · intro hread
    cases o with
    | none =>
      cases hread
      exact .leftOut
    | some j => exact .given ((h j a).1 hread)
  · rintro (⟨writes⟩ | _)
    · exact (h _ a).2 writes
    · rfl

theorem expresses_text : Expresses WritesText := fun s => ⟨.string (some s), rfl⟩

theorem expresses_flag : Expresses WritesFlag := fun b => ⟨.bool b, rfl⟩

theorem exists_forall₂ {β : Type} {R : β → α → Prop} (h : ∀ a, ∃ b, R b a)
    (as : List α) : ∃ bs, List.Forall₂ R bs as := by
  choose f hf using h
  exact ⟨as.map f, List.forall₂_map_left_iff.2 (List.forall₂_same.2 fun a _ => hf a)⟩

theorem Expresses.list (h : Expresses Writes) : Expresses (WritesList Writes) := by
  intro as
  obtain ⟨js, hjs⟩ := exists_forall₂ h as
  exact ⟨.array js, .array hjs⟩

theorem Expresses.optional (h : Expresses Writes) : Expresses (WritesOptional Writes) := by
  intro o
  cases o with
  | none => exact ⟨.null, .null⟩
  | some a =>
    obtain ⟨j, hj⟩ := h a
    exact ⟨j, .value hj⟩

end Readers

end Hydration.Config
